import ArchLint.Syntax.Printer.Enclose
import ArchLint.Syntax.Printer.Form

/-!
# Printing of expressions

One rule for each class of expression.  Brackets are written only where the levels ask for them;
the operands of a connective rise a level each, so that `not a and (not b)` keeps its second pair.
-/

namespace ArchLint.Syntax.Form

open ArchLint.Text (Letter Letters)

/-! ## Literals and formatted text -/

/-- The spelling of a value.  Where backslashes are to be avoided, text takes the quotes that need
none. -/
def spelled (form : Form) (slot : Slot) : Piece :=
  match slot with
  | .other (.text t) =>
    if form.style.plain then .text (Letters.ofChars (Enclose.write t Enclose.all))
    else .str (Text.quoteLetters t)
  | .other c => if c.isTooLong then .stop .tooManyDigits else .str c.spelling
  | other => .str other.value.repr

/-- A literal: the dots of an ellipsis, else its mark and its spelling. -/
def constant (form : Form) : List Piece :=
  form.need .value fun value =>
    match value with
    | .other .ellipsis => [.str "..."]
    | _ => form.need .kind fun kind =>
      (if kind.isText "u" then [.str "u"] else []) ++ [form.spelled value]

def conversionText (n : Int) : Piece :=
  if n < -0x80000000 ∨ 0x80000000 ≤ n then .stop .largeConversion
  else if 0 ≤ n ∧ n < 0x110000 then .text [.char '!', Letter.ofCode n.toNat]
  else .stop .badConversion

/-- The conversion of a replacement field; -1 is none. -/
def conversion : Slot → List Piece
  | .other (.int n) => if n = -1 then [] else [conversionText n]
  | .other (.bool b) => [conversionText (if b then 1 else 0)]
  | slot => [.stop (.notAnInteger slot.label)]

/-- A replacement field: an expression without backslashes, a conversion, a format.  The expression
is printed on a sheet of its own; one that opens with a brace is set off by a blank. -/
def replacement (form : Form) : List Piece :=
  .str "\x7b" :: form.need .value fun value =>
    match assemble (value.settled ++ value.pieces { level := Level.test.next, plain := true }) with
    | .error fault => [.stop fault]
    | .ok expression =>
      if expression.contains (.char '\\') then [.stop .backslashInField]
      else
        (if expression.head? = some (.char '\x7b') then [.str " "] else []) ++
          .text expression :: form.need .conversion fun code =>
            conversion code ++ form.need .formatSpec fun spec =>
              (if spec.isSet then .str ":" :: spec.part form.style else []) ++ [.str "\x7d"]

def doubleBraces (t : Letters) : Letters :=
  t.flatMap fun letter =>
    if letter = .char '\x7b' || letter = .char '\x7d' then [letter, letter] else [letter]

/-- The node as a part of a formatted text: text with its braces doubled, or replacement fields. -/
def asPart (form : Form) : List Piece :=
  let stray : List Piece := [.stop (.strayPart (Value.node (.mk form.kind form.line [])).repr)]
  match form.kind with
  | .joinedStr =>
    form.need .values fun values => each values fun items => items.flatMap (Slot.part form.style)
  | .formattedValue => form.replacement
  | .constant =>
    form.need .value fun value =>
      match value with
      | .other (.text t) => [.text (doubleBraces t)]
      | _ => stray
  | _ => stray

/-- A formatted text: its parts between quotes that suit them all. -/
def joined (form : Form) : List Piece :=
  .str "f" :: form.need .values fun values => each values fun items =>
    let parts := items.mapM fun item =>
      (assemble (item.part form.style)).map fun t => (t, item.kind? == some .constant)
    match parts with
    | .error fault => [.stop fault]
    | .ok parts =>
      [.text (Letters.ofChars (if form.style.plain then Enclose.write (parts.flatMap (·.1)) Enclose.all
        else Enclose.writeParts parts))]

/-! ## Operators -/

/-- The operands of a connective, each at a level one step above the one before. -/
def operands (form : Form) (spelling : String) : Level → List Slot → List Piece
  | _, [] => []
  | level, [last] => form.childAt level.next last
  | level, first :: rest =>
    form.childAt level.next first ++
      .str (" " ++ spelling ++ " ") :: operands form spelling level.next rest

def connective (form : Form) : List Piece :=
  form.need .op fun op =>
    match op.kind?.bind Kind.connective? with
    | none => [.stop (.wrongOperator op.label)]
    | some (spelling, level) =>
      form.parens level <| form.need .values fun values => each values fun items =>
        form.operands spelling level items

/-- An operator before its operand; a word is set off by a blank. -/
def unary (form : Form) : List Piece :=
  form.need .op fun op =>
    match op.kind?.bind Kind.unaryOperator? with
    | none => [.stop (.wrongOperator op.label)]
    | some (spelling, level) =>
      form.parens level <|
        .str spelling :: (if level = .factor then [] else [.str " "]) ++
          form.need .operand fun operand => form.childAt level operand

def binary (form : Form) : List Piece :=
  form.need .op fun op =>
    match op.kind?.bind Kind.binaryOperator? with
    | none => [.stop (.wrongOperator op.label)]
    | some (spelling, level) =>
      let (leftLevel, rightLevel) :=
        if level = .power then (level.next, level) else (level, level.next)
      form.parens level <|
        form.need .left fun left =>
          form.childAt leftLevel left ++ .str (" " ++ spelling ++ " ") ::
            form.need .right fun right => form.childAt rightLevel right

def comparisons (form : Form) : List (Slot × Slot) → List Piece
  | [] => []
  | (op, operand) :: rest =>
    match op.kind?.bind Kind.comparison? with
    | none => [.stop (.wrongOperator op.label)]
    | some spelling =>
      .str (" " ++ spelling ++ " ") :: form.child Level.cmp.next operand ++ comparisons form rest

def comparison (form : Form) : List Piece :=
  form.parens .cmp <|
    form.need .left fun left => form.need .comparators fun comparators =>
      spread comparators fun operands =>
        left.settled ++ operands.flatMap Slot.settled ++ form.child Level.cmp.next left ++
          form.need .ops fun ops => each ops fun operators =>
            form.comparisons (operators.zip operands)

/-! ## Parameters -/

/-- A list continued by another slot, or text by text. -/
def continued (first second : Slot) : Except Fault Slot :=
  match first, second with
  | .list a, .list b => .ok (.list (a ++ b))
  | .list _, other => .error (.notJoinable "list" other.label)
  | .other (.text a), .other (.text b) => .ok (.other (.text (a ++ b)))
  | .other (.text _), other => .error (.notJoinable "str" other.label)
  | .other a, .other b =>
    if a.isInteger && b.isInteger then .ok (.other (.int 0))
    else .error (.notAddable a.label b.label)
  | a, b => .error (.notAddable a.label b.label)

/-- Parameters with their defaults, after `index` others; a slash after the positional-only
ones. -/
def parameters (form : Form) (positional : Nat) : Nat → List (Slot × Slot) → List Piece
  | _, [] => []
  | index, (parameter, fallback) :: rest =>
    (if index = 0 then [] else [.str ", "]) ++ form.inside parameter ++
      (if fallback.isSet then .str "=" :: form.inside fallback else []) ++
      (if index + 1 = positional then [.str ", /"] else []) ++
      parameters form positional (index + 1) rest

/-- The positional parameters, and what follows them, which is told whether there were any. -/
def positionalThen (form : Form) (rule : Bool → List Piece) : List Piece :=
  form.need .posonlyargs fun positional => form.need .args fun args =>
    match continued positional args with
    | .error fault => [.stop fault]
    | .ok named =>
      measure named fun named => form.need .defaults fun defaults =>
        measure defaults fun given =>
          match defaults with
          | .list _ =>
            let missing : List Slot := List.replicate (named.length - given.length) (.other .none)
            let shown := named.zip (missing ++ given)
            measure positional fun before =>
              form.parameters before.length 0 shown ++ rule shown.isEmpty
          | other => [.stop (.notJoinable "list" other.label)]

/-- The parameter that takes the other positional arguments, or a star alone when named ones
follow; and what comes next, which is told whether anything stands before it. -/
def restThen (form : Form) (first : Bool) (rule : Bool → List Piece) : List Piece :=
  let star := (if first then [] else [.str ", "]) ++ [Piece.str "*"]
  form.need .vararg fun vararg =>
    if vararg.isSet then
      star ++ (match vararg with
        | .node _ print => print { form.below .test with place := .rest }
        | other => [.stop (.lacks other.label "arg")]) ++ rule false
    else form.need .kwonlyargs fun named =>
      if named.isSet then star ++ rule false else rule first

def namedOnly (form : Form) : List Piece :=
  form.need .kwonlyargs fun named =>
    if named.isSet then
      form.need .kwDefaults fun fallbacks => each named fun names => each fallbacks fun values =>
        (names.zip values).flatMap fun (parameter, fallback) =>
          .str ", " :: form.inside parameter ++
            if fallback.isSet then .str "=" :: form.inside fallback else []
    else []

def argumentList (form : Form) : List Piece :=
  form.positionalThen fun first => form.restThen first fun first =>
    form.namedOnly ++ form.need .kwarg fun kwarg =>
      if kwarg.isSet then
        (if first then [] else [.str ", "]) ++
          match kwarg with
          | .node _ print => print { form.below .test with place := .namedRest }
          | other => [.stop (.lacks other.label "arg")]
      else []

/-- The name of a parameter and its annotation, the name after the given stars. -/
def parameter (form : Form) (name : Slot → Piece) : List Piece :=
  form.need .arg fun arg => name arg :: form.optional ": " .typeHint

/-- A function without a name.  Its parameters are printed on a sheet of their own. -/
def lambda (form : Form) : List Piece :=
  form.parens .test <|
    .str "lambda" :: form.need .args fun args =>
      let shown := setAside (form.inside args)
      (if shown.isEmpty then [] else .str " " :: shown) ++
        .str ": " :: form.need .body fun body => form.childAt .test body

/-! ## Comprehensions -/

def comprehensionClause (form : Form) : List Piece :=
  form.need .isAsync fun isAsync =>
    .str (if isAsync.isSet then " async for " else " for ") ::
      form.need .target fun target =>
        form.childAt .tuple target ++ .str " in " ::
          form.need .iter fun iter => form.need .ifs fun ifs => spread ifs fun tests =>
            iter.settled ++ tests.flatMap Slot.settled ++ form.child Level.test.next iter ++
              tests.flatMap fun test => .str " if " :: form.child Level.test.next test

def clauses (form : Form) : List Piece :=
  form.need .generators fun generators => each generators fun items => items.flatMap form.inside

def comprehension (form : Form) (opening closing : String) : List Piece :=
  .str opening :: form.need .elt fun elt => form.inside elt ++ form.clauses ++ [.str closing]

/-! ## Displays, calls and accesses -/

/-- An entry of a dictionary: a key and a value, or a dictionary to merge in. -/
def dictEntry (form : Form) : Slot × Slot → List Piece
  | (.other .none, value) => .str "**" :: form.childAt .expr value
  | (key, value) => form.inside key ++ .str ": " :: form.inside value

/-- A tuple: in brackets unless it stands where commas are expected. -/
def tuple (form : Form) : List Piece :=
  form.need .elts fun elts => measure elts fun items =>
    if items.isEmpty || form.style.level.above .tuple then
      .str "(" :: form.tupleItems items ++ [.str ")"]
    else form.tupleItems items

/-- A call: arguments, then named ones. -/
def call (form : Form) : List Piece :=
  form.need .func fun func =>
    form.childAt .atom func ++ .str "(" :: form.need .args fun args => each args fun positional =>
      between ", " (positional.map form.inside) ++
        form.need .keywords fun keywords => each keywords fun named =>
          (if positional.isEmpty || named.isEmpty then [] else [.str ", "]) ++
            between ", " (named.map form.inside) ++ [.str ")"]

/-- An access by index; a tuple with items needs no brackets there. -/
def subscript (form : Form) : List Piece :=
  form.need .value fun value =>
    form.childAt .atom value ++ .str "[" :: form.need .slice fun index =>
      match index with
      | .node n _ =>
        if n.kind = .tuple then
          match n.get? .elts with
          | none => [.stop (.missingField n.kind .elts)]
          | some elts => form.child (if elts.isSet then .tuple else .test) index ++ [.str "]"]
        else form.inside index ++ [.str "]"]
      | _ => form.inside index ++ [.str "]"]

/-- An access to an attribute; a whole number is set off from the dot. -/
def access (form : Form) : List Piece :=
  form.need .value fun value =>
    form.childAt .atom value ++
      (if (value.constant?.map Constant.isInteger).getD false then [.str " "] else []) ++
      .str "." :: form.need .attr fun attr => [attr.written]

/-- A word, and an expression after it when there is one. -/
def wordAnd (form : Form) (level : Level) (word : String) : List Piece :=
  form.parens level <| .str word :: form.need .value fun value =>
    if value.isSet then .str " " :: form.childAt .atom value else []

def expression (form : Form) : List Piece :=
  match form.kind with
  | .namedExpr =>
    form.parens .namedExpr <|
      form.need .target fun target => form.need .value fun value =>
        target.settled ++ value.settled ++ form.child .atom target ++ .str " := " ::
          form.child .atom value
  | .await => form.wordAnd .await "await"
  | .yield => form.wordAnd .yield "yield"
  | .yieldFrom =>
    form.parens .yield <| .str "yield from " :: form.need .value fun value =>
      if value.isSet then form.childAt .atom value else [.stop .missingDelegate]
  | .ifExpr =>
    form.parens .test <|
      form.need .body fun body => form.need .test fun test =>
        body.settled ++ test.settled ++ form.child Level.test.next body ++ .str " if " ::
          form.child Level.test.next test ++ .str " else " ::
            form.need .orelse fun orelse => form.childAt .test orelse
  | .lambdaExpr => form.lambda
  | .boolOp => form.connective
  | .unaryOp => form.unary
  | .binOp => form.binary
  | .compare => form.comparison
  | .attribute => form.access
  | .subscript => form.subscript
  | .slice =>
    (form.need .lower fun lower => if lower.isSet then form.inside lower else []) ++ .str ":" ::
      (form.need .upper fun upper => if upper.isSet then form.inside upper else []) ++
        form.optional ":" .step
  | .call => form.call
  | .keyword =>
    form.need .arg fun arg =>
      (match arg with
        | .other .none => [.str "**"]
        | given => [given.written, .str "="]) ++
      form.need .value fun value => form.inside value
  | .starred => .str "*" :: form.need .value fun value => form.childAt .expr value
  | .tuple => form.tuple
  | .list => .str "[" :: form.need .elts fun elts => form.commas elts ++ [.str "]"]
  | .set =>
    form.need .elts fun elts =>
      if elts.isSet then .str "\x7b" :: form.commas elts ++ [.str "\x7d"]
      else [.str "\x7b*()\x7d"]
  | .dict =>
    .str "\x7b" :: form.need .keys fun keys => form.need .values fun values =>
      each keys fun keys => each values fun values =>
        between ", " ((keys.zip values).map form.dictEntry) ++ [.str "\x7d"]
  | .listComp => form.comprehension "[" "]"
  | .setComp => form.comprehension "\x7b" "\x7d"
  | .generatorExp => form.comprehension "(" ")"
  | .dictComp =>
    .str "\x7b" :: form.need .key fun key =>
      form.inside key ++ .str ": " :: form.need .value fun value =>
        form.inside value ++ form.clauses ++ [.str "\x7d"]
  | .comprehension => form.comprehensionClause
  | .arguments => form.argumentList
  | .arg => form.parameter Slot.written
  | .constant => form.constant
  | .joinedStr => form.joined
  | .formattedValue => form.replacement
  | .name => form.need .id fun id => [id.written]
  | _ => []

end ArchLint.Syntax.Form
