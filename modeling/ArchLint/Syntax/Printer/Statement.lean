import ArchLint.Syntax.Printer.Expression

/-!
# Printing of statements and patterns

A tree may hold a statement where an expression is expected; it is then printed over several
lines, four blanks for each step of indentation.
-/

namespace ArchLint.Syntax.Form

open ArchLint.Text (Letters)

/-! ## Bodies and definitions -/

/-- The text that opens a body, and whether it is marked. -/
def textOfLiteral? (literal : Node) : Except Fault (Option (Letters × Bool)) :=
  match literal.get? .value with
  | none => .error (.missingField literal.kind .value)
  | some (.constant (.text t)) => .ok (some (t, literal.get? .kind == some (.text "u")))
  | some _ => .ok none

/-- The text that a statement is, when it is nothing else. -/
def textOfStatement? : Slot → Except Fault (Option (Letters × Bool))
  | .node n _ =>
    if n.kind = .exprStmt then
      match n.get? .value with
      | none => .error (.missingField n.kind .value)
      | some (.node literal) =>
        if literal.kind = .constant then textOfLiteral? literal else .ok none
      | some _ => .ok none
    else .ok none
  | _ => .ok none

/-- A body in the given style: a text that opens it stands between triple quotes. -/
def bodyWithDoc (form : Form) (style : Style) : List Piece :=
  form.need .body fun body => measure body fun items =>
    match items with
    | [] => body.pieces style
    | first :: rest =>
      match textOfStatement? first with
      | .error fault => [.stop fault]
      | .ok none => body.pieces style
      | .ok (some (text, marked)) =>
        Form.fill { form with style := style } "" ++ (if marked then [.str "u"] else []) ++
          .text (Letters.ofChars (Enclose.write text Enclose.triple)) :: itemPieces style rest

def definitionBody (form : Form) : List Piece :=
  .str ":" :: form.bodyWithDoc { form.below .test with indent := form.style.indent + 1 }

/-- Decorators, each on a line of its own, after a line end. -/
def decorators (form : Form) : List Piece :=
  .lineEnd :: form.need .decoratorList fun decorated => each decorated fun items =>
    items.flatMap fun decorator => form.fill "@" ++ form.inside decorator

def function (form : Form) (opening : String) : List Piece :=
  form.decorators ++ form.need .name fun name =>
    form.fillWith (opening ++ " ") name ++ .str "(" :: form.need .args fun args =>
      form.inside args ++ .str ")" :: form.optional " -> " .returns ++
        form.withLine form.definitionBody

/-- What a class is made from: bases, then named arguments. -/
def bases (form : Form) : List Piece :=
  form.need .bases fun bases =>
    let listed : List Piece := each bases fun first =>
      between ", " (first.map form.inside) ++
        form.need .keywords fun keywords => each keywords fun second =>
          (if first.isEmpty || second.isEmpty then [] else [.str ", "]) ++
            between ", " (second.map form.inside)
    if bases.isSet then .str "(" :: listed ++ [.str ")"]
    else form.need .keywords fun keywords =>
      if keywords.isSet then .str "(" :: listed ++ [.str ")"] else listed

def classDefinition (form : Form) : List Piece :=
  form.decorators ++ form.need .name fun name =>
    form.fillWith "class " name ++ form.bases ++ form.definitionBody

/-! ## Blocks -/

def forLoop (form : Form) (opening : String) : List Piece :=
  form.fill opening ++ form.need .target fun target =>
    form.childAt .tuple target ++ .str " in " :: form.need .iter fun iter =>
      form.inside iter ++ form.withLine (form.block .body ++ form.extraBlock "else" .orelse)

def withBlock (form : Form) (opening : String) : List Piece :=
  form.fill opening ++ form.need .items fun items =>
    form.commas items ++ form.withLine (form.block .body)

/-- A block with handlers; `group` says whether they are for groups. -/
def guarded (form : Form) (group : Bool) : List Piece :=
  let form := { form with style := { form.style with group := group } }
  form.fill "try" ++ form.block .body ++
    (form.need .handlers fun handlers => each handlers fun items => items.flatMap form.inside) ++
    form.extraBlock "else" .orelse ++ form.extraBlock "finally" .finalbody

/-- What follows a conditional: one that is the whole alternative of another continues it. -/
def alternative (form : Form) : List Piece :=
  form.need .orelse fun orelse =>
    if orelse.isSet then
      measure orelse fun items =>
        match items with
        | [.node n print] =>
          if n.kind = .ifStmt then print { form.below .test with place := .elseIf }
          else form.extraBlock "else" .orelse
        | _ => form.extraBlock "else" .orelse
    else []

def conditional (form : Form) : List Piece :=
  form.fill (if form.style.place = .elseIf then "elif " else "if ") ++
    form.need .test fun test => form.inside test ++ form.block .body ++ form.alternative

def handler (form : Form) : List Piece :=
  form.fill (if form.style.group then "except*" else "except") ++ form.optional " " .exceptType ++
    form.need .name fun name =>
      (if name.isSet then [.str " as ", name.written] else []) ++ form.block .body

/-! ## Simple statements -/

/-- An assignment to one target after the other. -/
def assignment (form : Form) : List Piece :=
  form.fill "" ++ form.need .targets fun targets => each targets fun items =>
    (items.flatMap fun target => form.childAt .tuple target ++ [.str " = "]) ++
      form.need .value fun value => form.inside value ++ form.withLine []

def augmentedAssignment (form : Form) : List Piece :=
  form.fill "" ++ form.need .target fun target =>
    form.inside target ++ form.need .op fun op =>
      match op.kind?.bind Kind.binaryOperator? with
      | none => [.stop (.wrongOperator op.label)]
      | some (spelling, _) =>
        .str (" " ++ spelling ++ "= ") :: form.need .value fun value => form.inside value

/-- An assignment with an annotation; a name that is not simple stands in brackets. -/
def annotatedAssignment (form : Form) : List Piece :=
  form.fill "" ++ form.need .simple fun simple => form.need .target fun target =>
    (if !simple.isSet && target.kind? = some .name then
        .str "(" :: form.inside target ++ [.str ")"]
      else form.inside target) ++
    .str ": " :: form.need .typeHint fun hint => form.inside hint ++ form.optional " = " .value

def raising (form : Form) : List Piece :=
  form.fill "raise" ++ form.need .exc fun exc =>
    if exc.isSet then .str " " :: form.inside exc ++ form.optional " from " .cause
    else form.need .cause fun cause => if cause.isSet then [.stop .causeWithoutException] else []

def dots : Slot → Piece
  | .other (.int n) =>
    if n < -0x8000000000000000 ∨ 0x8000000000000000 ≤ n then .stop .largeCount
    else .str (String.ofList (List.replicate n.toNat '.'))
  | .other (.bool b) => .str (if b then "." else "")
  | slot => if slot.isSet then .stop (.notACount slot.label) else .str ""

def importFrom (form : Form) : List Piece :=
  form.fill "from " ++ form.need .level fun level =>
    dots level :: form.need .moduleName fun source =>
      (if source.isSet then [source.written] else []) ++
        .str " import " :: form.need .names fun names => form.commas names

def wordAndNames (form : Form) (word : String) : List Piece :=
  form.fill word ++ form.need .names fun names => each names fun items =>
    between ", " (items.map fun name => [name.written])

/-! ## Patterns -/

/-- The entries of two lists that belong together, as far as both go; a rest is a fault. -/
def pairs (entry : Slot → Slot → List Piece) : Bool → List Slot → List Slot → List Piece
  | _, [], [] => []
  | _, [], _ :: _ => [.stop (.unequalLists true)]
  | _, _ :: _, [] => [.stop (.unequalLists false)]
  | first, a :: as, b :: bs =>
    (if first then [] else [.str ", "]) ++ entry a b ++ pairs entry false as bs

def mappingPattern (form : Form) : List Piece :=
  .str "\x7b" :: form.need .keys fun keys => form.need .patterns fun patterns =>
    (each keys fun names => each patterns fun values =>
      pairs (fun key pattern => form.inside key ++ .str ": " :: form.inside pattern)
        true names values) ++
    form.need .rest fun rest =>
      (match rest with
        | .other .none => []
        | given => (if keys.isSet then [.str ", "] else []) ++ [.str ("**" ++ given.shown)]) ++
      [.str "\x7d"]

def classPattern (form : Form) : List Piece :=
  form.need .cls fun cls =>
    form.childAt .atom cls ++ .str "(" :: form.need .patterns fun patterns =>
      form.commas patterns ++ form.need .kwdAttrs fun names =>
        (if names.isSet then
            (if patterns.isSet then [.str ", "] else []) ++
              form.need .kwdPatterns fun values => each names fun names => each values fun values =>
                pairs (fun name pattern => .str (name.shown ++ "=") :: form.inside pattern)
                  true names values
          else []) ++ [.str ")"]

def capturePattern (form : Form) : List Piece :=
  form.need .name fun name => form.need .pattern fun pattern =>
    match name, pattern with
    | .other .none, _ => [.str "_"]
    | given, .other .none => [given.written]
    | given, inner =>
      form.parens .test (form.childAt .expr inner ++ [.str (" as " ++ given.shown)])

def alternatives (form : Form) : List Piece :=
  form.parens .expr <|
    form.need .patterns fun patterns => spread patterns fun items =>
      items.flatMap Slot.settled ++ between " | " (items.map (form.child Level.expr.next))

/-! ## Roots -/

/-- The comments of a module that are for type checkers; there are none in a tree. -/
def ignored : Slot → List Piece
  | .node n _ =>
    if n.line.isSome then [.stop (.lacks n.kind.label "tag")] else [.stop (.missingLine n.kind)]
  | slot => [.stop (.lacks slot.label "lineno")]

def moduleRoot (form : Form) : List Piece :=
  form.need .typeIgnores fun comments => each comments fun items =>
    items.flatMap ignored ++ form.bodyWithDoc (form.below .test)

/-- The nodes of a slot, each printed on an empty sheet. -/
def anew (form : Form) : Slot → List Piece
  | .list items => items.flatMap fun item =>
    if item.kind?.isSome then .restart :: form.inside item ++ [.check] else []
  | .node n print => .restart :: form.inside (.node n print) ++ [.check]
  | .other _ => []

def statement (form : Form) : List Piece :=
  match form.kind with
  | .moduleBody => form.moduleRoot
  | .expression | .interactive => form.slots.flatMap fun (_, slot) => form.anew slot
  | .exprStmt => form.fill "" ++ form.need .value fun value => form.childAt .yield value
  | .functionDef => form.function "def"
  | .asyncFunctionDef => form.function "async def"
  | .classDef => form.classDefinition
  | .returnStmt => form.fill "return" ++ form.optional " " .value
  | .deleteStmt => form.fill "del " ++ form.need .targets fun targets => form.commas targets
  | .assign => form.assignment
  | .augAssign => form.augmentedAssignment
  | .annAssign => form.annotatedAssignment
  | .forStmt => form.forLoop "for "
  | .asyncFor => form.forLoop "async for "
  | .whileStmt =>
    form.fill "while " ++ form.need .test fun test =>
      form.inside test ++ form.block .body ++ form.extraBlock "else" .orelse
  | .ifStmt => form.conditional
  | .withStmt => form.withBlock "with "
  | .asyncWith => form.withBlock "async with "
  | .matchStmt =>
    form.fill "match " ++ form.need .subject fun subject =>
      form.inside subject ++ .str ":" :: form.need .cases fun cases => each cases fun items =>
        items.flatMap form.indented
  | .raiseStmt => form.raising
  | .tryStmt => form.guarded false
  | .tryStar => form.guarded true
  | .exceptHandler => form.handler
  | .assertStmt =>
    form.fill "assert " ++ form.need .test fun test => form.inside test ++ form.optional ", " .msg
  | .importStmt => form.fill "import " ++ form.need .names fun names => form.commas names
  | .importFrom => form.importFrom
  | .globalStmt => form.wordAndNames "global "
  | .nonlocalStmt => form.wordAndNames "nonlocal "
  | .pass => form.fill "pass"
  | .breakStmt => form.fill "break"
  | .continueStmt => form.fill "continue"
  | .importAlias =>
    form.need .name fun name =>
      name.written :: form.need .asname fun asname =>
        if asname.isSet then [asname.writtenAfter " as "] else []
  | .withItem =>
    form.need .contextExpr fun context => form.inside context ++ form.optional " as " .optionalVars
  | .matchCase =>
    form.fill "case " ++ form.need .pattern fun pattern =>
      form.inside pattern ++ form.optional " if " .guard ++ form.block .body
  | .matchValue => form.need .value fun value => form.inside value
  | .matchSingleton => form.need .value fun value => [form.spelled value]
  | .matchSequence =>
    .str "[" :: form.need .patterns fun patterns => form.commas patterns ++ [.str "]"]
  | .matchStar =>
    form.need .name fun name =>
      [.str ("*" ++ match name with | .other .none => "_" | given => given.shown)]
  | .matchMapping => form.mappingPattern
  | .matchClass => form.classPattern
  | .matchAs => form.capturePattern
  | .matchOr => form.alternatives
  | _ => []

end ArchLint.Syntax.Form
