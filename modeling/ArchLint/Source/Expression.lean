import ArchLint.Source.Parser
import ArchLint.Source.Target
import ArchLint.Source.Template

/-!
# The grammar of expressions

One rule per level of binding, from the loosest to the tightest.  A rule reads what is nested inside
it through `Rules`, the rules one level further in; tying the knot is left to one function at the
end, which counts down.

A node is on the line of its first token, so every rule notes the line before it reads.
-/

namespace ArchLint.Source

open ArchLint.Syntax
open ArchLint.Text (Letters)
open ArchLint.Source.Parser

/-- What can be nested inside an expression. -/
inductive Goal where
  | expression | disjunction | inversion | bitwiseOr | factor | primary
  deriving DecidableEq, Repr

structure Rules where
  /-- The most items that a list or a chain can have. -/
  limit : Nat
  parse : Goal → Parser Node

/-! ## Literals -/

def constant (line : Nat) (c : Constant) (kind : Value := .null) : Node :=
  .mk .constant (some line) [(.value, .constant c), (.kind, kind)]

def textConstant (line : Nat) (letters : Letters) (kind : Value) : Node :=
  constant line (.text letters) kind

def startsExpression : Lexeme → Bool
  | .word w =>
    !keywords.contains w || ["None", "True", "False", "not", "lambda", "await"].contains w
  | .number _ | .quotation _ => true
  | .symbol s => ["(", "[", "\x7b", "-", "+", "~", "...", "*"].contains s
  | _ => false

/-- A list of expressions, which is a tuple when there is a comma. -/
def tupleOr (line : Nat) (items : List Node) (comma : Bool) : Node :=
  match items, comma with
  | [item], false => item
  | _, _ => .mk .tuple (some line) [(.elts, nodeList items)]

/-- An expression, or a starred operand. -/
def starExpression (g : Rules) : Parser Node := do
  let line ← line
  if ← accept (.symbol "*") then
    return .mk .starred (some line) [(.value, .node (← g.parse .bitwiseOr))]
  else g.parse .expression

def starExpressions (g : Rules) : Parser Node := do
  let line ← line
  let (items, comma) ← commaList (looks startsExpression) (starExpression g) g.limit
  return tupleOr line items comma

/-- The nodes of a template as far as it was read, and the text that is not yet one of them. -/
structure Assembly where
  nodes : List Node := []
  run : Letters := []

/-- Makes a node of the text that is left. -/
def Assembly.flush (a : Assembly) (line : Nat) (kind : Value) : List Node :=
  if a.run.isEmpty then a.nodes else a.nodes ++ [textConstant line a.run kind]

def joined (line : Nat) (values : List Node) : Node :=
  .mk .joinedStr (some line) [(.values, nodeList values)]

def fieldExpression (g : Rules) (source : List Char) (line : Nat) : Option Node := do
  let tokens ← tokenize line ('(' :: source ++ [')'])
  let (n, _) ← (starExpressions g).run tokens
  return n

mutual

/-- Reads one part of a template.  Its node is on the line `first` of the whole literal; a format ends
on the line `line` of the piece in which it stands. -/
def assemblePart (g : Rules) (first line : Nat) (kind : Value) : Part → Assembly → Option Assembly
  | .text letters, a => some { a with run := a.run ++ letters }
  | .field source here label conversion hasFormat format, a => do
    let value ← fieldExpression g source here
    let inner ← assemble g first line kind format {}
    let spec := if hasFormat then some (joined line (inner.flush line .null)) else none
    let before := { a with run := a.run ++ Letters.ofChars label }.flush first kind
    let field : Node := .mk .formattedValue (some first)
      [(.value, .node value), (.conversion, .int conversion), (.formatSpec, optionalNode spec)]
    return { nodes := before ++ [field] }

def assemble (g : Rules) (first line : Nat) (kind : Value) : List Part → Assembly → Option Assembly
  | [], a => some a
  | part :: rest, a => do assemble g first line kind rest (← assemblePart g first line kind part a)

end

def assembleQuotation (g : Rules) (first : Nat) (kind : Value) (piece : Quotation × Nat)
    (a : Assembly) : Option Assembly := do
  let (q, line) := piece
  if q.isTemplate then assemble g first line kind (← templateParts q line) a
  else
    let letters ← if q.isRaw then some (Letters.ofChars q.body) else unescapeText q.body
    return { a with run := a.run ++ letters }

/-- The literal that is written in one or more pieces, all of bytes or none. -/
def literalOf (g : Rules) (pieces : List (Quotation × Nat)) : Option Node := do
  let (q, first) ← pieces.head?
  let kind := if q.marks.head? = some 'u' then Value.text "u" else .null
  if pieces.all (·.1.isBytes) then
    let bytes ← pieces.mapM fun (q, _) => unescapeBytes q.isRaw q.body
    return constant first (.bytes bytes.flatten)
  else if pieces.any (·.1.isBytes) then none
  else
    let a ← pieces.foldlM (fun a piece => assembleQuotation g first kind piece a) {}
    if pieces.any (·.1.isTemplate) then return joined first (a.flush first kind)
    else return textConstant first a.run kind

def isQuotation : Lexeme → Bool
  | .quotation _ => true
  | _ => false

def quotation : Parser (Quotation × Nat) := do
  let t ← token
  match t.lexeme with
  | .quotation q => return (q, t.line)
  | _ => failure

def literal (g : Rules) : Parser Node := do
  let pieces ← repeatWhile (looks isQuotation) quotation g.limit
  match literalOf g pieces with
  | some n => return n
  | none => failure

/-! ## Names, targets and comprehensions -/

def nameNode (line : Nat) (id : String) : Node :=
  .mk .name (some line) [(.id, .text id)]

/-- A name that is bound where it stands, and its value. -/
def binding (g : Rules) : Parser Node := do
  let line ← line
  let id ← identifier
  expect (.symbol ":=")
  let value ← g.parse .expression
  return .mk .namedExpr (some line) [(.target, .node (nameNode line id)), (.value, .node value)]

def seesBinding : Parser Bool :=
  looksTwo isIdentifier (· == .symbol ":=")

def namedExpression (g : Rules) : Parser Node := do
  if ← seesBinding then binding g else g.parse .expression

def starNamedExpression (g : Rules) : Parser Node := do
  let line ← line
  if ← accept (.symbol "*") then
    return .mk .starred (some line) [(.value, .node (← g.parse .bitwiseOr))]
  else namedExpression g

def starTarget (g : Rules) : Parser Node := do
  let line ← line
  let starred ← accept (.symbol "*")
  let n ← g.parse .primary
  require (isTarget true n)
  return if starred then .mk .starred (some line) [(.value, .node n)] else n

def startsTarget (l : Lexeme) : Bool :=
  startsExpression l && l != .word "not" && l != .word "lambda" && l != .word "await"

def starTargets (g : Rules) : Parser Node := do
  let line ← line
  let (items, comma) ← commaList (looks startsTarget) (starTarget g) g.limit
  return tupleOr line items comma

def startsClause (l : Lexeme) : Bool :=
  l == .word "for" || l == .word "async"

/-- A clause of a comprehension: targets, what they run through, and conditions. -/
def clause (g : Rules) : Parser Node := do
  let isAsync ← accept (.word "async")
  expect (.word "for")
  let target ← starTargets g
  expect (.word "in")
  let iter ← g.parse .disjunction
  let ifs ← repeatWhile (accept (.word "if")) (g.parse .disjunction) g.limit
  return .mk .comprehension none
    [(.target, .node target), (.iter, .node iter), (.ifs, nodeList ifs),
     (.isAsync, .int (if isAsync then 1 else 0))]

def clauses (g : Rules) : Parser Value := do
  let found ← repeatWhile (looks startsClause) (clause g) g.limit
  require (!found.isEmpty)
  return nodeList found

def yieldExpression (g : Rules) : Parser Node := do
  let line ← line
  expect (.word "yield")
  if ← accept (.word "from") then
    return .mk .yieldFrom (some line) [(.value, .node (← g.parse .expression))]
  else if ← looks startsExpression then
    return .mk .yield (some line) [(.value, .node (← starExpressions g))]
  else return .mk .yield (some line) [(.value, .null)]

def yieldOrExpressions (g : Rules) : Parser Node := do
  if ← sees (.word "yield") then yieldExpression g else starExpressions g

/-! ## Brackets -/

/-- What stands in round brackets: a tuple, a comprehension, or an expression. -/
def roundBrackets (g : Rules) (line : Nat) : Parser Node := do
  if ← accept (.symbol ")") then return tupleOr line [] true
  else if ← sees (.word "yield") then
    let n ← yieldExpression g
    expect (.symbol ")")
    return n
  else
    let first ← starNamedExpression g
    if ← looks startsClause then
      require (first.kind != .starred)
      let generators ← clauses g
      expect (.symbol ")")
      return .mk .generatorExp (some line) [(.elt, .node first), (.generators, generators)]
    else
      let comma ← sees (.symbol ",")
      let rest ← afterCommas (looks startsExpression) (starNamedExpression g) g.limit
      expect (.symbol ")")
      require (comma || first.kind != .starred)
      return tupleOr line (first :: rest) comma

/-- What stands in square brackets: a list or a comprehension. -/
def squareBrackets (g : Rules) (line : Nat) : Parser Node := do
  if ← accept (.symbol "]") then return .mk .list (some line) [(.elts, nodeList [])]
  else
    let first ← starNamedExpression g
    if ← looks startsClause then
      require (first.kind != .starred)
      let generators ← clauses g
      expect (.symbol "]")
      return .mk .listComp (some line) [(.elt, .node first), (.generators, generators)]
    else
      let rest ← afterCommas (looks startsExpression) (starNamedExpression g) g.limit
      expect (.symbol "]")
      return .mk .list (some line) [(.elts, nodeList (first :: rest))]

/-- An entry of a dictionary: a key with its value, or a dictionary whose entries are taken. -/
def entry (g : Rules) : Parser (Value × Node) := do
  if ← accept (.symbol "**") then return (.null, ← g.parse .bitwiseOr)
  else
    let key ← g.parse .expression
    expect (.symbol ":")
    return (.node key, ← g.parse .expression)

def startsEntry (l : Lexeme) : Bool :=
  startsExpression l || l == .symbol "**"

def dictRest (g : Rules) (line : Nat) (first : Value × Node) : Parser Node := do
  let rest ← afterCommas (looks startsEntry) (entry g) g.limit
  expect (.symbol "\x7d")
  let entries := first :: rest
  return .mk .dict (some line)
    [(.keys, .list (entries.map (·.1))), (.values, nodeList (entries.map (·.2)))]

/-- The rest of a set after its first item, or of a comprehension. -/
def setRest (g : Rules) (line : Nat) (first : Node) : Parser Node := do
  if ← looks startsClause then
    require (first.kind != .starred)
    let generators ← clauses g
    expect (.symbol "\x7d")
    return .mk .setComp (some line) [(.elt, .node first), (.generators, generators)]
  else
    let rest ← afterCommas (looks startsExpression) (starNamedExpression g) g.limit
    expect (.symbol "\x7d")
    return .mk .set (some line) [(.elts, nodeList (first :: rest))]

/-- What stands in curly brackets: a dictionary, a set, or a comprehension of either. -/
def curlyBrackets (g : Rules) (line : Nat) : Parser Node := do
  if ← accept (.symbol "\x7d") then
    return .mk .dict (some line) [(.keys, nodeList []), (.values, nodeList [])]
  else if ← sees (.symbol "**") then dictRest g line (← entry g)
  else
    let isBound ← seesBinding
    let first ← starNamedExpression g
    if !isBound && first.kind != .starred && (← accept (.symbol ":")) then
      let value ← g.parse .expression
      if ← looks startsClause then
        let generators ← clauses g
        expect (.symbol "\x7d")
        return .mk .dictComp (some line)
          [(.key, .node first), (.value, .node value), (.generators, generators)]
      else dictRest g line (.node first, value)
    else setRest g line first

/-- An atom: a name, a literal, or something in brackets. -/
def atom (g : Rules) : Parser Node := do
  if ← looks isQuotation then literal g
  else
    let t ← token
    match t.lexeme with
    | .word "None" => return constant t.line .none
    | .word "True" => return constant t.line (.bool true)
    | .word "False" => return constant t.line (.bool false)
    | .word w =>
      if keywords.contains w then failure else return nameNode t.line (Text.normalize w)
    | .number value => return constant t.line value
    | .symbol "(" => roundBrackets g t.line
    | .symbol "[" => squareBrackets g t.line
    | .symbol "\x7b" => curlyBrackets g t.line
    | .symbol "..." => return constant t.line .ellipsis
    | _ => failure

/-! ## Calls and subscripts -/

inductive Argument where
  | positional (n : Node)
  | starred (n : Node)
  | keyword (n : Node)
  | doubleStarred (n : Node)

namespace Argument

/-- Whether the arguments are in order: none by position after one by keyword, and none starred after
a doubly starred one. -/
def inOrder : List Argument → Bool
  | [] => true
  | .positional _ :: rest | .starred _ :: rest => inOrder rest
  | .keyword _ :: rest => noPositional rest
  | .doubleStarred _ :: rest => keywordsOnly rest
where
  /-- Whether no argument by position is left. -/
  noPositional : List Argument → Bool
    | [] => true
    | .positional _ :: _ => false
    | .starred _ :: rest | .keyword _ :: rest => noPositional rest
    | .doubleStarred _ :: rest => keywordsOnly rest
  /-- Whether only arguments by keyword are left. -/
  keywordsOnly : List Argument → Bool
    | [] => true
    | .positional _ :: _ | .starred _ :: _ => false
    | .keyword _ :: rest | .doubleStarred _ :: rest => keywordsOnly rest

def positional? : Argument → Option Node
  | .positional n | .starred n => some n
  | _ => none

def keyword? : Argument → Option Node
  | .keyword n | .doubleStarred n => some n
  | _ => none

end Argument

def argument (g : Rules) : Parser Argument := do
  let line ← line
  if ← accept (.symbol "*") then
    return .starred (.mk .starred (some line) [(.value, .node (← g.parse .expression))])
  else if ← accept (.symbol "**") then
    return .doubleStarred (.mk .keyword (some line)
      [(.arg, .null), (.value, .node (← g.parse .expression))])
  else if ← looksTwo isIdentifier (· == .symbol "=") then
    let name ← identifier
    expect (.symbol "=")
    return .keyword (.mk .keyword (some line)
      [(.arg, .text name), (.value, .node (← g.parse .expression))])
  else return .positional (← namedExpression g)

def startsArgument (l : Lexeme) : Bool :=
  startsExpression l || l == .symbol "**"

def argumentLists (arguments : List Argument) : List (Field × Value) :=
  [(.args, nodeList (arguments.filterMap Argument.positional?)),
   (.keywords, nodeList (arguments.filterMap Argument.keyword?))]

/-- The rest of a list of arguments, up to the closing bracket. -/
def argumentsRest (g : Rules) (first : Argument) : Parser (List Argument) := do
  let rest ← afterCommas (looks startsArgument) (argument g) g.limit
  expect (.symbol ")")
  require (Argument.inOrder (first :: rest))
  return first :: rest

/-- The arguments of a call, where a comprehension may stand alone without brackets of its own. -/
def callArguments (g : Rules) (line : Nat) : Parser (List Argument) := do
  if ← accept (.symbol ")") then return []
  else
    let first ← argument g
    match first with
    | .positional n =>
      if ← looks startsClause then
        let generators ← clauses g
        expect (.symbol ")")
        return [.positional
          (.mk .generatorExp (some line) [(.elt, .node n), (.generators, generators)])]
      else argumentsRest g first
    | _ => argumentsRest g first

def sliceEnd (g : Rules) : Parser Value := do
  if ← looks startsExpression then return .node (← g.parse .expression) else return .null

def sliceRest (g : Rules) (line : Nat) (lower : Value) : Parser Node := do
  let upper ← sliceEnd g
  let step ← if ← accept (.symbol ":") then sliceEnd g else pure .null
  return .mk .slice (some line) [(.lower, lower), (.upper, upper), (.step, step)]

/-- A subscript: a slice, an expression, or a starred expression. -/
def subscript (g : Rules) : Parser Node := do
  let line ← line
  if ← accept (.symbol ":") then sliceRest g line .null
  else if ← accept (.symbol "*") then
    return .mk .starred (some line) [(.value, .node (← g.parse .expression))]
  else if ← seesBinding then binding g
  else
    let n ← g.parse .expression
    if ← accept (.symbol ":") then sliceRest g line (.node n) else return n

def startsSubscript (l : Lexeme) : Bool :=
  startsExpression l || l == .symbol ":"

/-- One or more subscripts; a starred one makes a tuple even if it stands alone. -/
def subscripts (g : Rules) : Parser Node := do
  let line ← line
  let (items, comma) ← commaList (looks startsSubscript) (subscript g) g.limit
  return tupleOr line items (comma || items.any (·.kind = .starred))

/-- What may follow a primary expression: an attribute, a call, or a subscript. -/
def trailer (g : Rules) (line : Nat) (n : Node) : Parser (Option Node) := do
  let here ← Parser.line
  if ← accept (.symbol ".") then
    let attr ← identifier
    return some (.mk .attribute (some line) [(.value, .node n), (.attr, .text attr)])
  else if ← accept (.symbol "(") then
    let arguments ← callArguments g here
    return some (.mk .call (some line) ((.func, .node n) :: argumentLists arguments))
  else if ← accept (.symbol "[") then
    let slice ← subscripts g
    expect (.symbol "]")
    return some (.mk .subscript (some line) [(.value, .node n), (.slice, .node slice)])
  else return none

/-- An atom with attributes, calls and subscripts after it. -/
def primary (g : Rules) : Parser Node := do
  let line ← line
  extend (trailer g line) g.limit (← atom g)

/-! ## Operators -/

def operator (kind : Kind) : Node :=
  .mk kind none []

def awaited (g : Rules) : Parser Node := do
  let line ← line
  if ← accept (.word "await") then
    return .mk .await (some line) [(.value, .node (← primary g))]
  else primary g

def power (g : Rules) : Parser Node := do
  let line ← line
  let base ← awaited g
  if ← accept (.symbol "**") then
    let exponent ← g.parse .factor
    return .mk .binOp (some line)
      [(.left, .node base), (.op, .node (operator .pow)), (.right, .node exponent)]
  else return base

/-- The operator that a lexeme is, among those with a spelling. -/
def operatorAmong (table : List (String × Kind)) : Lexeme → Option Kind
  | .symbol s => table.lookup s
  | _ => none

def acceptOperator (table : List (String × Kind)) : Parser (Option Kind) := fun tokens =>
  match tokens with
  | t :: rest =>
    match operatorAmong table t.lexeme with
    | some kind => some (some kind, rest)
    | none => some (none, tokens)
  | [] => some (none, tokens)

def factor (g : Rules) : Parser Node := do
  let line ← line
  match ← acceptOperator [("+", .uAdd), ("-", .uSub), ("~", .invert)] with
  | some kind =>
    return .mk .unaryOp (some line)
      [(.op, .node (operator kind)), (.operand, .node (← g.parse .factor))]
  | none => power g

/-- Operands with operators of a table between them, which bind to the left. -/
def leftChain (limit : Nat) (table : List (String × Kind)) (operand : Parser Node) :
    Parser Node := do
  let line ← line
  let step (left : Node) : Parser (Option Node) := do
    match ← acceptOperator table with
    | some kind =>
      let right ← operand
      return some (.mk .binOp (some line)
        [(.left, .node left), (.op, .node (operator kind)), (.right, .node right)])
    | none => return none
  extend step limit (← operand)

/-- The operators that bind to the left, from the tightest to the loosest. -/
def leftOperators : List (List (String × Kind)) :=
  [[("*", .mult), ("/", .div), ("//", .floorDiv), ("%", .mod), ("@", .matMult)],
   [("+", .add), ("-", .sub)],
   [("<<", .lShift), (">>", .rShift)],
   [("&", .bitAnd)],
   [("^", .bitXor)],
   [("|", .bitOr)]]

/-- An expression of operators that are no comparisons. -/
def bitwiseOr (g : Rules) : Parser Node :=
  leftOperators.foldl (fun operand table => leftChain g.limit table operand) (factor g)

def comparisonSymbols : List (String × Kind) :=
  [("==", .eq), ("!=", .notEq), ("<=", .lte), ("<", .lt), (">=", .gte), (">", .gt)]

def acceptComparison : Parser (Option Kind) := do
  match ← acceptOperator comparisonSymbols with
  | some kind => return some kind
  | none =>
    if ← accept (.word "in") then return some .inOp
    else if ← accept (.word "is") then
      if ← accept (.word "not") then return some .isNot else return some .isOp
    else if ← looksTwo (· == .word "not") (· == .word "in") then
      expect (.word "not")
      expect (.word "in")
      return some .notIn
    else return none

def comparison (g : Rules) : Parser Node := do
  let line ← line
  let left ← bitwiseOr g
  let step (found : List (Kind × Node)) : Parser (Option (List (Kind × Node))) := do
    match ← acceptComparison with
    | some kind => return some ((kind, ← bitwiseOr g) :: found)
    | none => return none
  let found ← extend step g.limit []
  if found.isEmpty then return left
  else
    let pairs := found.reverse
    return .mk .compare (some line)
      [(.left, .node left), (.ops, nodeList (pairs.map fun (kind, _) => operator kind)),
       (.comparators, nodeList (pairs.map (·.2)))]

def inversion (g : Rules) : Parser Node := do
  let line ← line
  if ← accept (.word "not") then
    return .mk .unaryOp (some line)
      [(.op, .node (operator .notOp)), (.operand, .node (← g.parse .inversion))]
  else comparison g

def connected (limit : Nat) (word : String) (kind : Kind) (operand : Parser Node) :
    Parser Node := do
  let line ← line
  let first ← operand
  let rest ← repeatWhile (accept (.word word)) operand limit
  if rest.isEmpty then return first
  else
    return .mk .boolOp (some line)
      [(.op, .node (operator kind)), (.values, nodeList (first :: rest))]

def disjunction (g : Rules) : Parser Node :=
  connected g.limit "or" .orOp (connected g.limit "and" .andOp (inversion g))

/-! ## Parameters -/

inductive Parameter where
  | plain (arg : Node) (default : Option Node)
  /-- The mark after parameters by position only. -/
  | slash
  /-- The mark before parameters by keyword only, with the rest of the arguments by position. -/
  | star (arg : Option Node)
  | doubleStar (arg : Node)

namespace Parameter

/-- The parameters at the front that may be given by position.  After one with a default all have
one. -/
def positionals : Bool → List Parameter → Option (List (Node × Option Node) × List Parameter)
  | seen, .plain arg default :: rest =>
    if seen && default.isNone then none
    else (positionals (seen || default.isSome) rest).map fun (found, after) =>
      ((arg, default) :: found, after)
  | _, rest => some ([], rest)

/-- The parameters by keyword only, and the rest of the arguments by keyword. -/
def keywordOnly : List Parameter → Option (List (Node × Option Node) × Option Node)
  | [] => some ([], none)
  | [.doubleStar arg] => some ([], some arg)
  | .plain arg default :: rest =>
    (keywordOnly rest).map fun (found, last) => ((arg, default) :: found, last)
  | _ => none

def afterPositionals :
    List Parameter → Option (Option Node × List (Node × Option Node) × Option Node)
  | .star (some arg) :: rest => (keywordOnly rest).map fun found => (some arg, found)
  | .star none :: .plain arg default :: rest =>
    (keywordOnly (.plain arg default :: rest)).map fun found => (none, found)
  | rest =>
    match rest with
    | [] | [.doubleStar _] => (keywordOnly rest).map fun found => (none, found)
    | _ => none

/-- The parameters of a function, when the items are in order. -/
def arguments? (items : List Parameter) : Option Node := do
  let (first, rest) ← positionals false items
  let (only, args, rest) ← match rest with
    | .slash :: after =>
      if first.isEmpty then none
      else (positionals (first.any (·.2.isSome)) after).map fun (second, last) =>
        (first, second, last)
    | _ => some ([], first, rest)
  let (vararg, named, kwarg) ← afterPositionals rest
  return .mk .arguments none
    [(.posonlyargs, nodeList (only.map (·.1))), (.args, nodeList (args.map (·.1))),
     (.vararg, optionalNode vararg), (.kwonlyargs, nodeList (named.map (·.1))),
     (.kwDefaults, .list (named.map fun (_, default) => optionalNode default)),
     (.kwarg, optionalNode kwarg), (.defaults, nodeList ((only ++ args).filterMap (·.2)))]

end Parameter

def parameterName (g : Rules) (typed starred : Bool) : Parser Node := do
  let line ← line
  let name ← identifier
  let hint ← if typed then
      if ← accept (.symbol ":") then
        if starred then some <$> starExpression g else some <$> g.parse .expression
      else pure none
    else pure none
  return .mk .arg (some line) [(.arg, .text name), (.typeHint, optionalNode hint)]

def parameter (g : Rules) (typed : Bool) : Parser Parameter := do
  if ← accept (.symbol "/") then return .slash
  else if ← accept (.symbol "**") then return .doubleStar (← parameterName g typed false)
  else if ← accept (.symbol "*") then
    if ← looks isIdentifier then return .star (some (← parameterName g typed true))
    else return .star none
  else
    let arg ← parameterName g typed false
    if ← accept (.symbol "=") then return .plain arg (some (← g.parse .expression))
    else return .plain arg none

def startsParameter (l : Lexeme) : Bool :=
  isIdentifier l || l == .symbol "/" || l == .symbol "*" || l == .symbol "**"

def parameters (g : Rules) (typed : Bool) : Parser Node := do
  let items ← if ← looks startsParameter then
      Prod.fst <$> commaList (looks startsParameter) (parameter g typed) g.limit
    else pure []
  match Parameter.arguments? items with
  | some n => return n
  | none => failure

/-! ## Expressions -/

def lambda (g : Rules) : Parser Node := do
  let line ← line
  expect (.word "lambda")
  let args ← parameters g false
  expect (.symbol ":")
  let body ← g.parse .expression
  return .mk .lambdaExpr (some line) [(.args, .node args), (.body, .node body)]

/-- An expression: a function, or connectives with a condition between alternatives. -/
def expression (g : Rules) : Parser Node := do
  if ← sees (.word "lambda") then lambda g
  else
    let line ← line
    let body ← disjunction g
    if ← accept (.word "if") then
      let test ← disjunction g
      expect (.word "else")
      let orelse ← g.parse .expression
      return .mk .ifExpr (some line)
        [(.test, .node test), (.body, .node body), (.orelse, .node orelse)]
    else return body

def goalRule (g : Rules) : Goal → Parser Node
  | .expression => expression g
  | .disjunction => disjunction g
  | .inversion => inversion g
  | .bitwiseOr => bitwiseOr g
  | .factor => factor g
  | .primary => primary g

/-- Reads a goal in which expressions are nested at most so deep. -/
def parseGoal : Nat → Goal → Parser Node
  | 0, _ => failure
  | depth + 1, goal => fun tokens => goalRule ⟨depth, parseGoal depth⟩ goal tokens

/-- The rules for expressions that are nested at most so deep. -/
def rules (depth : Nat) : Rules :=
  ⟨depth, parseGoal depth⟩

end ArchLint.Source
