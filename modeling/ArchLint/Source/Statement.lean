import ArchLint.Source.Pattern

/-!
# The grammar of statements

Simple statements stand on one line, with semicolons between them; compound statements hold blocks.
A rule for a compound statement is given the rule for blocks; tying the knot is left to one function
at the end, which counts down.
-/

namespace ArchLint.Source

open ArchLint.Syntax
open ArchLint.Source.Parser

/-! ## Simple statements -/

def augmentedOperators : List (String × Kind) :=
  [("+=", .add), ("-=", .sub), ("*=", .mult), ("@=", .matMult), ("/=", .div), ("%=", .mod),
   ("&=", .bitAnd), ("|=", .bitOr), ("^=", .bitXor), ("<<=", .lShift), (">>=", .rShift),
   ("**=", .pow), ("//=", .floorDiv)]

/-- A declaration of a target's type, perhaps with a value.  It is simple when the target is a name
without brackets. -/
def typedAssignment (g : Rules) (line : Nat) (target : Node) (bracketed : Bool) : Parser Node := do
  require (isSingleTarget target)
  let hint ← g.parse .expression
  let value ← if ← accept (.symbol "=") then some <$> yieldOrExpressions g else pure none
  let simple : Int := if target.kind = .name && !bracketed then 1 else 0
  return .mk .annAssign (some line)
    [(.target, .node target), (.typeHint, .node hint), (.value, optionalNode value),
     (.simple, .int simple)]

/-- The rest of an assignment after its first target: further targets, and the value. -/
def assignment (g : Rules) (line : Nat) (first : Node) : Parser Node := do
  let rest ← repeatWhile (accept (.symbol "=")) (yieldOrExpressions g) g.limit
  let targets := first :: rest.dropLast
  require (targets.all isStarTarget)
  match rest.getLast? with
  | some value =>
    return .mk .assign (some line) [(.targets, nodeList targets), (.value, .node value)]
  | none => failure

def expressionStatement (g : Rules) : Parser Node := do
  let line ← line
  let bracketed ← sees (.symbol "(")
  let n ← yieldOrExpressions g
  if ← accept (.symbol ":") then typedAssignment g line n bracketed
  else if ← sees (.symbol "=") then assignment g line n
  else
    match ← acceptOperator augmentedOperators with
    | some kind =>
      require (isSingleTarget n)
      let value ← yieldOrExpressions g
      return .mk .augAssign (some line)
        [(.target, .node n), (.op, .node (operator kind)), (.value, .node value)]
    | none => return .mk .exprStmt (some line) [(.value, .node n)]

def deleteTarget (g : Rules) : Parser Node := do
  let n ← g.parse .primary
  require (isTarget false n)
  return n

def deleteStatement (g : Rules) (line : Nat) : Parser Node := do
  let (targets, _) ← commaList (looks startsTarget) (deleteTarget g) g.limit
  return .mk .deleteStmt (some line) [(.targets, nodeList targets)]

def returnStatement (g : Rules) (line : Nat) : Parser Node := do
  let value ← if ← looks startsExpression then some <$> starExpressions g else pure none
  return .mk .returnStmt (some line) [(.value, optionalNode value)]

def raiseStatement (g : Rules) (line : Nat) : Parser Node := do
  if ← looks startsExpression then
    let exc ← g.parse .expression
    let cause ← if ← accept (.word "from") then some <$> g.parse .expression else pure none
    return .mk .raiseStmt (some line) [(.exc, .node exc), (.cause, optionalNode cause)]
  else return .mk .raiseStmt (some line) [(.exc, .null), (.cause, .null)]

def assertStatement (g : Rules) (line : Nat) : Parser Node := do
  let test ← g.parse .expression
  let msg ← if ← accept (.symbol ",") then some <$> g.parse .expression else pure none
  return .mk .assertStmt (some line) [(.test, .node test), (.msg, optionalNode msg)]

def nameList (g : Rules) : Parser Value := do
  let first ← identifier
  let rest ← repeatWhile (accept (.symbol ",")) identifier g.limit
  return .list ((first :: rest).map .text)

/-! ## Imports -/

def dottedName (g : Rules) : Parser String := do
  let first ← identifier
  let rest ← repeatWhile (accept (.symbol ".")) identifier g.limit
  return ".".intercalate (first :: rest)

def importAlias (name : Parser String) : Parser Node := do
  let line ← line
  let given ← name
  let asname ← if ← accept (.word "as") then some <$> identifier else pure none
  return .mk .importAlias (some line) [(.name, .text given), (.asname, optionalText asname)]

def importStatement (g : Rules) (line : Nat) : Parser Node := do
  let first ← importAlias (dottedName g)
  let rest ← repeatWhile (accept (.symbol ",")) (importAlias (dottedName g)) g.limit
  return .mk .importStmt (some line) [(.names, nodeList (first :: rest))]

/-- The number of dots at the front of a module's name. -/
def leadingDots (g : Rules) : Parser Nat := do
  let isDots (l : Lexeme) : Bool := l == .symbol "." || l == .symbol "..."
  let found ← repeatWhile (looks isDots) token g.limit
  return found.foldr (fun t dots => (if t.lexeme = .symbol "." then 1 else 3) + dots) 0

def importedNames (g : Rules) : Parser (List Node) := do
  let line ← line
  if ← accept (.symbol "*") then
    return [.mk .importAlias (some line) [(.name, .text "*"), (.asname, .null)]]
  else if ← accept (.symbol "(") then
    let (names, _) ← commaList (looks isIdentifier) (importAlias identifier) g.limit
    expect (.symbol ")")
    return names
  else
    let first ← importAlias identifier
    let rest ← repeatWhile (accept (.symbol ",")) (importAlias identifier) g.limit
    return first :: rest

def importFromStatement (g : Rules) (line : Nat) : Parser Node := do
  let level ← leadingDots g
  let name ← if ← looks isIdentifier then some <$> dottedName g else pure none
  require (name.isSome || 0 < level)
  expect (.word "import")
  let names ← importedNames g
  return .mk .importFrom (some line)
    [(.moduleName, optionalText name), (.names, nodeList names), (.level, .int level)]

/-! ## Lines -/

/-- The words with which simple statements start that are no expressions. -/
def simpleWords : List String :=
  ["return", "import", "from", "raise", "pass", "del", "assert", "break", "continue", "global",
   "nonlocal"]

/-- Whether a simple statement that is no expression starts with the lexeme. -/
def startsSimple : Lexeme → Bool
  | .word w => simpleWords.contains w
  | _ => false

def simpleStatement (g : Rules) : Parser Node := do
  if ← looks startsSimple then
    let t ← token
    match t.lexeme with
    | .word "return" => returnStatement g t.line
    | .word "import" => importStatement g t.line
    | .word "from" => importFromStatement g t.line
    | .word "raise" => raiseStatement g t.line
    | .word "pass" => return .mk .pass (some t.line) []
    | .word "del" => deleteStatement g t.line
    | .word "assert" => assertStatement g t.line
    | .word "break" => return .mk .breakStmt (some t.line) []
    | .word "continue" => return .mk .continueStmt (some t.line) []
    | .word "global" => return .mk .globalStmt (some t.line) [(.names, ← nameList g)]
    | .word "nonlocal" => return .mk .nonlocalStmt (some t.line) [(.names, ← nameList g)]
    | _ => failure
  else expressionStatement g

def simpleStatements (g : Rules) : Parser (List Node) := do
  let first ← simpleStatement g
  let next : Parser (Option Node) := do
    if ← sees .lineEnd then return none else some <$> simpleStatement g
  let rest ← repeatWhile (accept (.symbol ";")) next g.limit
  expect .lineEnd
  require (rest.dropLast.all Option.isSome)
  return first :: rest.filterMap id

/-! ## Compound statements -/

/-- What compound statements are made of. -/
structure Blocks where
  rules : Rules
  /-- A colon is not part of a block. -/
  block : Parser (List Node)

def colonBlock (b : Blocks) : Parser Value := do
  expect (.symbol ":")
  return nodeList (← b.block)

/-- A block after a word, if the word stands here. -/
def optionalBlock (b : Blocks) (word : String) : Parser Value := do
  if ← accept (.word word) then colonBlock b else return nodeList []

/-- A conditional; further conditions are conditionals nested in the alternative. -/
def ifStatement (b : Blocks) : Parser Node := do
  let branch : Parser (Nat × Node × Value) := do
    let t ← token
    let test ← namedExpression b.rules
    return (t.line, test, ← colonBlock b)
  let first ← branch
  let rest ← repeatWhile (sees (.word "elif")) branch b.rules.limit
  let orelse ← optionalBlock b "else"
  let build (line : Nat) (test : Node) (body orelse : Value) : Node :=
    .mk .ifStmt (some line) [(.test, .node test), (.body, body), (.orelse, orelse)]
  let nested := rest.foldr (fun (line, test, body) orelse =>
    nodeList [build line test body orelse]) orelse
  return build first.1 first.2.1 first.2.2 nested

def whileStatement (b : Blocks) : Parser Node := do
  let t ← token
  let test ← namedExpression b.rules
  let body ← colonBlock b
  let orelse ← optionalBlock b "else"
  return .mk .whileStmt (some t.line) [(.test, .node test), (.body, body), (.orelse, orelse)]

def forStatement (b : Blocks) (line : Nat) (kind : Kind) : Parser Node := do
  expect (.word "for")
  let target ← starTargets b.rules
  expect (.word "in")
  let iter ← starExpressions b.rules
  let body ← colonBlock b
  let orelse ← optionalBlock b "else"
  return .mk kind (some line)
    [(.target, .node target), (.iter, .node iter), (.body, body), (.orelse, orelse)]

/-- An item of a `with` statement, perhaps with a target. -/
def withItem (g : Rules) : Parser Node := do
  let value ← g.parse .expression
  let target ← if ← accept (.word "as") then some <$> starTarget g else pure none
  return .mk .withItem none [(.contextExpr, .node value), (.optionalVars, optionalNode target)]

/-- The items of a `with` statement in brackets of their own. -/
def bracketedItems (g : Rules) : Parser (List Node) := do
  expect (.symbol "(")
  let (items, _) ← commaList (looks startsExpression) (withItem g) g.limit
  expect (.symbol ")")
  require (← sees (.symbol ":"))
  return items

def plainItems (g : Rules) : Parser (List Node) := do
  let first ← withItem g
  let rest ← repeatWhile (accept (.symbol ",")) (withItem g) g.limit
  return first :: rest

def withStatement (b : Blocks) (line : Nat) (kind : Kind) : Parser Node := do
  expect (.word "with")
  let items ← orElse (bracketedItems b.rules) (plainItems b.rules)
  let body ← colonBlock b
  return .mk kind (some line) [(.items, nodeList items), (.body, body)]

/-- A handler of a `try` statement; a handler of groups names what it handles. -/
def handler (b : Blocks) (group : Bool) : Parser Node := do
  let t ← token
  if group then expect (.symbol "*")
  if !group && (← sees (.symbol ":")) then
    let body ← colonBlock b
    return .mk .exceptHandler (some t.line) [(.exceptType, .null), (.name, .null), (.body, body)]
  else
    let type ← b.rules.parse .expression
    let name ← if ← accept (.word "as") then some <$> identifier else pure none
    let body ← colonBlock b
    return .mk .exceptHandler (some t.line)
      [(.exceptType, .node type), (.name, optionalText name), (.body, body)]

/-- A `try` statement: handlers of one sort, or a last block, or both. -/
def tryStatement (b : Blocks) : Parser Node := do
  let t ← token
  let body ← colonBlock b
  let group ← looksTwo (· == .word "except") (· == .symbol "*")
  let handlers ← repeatWhile (sees (.word "except")) (handler b group) b.rules.limit
  let orelse ← if handlers.isEmpty then pure (nodeList []) else optionalBlock b "else"
  require (!handlers.isEmpty || (← sees (.word "finally")))
  let finalbody ← optionalBlock b "finally"
  return .mk (if group then .tryStar else .tryStmt) (some t.line)
    [(.body, body), (.handlers, nodeList handlers), (.orelse, orelse), (.finalbody, finalbody)]

/-! ## Definitions -/

def functionDefinition (b : Blocks) (line : Nat) (kind : Kind) (decorators : List Node) :
    Parser Node := do
  expect (.word "def")
  let name ← identifier
  expect (.symbol "(")
  let args ← parameters b.rules true
  expect (.symbol ")")
  let returns ← if ← accept (.symbol "->") then some <$> b.rules.parse .expression else pure none
  let body ← colonBlock b
  return .mk kind (some line)
    [(.name, .text name), (.args, .node args), (.body, body),
     (.decoratorList, nodeList decorators), (.returns, optionalNode returns)]

def classArguments (g : Rules) : Parser (List Argument) := do
  if ← accept (.symbol "(") then
    if ← accept (.symbol ")") then return []
    else argumentsRest g (← argument g)
  else return []

def classDefinition (b : Blocks) (decorators : List Node) : Parser Node := do
  let t ← token
  let name ← identifier
  let arguments ← classArguments b.rules
  let body ← colonBlock b
  return .mk .classDef (some t.line)
    [(.name, .text name), (.bases, nodeList (arguments.filterMap Argument.positional?)),
     (.keywords, nodeList (arguments.filterMap Argument.keyword?)), (.body, body),
     (.decoratorList, nodeList decorators)]

def decorator (g : Rules) : Parser Node := do
  let n ← namedExpression g
  expect .lineEnd
  return n

/-- A definition with decorators in front. -/
def definition (b : Blocks) : Parser Node := do
  let decorators ← repeatWhile (accept (.symbol "@")) (decorator b.rules) b.rules.limit
  let line ← line
  if ← sees (.word "class") then classDefinition b decorators
  else if ← accept (.word "async") then functionDefinition b line .asyncFunctionDef decorators
  else functionDefinition b line .functionDef decorators

def asyncStatement (b : Blocks) : Parser Node := do
  let line ← line
  if ← looksTwo (· == .word "async") (· == .word "def") then definition b
  else
    expect (.word "async")
    if ← sees (.word "for") then forStatement b line .asyncFor
    else withStatement b line .asyncWith

/-! ## Matches -/

/-- What is matched: one expression, or a tuple without brackets. -/
def subject (g : Rules) : Parser Node := do
  let line ← line
  let (items, comma) ← commaList (looks startsExpression) (starNamedExpression g) g.limit
  require (comma || items.all (·.kind != .starred))
  return tupleOr line items comma

/-- The head of a match, up to the start of its block.  `match` is a name elsewhere, so the head is
read to its end before it counts as one. -/
def matchHead (g : Rules) : Parser (Nat × Node) := do
  let line ← line
  expect (.word "match")
  let n ← subject g
  expect (.symbol ":")
  expect .lineEnd
  expect .indent
  return (line, n)

def matchCase (b : Blocks) : Parser Node := do
  expect (.word "case")
  let pattern ← patterns b.rules
  let guard ← if ← accept (.word "if") then some <$> namedExpression b.rules else pure none
  let body ← colonBlock b
  return .mk .matchCase none
    [(.pattern, .node pattern), (.guard, optionalNode guard), (.body, body)]

def matchStatement (b : Blocks) (head : Nat × Node) : Parser Node := do
  let cases ← repeatWhile (sees (.word "case")) (matchCase b) b.rules.limit
  require (!cases.isEmpty)
  expect .dedent
  return .mk .matchStmt (some head.1) [(.subject, .node head.2), (.cases, nodeList cases)]

/-! ## Statements -/

/-- A match, or the simple statements of a line that only starts with its word. -/
def matchOrSimple (b : Blocks) : Parser (List Node) := do
  match ← orElse (some <$> matchHead b.rules) (pure none) with
  | some head => return [← matchStatement b head]
  | none => simpleStatements b.rules

def compoundWords : List String :=
  ["if", "while", "for", "with", "try", "def", "class", "async"]

def startsCompound : Lexeme → Bool
  | .word w => compoundWords.contains w
  | .symbol s => s == "@"
  | _ => false

def compoundStatement (b : Blocks) : Parser Node := do
  let line ← line
  if ← sees (.word "if") then ifStatement b
  else if ← sees (.word "while") then whileStatement b
  else if ← sees (.word "for") then forStatement b line .forStmt
  else if ← sees (.word "with") then withStatement b line .withStmt
  else if ← sees (.word "try") then tryStatement b
  else if ← sees (.word "async") then asyncStatement b
  else definition b

/-- A compound statement, or the simple statements of a line. -/
def statementRule (b : Blocks) : Parser (List Node) := do
  if ← looks startsCompound then return [← compoundStatement b]
  else if ← sees (.word "match") then matchOrSimple b
  else simpleStatements b.rules

/-- Whether a list of statements goes on with the lexeme. -/
def goesOn (l : Lexeme) : Bool :=
  l != .dedent && l != .fileEnd

def statements (g : Rules) (statement : Parser (List Node)) : Parser (List Node) := do
  let found ← repeatWhile (looks goesOn) statement g.limit
  return found.flatten

/-- A block: the simple statements of the line, or statements that are indented. -/
def blockRule (g : Rules) (statement : Parser (List Node)) : Parser (List Node) := do
  if ← accept .lineEnd then
    expect .indent
    let found ← statements g statement
    require (!found.isEmpty)
    expect .dedent
    return found
  else simpleStatements g

/-- A statement in which blocks are nested at most so deep. -/
def statementAt (g : Rules) : Nat → Parser (List Node)
  | 0 => failure
  | depth + 1 => fun tokens =>
    statementRule ⟨g, blockRule g (statementAt g depth)⟩ tokens

/-! ## Programs -/

def program (g : Rules) : Parser (List Node) := do
  let found ← statements g (statementAt g (maxBlocks + 2))
  expect .fileEnd
  return found

end ArchLint.Source

namespace ArchLint

open ArchLint.Syntax
open ArchLint.Source

/-- The syntax tree of a text, if it is well-formed.  A text with a null character never is. -/
def Source.parse (text : String) : Option Node := do
  let chars := text.toList
  if chars.contains '\x00' then none
  else
    let tokens ← tokenize 1 chars
    let (body, _) ← (program (rules (2 * chars.length + 10))).run tokens
    return .mk .moduleBody none [(.body, nodeList body), (.typeIgnores, .list [])]

end ArchLint
