import ArchLint.Source.Expression

/-!
# The grammar of patterns

What stands after `case`: literals, names that are bound, values that are looked up, sequences,
mappings, classes, alternatives.  A single underscore matches everything and is never a name.
-/

namespace ArchLint.Source

open ArchLint.Syntax
open ArchLint.Source.Parser

/-! ## Literals -/

def isImaginary : Constant → Bool
  | .complex _ _ => true
  | _ => false

def signedNumber : Parser (Node × Constant) := do
  let line ← line
  let negative ← accept (.symbol "-")
  let t ← token
  match t.lexeme with
  | .number value =>
    let n := constant t.line value
    return (if negative then .mk .unaryOp (some line)
      [(.op, .node (operator .uSub)), (.operand, .node n)] else n, value)
  | _ => failure

/-- A number: whole, floating-point, or with a real and an imaginary part. -/
def numberPattern : Parser Node := do
  let line ← line
  let (left, real) ← signedNumber
  match ← acceptOperator [("+", .add), ("-", .sub)] with
  | some kind =>
    require (!isImaginary real)
    let t ← token
    match t.lexeme with
    | .number value =>
      require (isImaginary value)
      return .mk .binOp (some line)
        [(.left, .node left), (.op, .node (operator kind)), (.right, .node (constant t.line value))]
    | _ => failure
  | none => return left

def startsNumber : Lexeme → Bool
  | .number _ => true
  | .symbol s => s == "-"
  | _ => false

def keywordConstant? : Lexeme → Option Constant
  | .word "None" => some .none
  | .word "True" => some (.bool true)
  | .word "False" => some (.bool false)
  | _ => none

/-! ## Names -/

/-- A name that a pattern binds: no underscore, and nothing that would make it a look-up, a class or
a keyword. -/
def captureName : Parser String := do
  let name ← identifier
  require (name != "_")
  require (!(← looks fun l => l == .symbol "." || l == .symbol "(" || l == .symbol "="))
  return name

/-- A name with attributes after it. -/
def dottedValue (g : Rules) : Parser Node := do
  let line ← line
  let name ← identifier
  let step (n : Node) : Parser (Option Node) := do
    if ← accept (.symbol ".") then
      let attr ← identifier
      return some (.mk .attribute (some line) [(.value, .node n), (.attr, .text attr)])
    else return none
  extend step g.limit (nameNode line name)

/-- A name with at least one attribute after it. -/
def attributeValue (g : Rules) : Parser Node := do
  let n ← dottedValue g
  require (n.kind = .attribute)
  return n

/-- A name that is bound, or that matches everything. -/
def capture (line : Nat) (name : Option String) : Node :=
  .mk .matchAs (some line) [(.pattern, .null), (.name, optionalText name)]

/-! ## Sequences, mappings and classes -/

def startsPattern (l : Lexeme) : Bool :=
  isIdentifier l || startsNumber l || isQuotation l || (keywordConstant? l).isSome ||
    [Lexeme.symbol "(", .symbol "[", .symbol "\x7b", .symbol "*"].contains l

/-- A pattern, or a starred name that takes the rest of a sequence. -/
def starPattern (pattern : Parser Node) : Parser Node := do
  let line ← line
  if ← accept (.symbol "*") then
    if ← accept (.word "_") then return .mk .matchStar (some line) [(.name, .null)]
    else return .mk .matchStar (some line) [(.name, .text (← captureName))]
  else pattern

def sequence (line : Nat) (patterns : List Node) : Node :=
  .mk .matchSequence (some line) [(.patterns, nodeList patterns)]

/-- Patterns with commas between them: a sequence, or one pattern that is not starred. -/
def sequenceOr (line : Nat) (patterns : List Node) (comma : Bool) : Parser Node := do
  match patterns, comma with
  | [item], false =>
    require (item.kind != .matchStar)
    return item
  | _, _ => return sequence line patterns

/-- One pattern, or a sequence of patterns without brackets. -/
def openSequence (g : Rules) (pattern : Parser Node) : Parser Node := do
  let line ← line
  let (items, comma) ← commaList (looks startsPattern) (starPattern pattern) g.limit
  sequenceOr line items comma

/-- What stands in round brackets: a sequence, or one pattern. -/
def roundPattern (g : Rules) (pattern : Parser Node) : Parser Node := do
  let line ← line
  expect (.symbol "(")
  if ← accept (.symbol ")") then return sequence line []
  else
    let (items, comma) ← commaList (looks startsPattern) (starPattern pattern) g.limit
    expect (.symbol ")")
    sequenceOr line items comma

/-- What stands in square brackets: a sequence. -/
def squarePattern (g : Rules) (pattern : Parser Node) : Parser Node := do
  let line ← line
  expect (.symbol "[")
  if ← accept (.symbol "]") then return sequence line []
  else
    let (items, _) ← commaList (looks startsPattern) (starPattern pattern) g.limit
    expect (.symbol "]")
    return sequence line items

/-- The key of a mapping: a literal, or a value that is looked up. -/
def mappingKey (g : Rules) : Parser Node := do
  let line ← line
  if ← looks startsNumber then numberPattern
  else if ← looks isQuotation then literal g
  else if ← looks (fun l => (keywordConstant? l).isSome) then
    match keywordConstant? (← token).lexeme with
    | some c => return constant line c
    | none => failure
  else attributeValue g

/-- An entry of a mapping: a key with a pattern, or the name that takes the rest. -/
def mappingEntry (g : Rules) (pattern : Parser Node) : Parser ((Node × Node) ⊕ String) := do
  if ← accept (.symbol "**") then return .inr (← captureName)
  else
    let key ← mappingKey g
    expect (.symbol ":")
    return .inl (key, ← pattern)

/-- The entries of a mapping and the name that takes the rest, which comes last. -/
def splitMapping : List ((Node × Node) ⊕ String) → Option (List (Node × Node) × Option String)
  | [] => some ([], none)
  | [.inr name] => some ([], some name)
  | .inl pair :: rest => (splitMapping rest).map fun (pairs, name) => (pair :: pairs, name)
  | .inr _ :: _ => none

def mappingPattern (g : Rules) (pattern : Parser Node) : Parser Node := do
  let line ← line
  expect (.symbol "\x7b")
  let starts := looks fun l => startsPattern l || l == .symbol "**"
  let entries ← if ← starts then
      Prod.fst <$> commaList starts (mappingEntry g pattern) g.limit
    else pure []
  expect (.symbol "\x7d")
  match splitMapping entries with
  | some (pairs, rest) =>
    return .mk .matchMapping (some line)
      [(.keys, nodeList (pairs.map (·.1))), (.patterns, nodeList (pairs.map (·.2))),
       (.rest, optionalText rest)]
  | none => failure

/-- An argument of a class: a pattern, or a keyword with a pattern. -/
def classArgument (pattern : Parser Node) : Parser (Node ⊕ (String × Node)) := do
  if ← looksTwo isIdentifier (· == .symbol "=") then
    let name ← identifier
    expect (.symbol "=")
    return .inr (name, ← pattern)
  else return .inl (← pattern)

def splitArguments : List (Node ⊕ (String × Node)) → Option (List Node × List (String × Node))
  | [] => some ([], [])
  | .inl n :: rest => (splitArguments rest).map fun (patterns, named) => (n :: patterns, named)
  | .inr pair :: rest =>
    match splitArguments rest with
    | some ([], named) => some ([], pair :: named)
    | _ => none

def classPattern (g : Rules) (pattern : Parser Node) (line : Nat) (cls : Node) : Parser Node := do
  expect (.symbol "(")
  let arguments ← if ← looks startsPattern then
      Prod.fst <$> commaList (looks startsPattern) (classArgument pattern) g.limit
    else pure []
  expect (.symbol ")")
  match splitArguments arguments with
  | some (patterns, named) =>
    return .mk .matchClass (some line)
      [(.cls, .node cls), (.patterns, nodeList patterns),
       (.kwdAttrs, .list (named.map fun (name, _) => .text name)),
       (.kwdPatterns, nodeList (named.map (·.2)))]
  | none => failure

/-! ## Patterns -/

/-- A pattern that starts with a name: a class, a value that is looked up, or a name that is bound. -/
def namePattern (g : Rules) (pattern : Parser Node) : Parser Node := do
  let line ← line
  let n ← dottedValue g
  if ← sees (.symbol "(") then classPattern g pattern line n
  else
    require (!(← sees (.symbol "=")))
    match n.kind, (n.get? .id).bind Value.text? with
    | .name, some name => return capture line (some name)
    | _, _ => return .mk .matchValue (some line) [(.value, .node n)]

/-- A pattern that is no choice between alternatives. -/
def closedPattern (g : Rules) (pattern : Parser Node) : Parser Node := do
  let line ← line
  if ← looks startsNumber then
    return .mk .matchValue (some line) [(.value, .node (← numberPattern))]
  else if ← looks isQuotation then
    return .mk .matchValue (some line) [(.value, .node (← literal g))]
  else if ← accept (.word "_") then return capture line none
  else if ← looks isIdentifier then namePattern g pattern
  else if ← sees (.symbol "(") then roundPattern g pattern
  else if ← sees (.symbol "[") then squarePattern g pattern
  else if ← sees (.symbol "\x7b") then mappingPattern g pattern
  else
    match keywordConstant? (← token).lexeme with
    | some c => return .mk .matchSingleton (some line) [(.value, .constant c)]
    | none => failure

/-- Alternatives, and a name for what was matched. -/
def patternRule (g : Rules) (pattern : Parser Node) : Parser Node := do
  let line ← line
  let first ← closedPattern g pattern
  let rest ← repeatWhile (accept (.symbol "|")) (closedPattern g pattern) g.limit
  let n := if rest.isEmpty then first
    else .mk .matchOr (some line) [(.patterns, nodeList (first :: rest))]
  if ← accept (.word "as") then
    return .mk .matchAs (some line) [(.pattern, .node n), (.name, .text (← captureName))]
  else return n

/-- A pattern in which patterns are nested at most so deep. -/
def patternAt (g : Rules) : Nat → Parser Node
  | 0 => failure
  | depth + 1 => fun tokens => patternRule g (patternAt g depth) tokens

/-- What stands after `case`. -/
def patterns (g : Rules) : Parser Node :=
  openSequence g (patternAt g g.limit)

end ArchLint.Source
