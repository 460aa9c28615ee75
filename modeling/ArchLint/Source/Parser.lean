import ArchLint.Source.Token
import ArchLint.Text.Normal

/-!
# Parsers

A parser takes tokens from the front of a list, or refuses.  The rules of the grammar look at the
next token to choose what to read; only where that is not enough is a second way tried from the same
place.
-/

namespace ArchLint.Source

open ArchLint.Syntax (Node Value)

/-- A reader of tokens that may refuse. -/
abbrev Parser := StateT (List Token) Option

namespace Parser

def token : Parser Token := fun tokens =>
  match tokens with
  | t :: rest => some (t, rest)
  | [] => none

def line : Parser Nat := fun tokens =>
  match tokens with
  | t :: _ => some (t.line, tokens)
  | [] => none

def looks (test : Lexeme → Bool) : Parser Bool := fun tokens =>
  match tokens with
  | t :: _ => some (test t.lexeme, tokens)
  | [] => some (false, tokens)

def looksTwo (first second : Lexeme → Bool) : Parser Bool := fun tokens =>
  match tokens with
  | t :: u :: _ => some (first t.lexeme && second u.lexeme, tokens)
  | _ => some (false, tokens)

/-- Whether the next token is the given one. -/
def sees (lexeme : Lexeme) : Parser Bool :=
  looks (· == lexeme)

/-- Takes the next token if it is the given one, and says whether it was. -/
def accept (lexeme : Lexeme) : Parser Bool := fun tokens =>
  match tokens with
  | t :: rest => if t.lexeme = lexeme then some (true, rest) else some (false, tokens)
  | [] => some (false, tokens)

def expect (lexeme : Lexeme) : Parser Unit := fun tokens =>
  match tokens with
  | t :: rest => if t.lexeme = lexeme then some ((), rest) else none
  | [] => none

/-- Refuses unless the condition holds. -/
def require (condition : Bool) : Parser Unit :=
  if condition then pure () else failure

/-- Reads in a second way what cannot be read in the first. -/
def orElse {α : Type} (first second : Parser α) : Parser α := fun tokens =>
  match first tokens with
  | some result => some result
  | none => second tokens

/-- Reads items as long as there are more, at most `limit` of them. -/
def repeatWhile {α : Type} (more : Parser Bool) (item : Parser α) : Nat → Parser (List α)
  | 0 => pure []
  | limit + 1 => do
    if ← more then
      let a ← item
      let rest ← repeatWhile more item limit
      return a :: rest
    else return []

/-- Extends what was read as long as that is possible, at most `limit` times. -/
def extend {α : Type} (step : α → Parser (Option α)) : Nat → α → Parser α
  | 0, a => pure a
  | limit + 1, a => do
    match ← step a with
    | some b => extend step limit b
    | none => return a

/-- Reads further items, each after a comma, at most `limit` of them.  A comma with no item after it
ends the list. -/
def afterCommas {α : Type} (starts : Parser Bool) (item : Parser α) : Nat → Parser (List α)
  | 0 => pure []
  | limit + 1 => do
    if ← accept (.symbol ",") then
      if ← starts then
        let a ← item
        let rest ← afterCommas starts item limit
        return a :: rest
      else return []
    else return []

/-- Reads one or more items with commas between them, and says whether there was a comma. -/
def commaList {α : Type} (starts : Parser Bool) (item : Parser α) (limit : Nat) :
    Parser (List α × Bool) := do
  let first ← item
  let comma ← sees (.symbol ",")
  let rest ← afterCommas starts item limit
  return (first :: rest, comma)

def isIdentifier : Lexeme → Bool
  | .word w => !keywords.contains w
  | _ => false

/-- Takes an identifier, in its normal form. -/
def identifier : Parser String := do
  match (← token).lexeme with
  | .word w => if keywords.contains w then failure else return Text.normalize w
  | _ => failure

end Parser

/-! ## Values of fields -/

def nodeList (ns : List Node) : Value :=
  .list (ns.map .node)

/-- A node that may be missing as the value of a field. -/
def optionalNode : Option Node → Value
  | some n => .node n
  | none => .null

/-- A text that may be missing as the value of a field. -/
def optionalText : Option String → Value
  | some s => .text s
  | none => .null

end ArchLint.Source
