import ArchLint.Source.Numeral

/-!
# The lexer

Cuts source text into tokens.  Blanks, comments and blank lines vanish; inside brackets line ends
vanish too.  Outside brackets the indentation of a line is compared with that of the lines around it:
deeper opens a block, shallower closes blocks, and it must then be the indentation of an open one.
Tabs are counted in two ways, to eight and to one, and both must tell the same.
-/

namespace ArchLint.Source

/-- A column, counted in two ways. -/
structure Column where
  wide : Nat := 0
  narrow : Nat := 0
  deriving DecidableEq, Repr

structure LexState where
  rest : List Char
  line : Nat
  /-- The indentation of the open blocks, innermost first. -/
  blocks : List Column := []
  /-- The open brackets, innermost first. -/
  brackets : List Char := []
  atLineStart : Bool := true

def maxBlocks : Nat := 99

def maxBrackets : Nat := 200

/-! ## The start of a line -/

/-- The blanks at the start of a line.  After a backslash the line goes on in the next one; its
indentation is then that in front of the first backslash, if there are blanks. -/
def indentation (column : Column) (held line : Nat) :
    List Char → Option (Column × Nat × List Char)
  | '\\' :: '\n' :: rest =>
    if rest.isEmpty then none
    else indentation column (if held = 0 then column.wide else held) (line + 1) rest
  | c :: rest =>
    if c = ' ' then indentation ⟨column.wide + 1, column.narrow + 1⟩ held line rest
    else if c = '\t' then
      indentation ⟨(column.wide / 8 + 1) * 8, column.narrow + 1⟩ held line rest
    else if c = '\x0c' then indentation ⟨0, 0⟩ held line rest
    else if c = '\\' then none
    else some (if held = 0 then column else ⟨held, held⟩, line, c :: rest)
  | [] => some (if held = 0 then column else ⟨held, held⟩, line, [])

def leaveBlocks (column : Column) : List Column → List Column
  | [] => []
  | block :: outer => if column.wide < block.wide then leaveBlocks column outer else block :: outer

/-- Opens or closes blocks for a line that starts at a column. -/
def arrange (column : Column) (line : Nat) (blocks : List Column) :
    Option (List Token × List Column) :=
  let current := blocks.head?.getD {}
  if column.wide = current.wide then
    if column.narrow = current.narrow then some ([], blocks) else none
  else if current.wide < column.wide then
    if maxBlocks ≤ blocks.length || column.narrow ≤ current.narrow then none
    else some ([⟨.indent, line⟩], column :: blocks)
  else
    let open' := leaveBlocks column blocks
    if open'.head?.getD {} = column then
      some (List.replicate (blocks.length - open'.length) ⟨.dedent, line⟩, open')
    else none

/-- Drops the rest of a line, up to its end. -/
def dropComment (text : List Char) : List Char :=
  text.dropWhile (· != '\n')

/-- Starts a line: a blank one is dropped, any other opens or closes blocks. -/
def startLine (s : LexState) : Option (List Token × LexState) :=
  match indentation {} 0 s.line s.rest with
  | none => none
  | some (column, line, rest) =>
    match rest with
    | '\n' :: after => some ([], { s with rest := after, line := line + 1 })
    | '#' :: _ => some ([], { s with rest := (dropComment rest).drop 1, line := line + 1 })
    | _ =>
      (arrange column line s.blocks).map fun (tokens, blocks) =>
        (tokens, { s with rest, line, blocks, atLineStart := false })

/-! ## Within a line -/

/-- The rest of a text literal between single quotes, and what follows it. -/
def shortBody (quote : Char) : List Char → Option (List Char × List Char)
  | '\\' :: c :: rest => (shortBody quote rest).map fun (body, after) => ('\\' :: c :: body, after)
  | c :: rest =>
    if c = quote then some ([], rest)
    else if c = '\n' then none
    else (shortBody quote rest).map fun (body, after) => (c :: body, after)
  | [] => none

/-- The rest of a text literal between triple quotes, and what follows it. -/
def longBody (quote : Char) : List Char → Option (List Char × List Char)
  | '\\' :: c :: rest => (longBody quote rest).map fun (body, after) => ('\\' :: c :: body, after)
  | c :: rest =>
    if [quote, quote, quote].isPrefixOf (c :: rest) then some ([], rest.drop 2)
    else (longBody quote rest).map fun (body, after) => (c :: body, after)
  | [] => none

def quotationAt (marks : List Char) (text : List Char) : Option (Quotation × List Char) :=
  match text with
  | quote :: rest =>
    let found := if [quote, quote].isPrefixOf rest then longBody quote (rest.drop 2)
      else shortBody quote rest
    found.map fun (body, after) => (⟨marks, body⟩, after)
  | [] => none

/-- Whether letters in front of a quote belong to the literal. -/
def areMarks (word : List Char) : Bool :=
  ["", "b", "u", "r", "f", "br", "rb", "fr", "rf"].contains
    (String.ofList (word.map Char.toLower))

def lineEnds (text : List Char) : Nat :=
  text.count '\n'

def closingOf? : Char → Option Char
  | '(' => some ')'
  | '[' => some ']'
  | '\x7b' => some '\x7d'
  | _ => none

/-- The open brackets after a symbol; a closing bracket must match the innermost one. -/
def nest (symbol : List Char) (brackets : List Char) : Option (List Char) :=
  match symbol with
  | [c] =>
    if (closingOf? c).isSome then
      if maxBrackets ≤ brackets.length then none else some (c :: brackets)
    else if c = ')' || c = ']' || c = '\x7d' then
      match brackets with
      | inner :: outer => if closingOf? inner = some c then some outer else none
      | [] => none
    else some brackets
  | _ => some brackets

/-- A word, or a text literal with letters in front. -/
def wordAt (s : LexState) : Option (List Token × LexState) :=
  let word := s.rest.takeWhile isWordPart
  let after := s.rest.drop word.length
  let quoted := match after with
    | c :: _ => (c = '"' || c = '\x27') && areMarks word
    | [] => false
  if quoted then
    (quotationAt word after).map fun (q, last) =>
      ([⟨.quotation q, s.line⟩], { s with rest := last, line := s.line + lineEnds q.body })
  else if word.all (·.toNat < 128) || Text.isIdentifier word then
    some ([⟨.word (String.ofList word), s.line⟩], { s with rest := after })
  else none

def symbolAt (s : LexState) : Option (List Token × LexState) :=
  (symbolAt? s.rest).bind fun (symbol, after) =>
    (nest symbol.toList s.brackets).map fun brackets =>
      ([⟨.symbol symbol, s.line⟩], { s with rest := after, brackets })

def isBlank (c : Char) : Bool :=
  c = ' ' || c = '\t' || c = '\x0c'

def lexeme (s : LexState) : Option (List Token × LexState) :=
  match s.rest with
  | [] => some ([], s)
  | c :: rest =>
    if isBlank c then some ([], { s with rest := rest.dropWhile isBlank })
    else if c = '#' then some ([], { s with rest := dropComment rest })
    else if c = '\n' then
      if s.brackets.isEmpty then
        some ([⟨.lineEnd, s.line⟩], { s with rest, line := s.line + 1, atLineStart := true })
      else some ([], { s with rest, line := s.line + 1 })
    else if c = '\\' then
      match rest with
      | '\n' :: d :: after => some ([], { s with rest := d :: after, line := s.line + 1 })
      | _ => none
    else if isWordStart c || c = '"' || c = '\x27' then wordAt s
    else if c.isDigit || (c = '.' && (rest.head?.map Char.isDigit).getD false) then
      (numeral s.rest).map fun (value, after) =>
        ([⟨.number value, s.line⟩], { s with rest := after })
    else symbolAt s

/-! ## The whole text -/

/-- One step: the start of a line, or a token within it. -/
def lexStep (s : LexState) : Option (List Token × LexState) :=
  if s.atLineStart then startLine s else lexeme s

/-- The tokens at the end of a text: all blocks are closed. -/
def lexEnd (s : LexState) : Option (List Token) :=
  if s.brackets.isEmpty then
    some (s.blocks.map (fun _ => ⟨.dedent, s.line⟩) ++ [⟨.fileEnd, s.line⟩])
  else none

/-- Cuts a text into tokens, in at most so many steps; `done` holds the tokens found, last first. -/
def lexFrom : Nat → LexState → List Token → Option (List Token)
  | 0, _, _ => none
  | fuel + 1, s, done =>
    if s.rest.isEmpty then (lexEnd s).map (done.reverse ++ ·)
    else
      match lexStep s with
      | some (tokens, next) => lexFrom fuel next (tokens.reverse ++ done)
      | none => none

def closeLine (text : List Char) : List Char :=
  if text.getLast? = some '\n' then text else text ++ ['\n']

/-- The tokens of a text whose first line has the given number. -/
def tokenize (line : Nat) (text : List Char) : Option (List Token) :=
  let closed := closeLine text
  lexFrom (2 * closed.length + 2) { rest := closed, line } []

end ArchLint.Source
