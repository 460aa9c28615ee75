import ArchLint.Source.Escape
import ArchLint.Source.Lexer

/-!
# Templates

Text literals with replacement fields.  A template is cut into runs of text and fields; a field is
cut into the source of its expression, the label that it shows, a conversion and a format, which is a
template of its own.  In the text of a template a doubled bracket stands for a single one; in a
format it does not.
-/

namespace ArchLint.Source

open ArchLint.Text (Letters)

inductive Part where
  | text (letters : Letters)
  /-- A replacement field: its source and the line where it starts, what it shows of its source, the
  code of its conversion, and its format when it has one. -/
  | field (source : List Char) (line : Nat) (label : List Char) (conversion : Int)
      (hasFormat : Bool) (format : List Part)

inductive TextEnd where
  | finish | opening | closing
  deriving DecidableEq, Repr

/-- How the last characters of a run of text are to be read. -/
inductive TextMode where
  /-- As they stand. -/
  | plain
  /-- After a backslash. -/
  | escaped
  /-- After the mark of a name. -/
  | mark
  /-- Inside a name. -/
  | named
  deriving DecidableEq, Repr

/-- A run of text up to a field, to the end of a format, or to the end of the template, and what
follows it.  A backslash does not hide a bracket, except that of a name. -/
def textRun (raw top : Bool) : TextMode → List Char → Option (List Char × TextEnd × List Char)
  | _, [] => some ([], .finish, [])
  | mode, c :: rest =>
    let keep (next : TextMode) :=
      (textRun raw top next rest).map fun (run, why, after) => (c :: run, why, after)
    match mode with
    | .mark => if c = '\x7b' then keep .named else keep .plain
    | .named => if c = '\x7d' then keep .plain else keep .named
    | _ =>
      if c = '\\' && !raw && mode = .plain then keep .escaped
      else if c = 'N' && mode = .escaped then keep .mark
      else if c = '\x7b' || c = '\x7d' then
        match rest with
        | d :: more =>
          if top && d = c then
            (textRun raw top .plain more).map fun (run, why, after) => (c :: run, why, after)
          else if c = '\x7b' then some ([], .opening, rest)
          else if top then none
          else some ([], .closing, c :: rest)
        | [] =>
          if c = '\x7b' then some ([], .opening, rest)
          else if top then none
          else some ([], .closing, c :: rest)
      else keep .plain

structure FieldState where
  /-- The quote of the literal inside which the source is, and whether it is tripled. -/
  quote : Option (Char × Bool) := none
  /-- The open brackets, innermost first. -/
  brackets : List Char := []

/-- The source of a field up to the character that ends it, and what follows.  There are no
backslashes and no comments in a field. -/
def fieldSource (s : FieldState) : List Char → Option (List Char × List Char)
  | [] => none
  | c :: rest =>
    let keep (next : FieldState) :=
      (fieldSource next rest).map fun (source, after) => (c :: source, after)
    if c = '\\' then none
    else match s.quote with
    | some (quote, false) => keep (if c = quote then { s with quote := none } else s)
    | some (quote, true) =>
      match c == quote, rest with
      | true, d :: e :: more =>
        if d = quote && e = quote then
          (fieldSource { s with quote := none } more).map fun (source, after) =>
            (c :: d :: e :: source, after)
        else keep s
      | _, _ => keep s
    | none =>
      if c = '\x27' || c = '"' then
        match rest with
        | d :: e :: more =>
          if d = c && e = c then
            (fieldSource { s with quote := some (c, true) } more).map fun (source, after) =>
              (c :: d :: e :: source, after)
          else keep { s with quote := some (c, false) }
        | _ => keep { s with quote := some (c, false) }
      else if (closingOf? c).isSome then
        if maxBrackets ≤ s.brackets.length then none
        else keep { s with brackets := c :: s.brackets }
      else if c = '#' then none
      else match s.brackets with
        | [] =>
          if c = ')' || c = ']' then none
          else if c = '!' || c = '=' || c = '<' || c = '>' then
            match rest with
            | '=' :: more =>
              (fieldSource s more).map fun (source, after) => (c :: '=' :: source, after)
            | _ => if c = '!' || c = '=' then some ([], c :: rest) else keep s
          else if c = ':' || c = '\x7d' then some ([], c :: rest)
          else keep s
        | inner :: outer =>
          if c = ')' || c = ']' || c = '\x7d' then
            if closingOf? inner = some c then keep { s with brackets := outer } else none
          else keep s

def isSpace (c : Char) : Bool :=
  c = ' ' || ('\t' ≤ c && c ≤ '\r')

def hasExpression (source : List Char) : Bool :=
  !source.all fun c => c = ' ' || c = '\t' || c = '\n' || c = '\x0c'

/-- The label of a field that shows its own source, and what follows it. -/
def fieldLabel (source text : List Char) : List Char × List Char :=
  match text with
  | '=' :: rest => (source ++ '=' :: rest.takeWhile isSpace, rest.dropWhile isSpace)
  | _ => ([], text)

def fieldConversion (text : List Char) : Option (Option Char × List Char) :=
  match text with
  | '!' :: c :: rest => if c = 's' || c = 'r' || c = 'a' then some (some c, rest) else none
  | '!' :: [] => none
  | _ => some (none, text)

/-- Whether a field has a format, the format as `parts` reads it, and what follows it. -/
def fieldFormat (parts : List Char → Option (List Part × List Char)) (text : List Char) :
    Option (Bool × List Part × List Char) :=
  match text with
  | ':' :: spec => (parts spec).map fun (format, rest) => (true, format, rest)
  | _ => some (false, [], text)

/-- The code of a conversion.  A field that shows its own source, and has neither conversion nor
format, is converted like quoted text. -/
def conversionCode (label : List Char) (hasFormat : Bool) : Option Char → Int
  | some c => c.toNat
  | none => if label.isEmpty || hasFormat then -1 else 'r'.toNat

/-- The parts of a template or of a format, and what follows them, in at most so many steps.  Formats
are nested one level deep. -/
def partsFrom (raw : Bool) : Nat → Nat → Nat → List Char → Option (List Part × List Char)
  | 0, _, _, _ => none
  | fuel + 1, level, line, text => do
    let (run, why, after) ← textRun raw (level = 0) .plain text
    let letters ← if raw then some (Letters.ofChars run) else unescapeText run
    let here := line + (lineEnds text - lineEnds after)
    match why with
    | .finish => if level = 0 then some ([.text letters], []) else none
    | .closing => some ([.text letters], after)
    | .opening =>
      if 2 ≤ level then none
      else
        let (source, rest) ← fieldSource {} after
        if !hasExpression source then none
        else
          let (label, rest) := fieldLabel source rest
          let (conversion, rest) ← fieldConversion rest
          let lineOf (remaining : List Char) := line + (lineEnds text - lineEnds remaining)
          let (hasFormat, format, rest) ← fieldFormat
            (fun spec => partsFrom raw fuel (level + 1) (lineOf spec) spec) rest
          match rest with
          | '\x7d' :: last =>
            let field := Part.field source here label (conversionCode label hasFormat conversion)
              hasFormat format
            (partsFrom raw fuel level (lineOf last) last).map fun (parts, final) =>
              (.text letters :: field :: parts, final)
          | _ => none

def templateParts (q : Quotation) (line : Nat) : Option (List Part) :=
  (partsFrom q.isRaw (q.body.length + 1) 0 line q.body).map (·.1)

end ArchLint.Source
