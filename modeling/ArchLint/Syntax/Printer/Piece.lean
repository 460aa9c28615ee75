import ArchLint.Syntax.Fault

/-!
# Pieces of printed text

Printing a node gives a list of pieces, in the order in which they are written.  Most are text; the
others say what happens to the text written so far.  A sheet holds what is written, and `assemble`
joins it in the end.

* `write_append`: writing goes on where it stopped.
* `assemble_map_text`: pieces that are all text are joined, and nothing else happens.
-/

namespace ArchLint.Syntax

open ArchLint.Text (Letters)

inductive Piece where
  | text (t : Letters)
  /-- Something that is no text, where text is due, by its class. -/
  | odd (label : String)
  /-- Printing stops. -/
  | stop (fault : Fault)
  /-- A line end, unless nothing is written yet. -/
  | lineEnd
  /-- What is written is dropped. -/
  | restart
  /-- What is written has to be text. -/
  | check
  deriving DecidableEq, Repr

def Piece.str (s : String) : Piece :=
  .text (Letters.ofString s)

/-- What is written, the last first: text, or the class of what is no text. -/
abbrev Sheet := List (Except String Letters)

/-- Texts joined, the first of which has the given place; what is no text is a fault. -/
def joinFrom : Nat → List (Except String Letters) → Except Fault Letters
  | _, [] => .ok []
  | place, .error label :: _ => .error (.notText place label)
  | place, .ok t :: rest => (joinFrom (place + 1) rest).map (t ++ ·)

def Sheet.join (sheet : Sheet) : Except Fault Letters :=
  joinFrom 0 sheet.reverse

def write : List Piece → Sheet → Except Fault Sheet
  | [], sheet => .ok sheet
  | .text t :: rest, sheet => write rest (.ok t :: sheet)
  | .odd label :: rest, sheet => write rest (.error label :: sheet)
  | .stop fault :: _, _ => .error fault
  | .lineEnd :: rest, sheet =>
    write rest (if sheet.isEmpty then sheet else .ok [.char '\n'] :: sheet)
  | .restart :: rest, _ => write rest []
  | .check :: rest, sheet =>
    match sheet.join with
    | .error fault => .error fault
    | .ok _ => write rest sheet

/-- Pieces as one text, or the first fault that is met. -/
def assemble (pieces : List Piece) : Except Fault Letters :=
  match write pieces [] with
  | .error fault => .error fault
  | .ok sheet => sheet.join

/-- Pieces written on a sheet of their own, as pieces again.  What follows a restart is not on that
sheet. -/
def setAside (pieces : List Piece) : List Piece :=
  match write pieces [], write (pieces.takeWhile (· != .restart)) [] with
  | .ok _, .ok sheet =>
    sheet.reverse.map fun
      | .ok t => .text t
      | .error label => .odd label
  | .error fault, _ => [.stop fault]
  | _, .error fault => [.stop fault]

theorem write_append (first second : List Piece) (sheet : Sheet) :
    write (first ++ second) sheet =
      match write first sheet with
      | .error fault => .error fault
      | .ok sheet => write second sheet := by
  induction first generalizing sheet with
  | nil => rfl
  | cons p rest ih =>
    cases p with
    | check =>
      simp only [List.cons_append, write]
      cases Sheet.join sheet with
      | error fault => rfl
      | ok t => exact ih sheet
    | stop fault => rfl
    | _ => simp only [List.cons_append, write, ih]

theorem write_map_text (texts : List Letters) (sheet : Sheet) :
    write (texts.map .text) sheet = .ok ((texts.map .ok).reverse ++ sheet) := by
  induction texts generalizing sheet with
  | nil => rfl
  | cons t rest ih => simp [write, ih]

theorem joinFrom_map_ok (place : Nat) (texts : List Letters) :
    joinFrom place (texts.map .ok) = .ok texts.flatten := by
  induction texts generalizing place with
  | nil => rfl
  | cons t rest ih => simp [joinFrom, ih, Except.map]

theorem assemble_map_text (texts : List Letters) :
    assemble (texts.map .text) = .ok texts.flatten := by
  simp [assemble, write_map_text, Sheet.join, joinFrom_map_ok]

end ArchLint.Syntax
