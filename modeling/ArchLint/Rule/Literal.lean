import ArchLint.Finding
import ArchLint.Groups
import ArchLint.Syntax.Walk

/-!
# Repeated literals

Texts of at least two characters that stand in a tree more than once.  They are collected level by
level, in the order in which they are first met, each with the lines of all its occurrences.

Texts are told apart by their letters.  Their descriptions are plain text, in which the half of a
surrogate pair is shown as the replacement character: two texts that differ in such halves alone
have a finding each, with the same words.
-/

namespace ArchLint.Rule

open ArchLint.Syntax (Node)
open ArchLint.Text (Letters)

/-- Texts with the lines on which they stand. -/
abbrev Literals := Groups Letters Int

namespace Literals

/-- The text that a node is, when it is a literal of at least two characters. -/
def textOf? (n : Node) : Option Letters :=
  match n.kind, n.get? .value with
  | .constant, some (.constant (.text t)) => if 1 < t.length then some t else none
  | _, _ => none

def ofTree (tree : Node) : Literals :=
  Groups.ofList (tree.walk.filterMap fun (_, n) => (textOf? n).map fun t => (t, n.lineNumber))

/-- The finding of a text that stands on at least two lines, at the first of them. -/
def finding? (file : String) (text : Letters) : List Int → Option Finding
  | first :: _ :: more =>
    some ⟨file, first, "string_literal_repetition: '" ++ text.toString ++ "' appears " ++
      toString (2 + more.length) ++ " times"⟩
  | _ => none

def findings (literals : Literals) (file : String) : List Finding :=
  literals.filterMap fun (text, lines) => finding? file text lines

def analyze (tree : Node) (file : String) : List Finding :=
  (ofTree tree).findings file

end Literals
end ArchLint.Rule
