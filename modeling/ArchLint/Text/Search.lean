/-!
# Search in text

Whether one text stands inside another.  Every judgement of the library that looks for a word
(`"validate"` in a scope's name, `"none"` in a test) goes through `Text.holds`.

* `occursIn_iff`: the search finds a word exactly when the word is a run of consecutive characters.
-/

namespace ArchLint.Text

/-- Whether `word` stands somewhere in the text, as consecutive characters. -/
def occursIn (word : List Char) : List Char → Bool
  | [] => word.isEmpty
  | c :: rest => word.isPrefixOf (c :: rest) || occursIn word rest

theorem occursIn_iff {word text : List Char} : occursIn word text = true ↔ word <:+: text := by
  induction text with
  | nil => simp [occursIn]
  | cons c rest ih => simp [occursIn, ih, List.infix_cons_iff]

def holds (text word : String) : Bool :=
  occursIn word.toList text.toList

theorem holds_iff {text word : String} : holds text word = true ↔ word.toList <:+: text.toList :=
  occursIn_iff

def holdsAny (text : String) (words : List String) : Bool :=
  words.any (holds text)

theorem holdsAny_iff {text : String} {words : List String} :
    holdsAny text words = true ↔ ∃ word ∈ words, word.toList <:+: text.toList := by
  simp [holdsAny, holds_iff]

/-- The first entry of an ordered list of rules one of whose words the text holds. -/
def firstHeld {α : Type} (rules : List (α × List String)) (text : String) : Option α :=
  (rules.find? fun rule => holdsAny text rule.2).map (·.1)

end ArchLint.Text
