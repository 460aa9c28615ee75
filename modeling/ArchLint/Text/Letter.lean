/-!
# Letters

The characters of a text literal.  An escape can write one half of a surrogate pair by itself, which
is no character; the text of a literal is therefore a list of letters, each a character or such a
half.  Letters are kept wherever texts are compared or written out as source.  A description is
plain text: there `Letters.toString` shows every half as the replacement character, so that letters
that differ in their halves alone are shown alike.

* `toString_ofString`: a text is what its letters show.
* `ofString_inj`: different texts have different letters.
-/

namespace ArchLint.Text

inductive Letter where
  | char (c : Char)
  | half (code : Nat)
  deriving DecidableEq, Repr, Inhabited

/-- The letter of a code point: a surrogate is a half. -/
def Letter.ofCode (code : Nat) : Letter :=
  if h : code.isValidChar then .char (Char.ofNatAux code h) else .half code

/-- The character that a letter shows; a half cannot stand in a text and shows a stand-in. -/
def Letter.shown : Letter → Char
  | .char c => c
  | .half _ => '\ufffd'

abbrev Letters := List Letter

namespace Letters

def ofChars (chars : List Char) : Letters :=
  chars.map .char

def ofString (s : String) : Letters :=
  ofChars s.toList

/-- The text that letters show. -/
def toString (letters : Letters) : String :=
  String.ofList (letters.map Letter.shown)

theorem map_shown_ofChars (chars : List Char) : (ofChars chars).map Letter.shown = chars := by
  induction chars with
  | nil => rfl
  | cons c rest ih => simpa [ofChars, Letter.shown] using ih

@[simp] theorem toString_ofString (s : String) : toString (ofString s) = s := by
  rw [toString, ofString, map_shown_ofChars, String.ofList_toList]

theorem ofString_inj {s t : String} : ofString s = ofString t ↔ s = t := by
  constructor
  · intro h
    rw [← toString_ofString s, h, toString_ofString]
  · rintro rfl
    rfl

end Letters
end ArchLint.Text
