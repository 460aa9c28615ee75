import ArchLint.Text.Name.Additions
import ArchLint.Text.Name.Alias
import ArchLint.Text.Name.Ancient
import ArchLint.Text.Name.Brahmic
import ArchLint.Text.Name.EastAsian
import ArchLint.Text.Name.European
import ArchLint.Text.Name.Historic
import ArchLint.Text.Name.Indic
import ArchLint.Text.Name.MiddleEastern
import ArchLint.Text.Name.Notations
import ArchLint.Text.Name.Pictures
import ArchLint.Text.Name.Regional
import ArchLint.Text.Name.Roll
import ArchLint.Text.Name.SouthEastern
import ArchLint.Text.Name.Syllabic
import ArchLint.Text.Name.Symbols

/-!
# Characters by name

Which character has a given name.  Most names stand on rolls; those of ideographs hold a number, and
those of Korean syllables are spelled out from their letters.  The names of unified ideographs and
of Korean syllables are in capitals, all others can be in small letters too.
-/

namespace ArchLint.Text.Name

def after? (start : String) (text : List Char) : Option (List Char) :=
  if start.toList.isPrefixOf text then some (text.drop start.length) else none

/-! ## Korean syllables -/

/-- The spellings of the first letters of a syllable, one of which is silent. -/
def initials : List String :=
  ["G", "GG", "N", "D", "DD", "R", "M", "B", "BB", "S", "SS", "", "J", "JJ", "C", "K", "T", "P",
    "H"]

def vowels : List String :=
  ["A", "AE", "YA", "YAE", "EO", "E", "YEO", "YE", "O", "WA", "WAE", "OE", "YO", "U", "WEO", "WE",
    "WI", "YU", "EU", "YI", "I"]

/-- The spellings of the last letters, the first of which is that of none. -/
def finals : List String :=
  ["", "G", "GG", "GS", "N", "NJ", "NH", "D", "L", "LG", "LM", "LB", "LS", "LT", "LP", "LH", "M",
    "B", "BS", "S", "SS", "NG", "J", "C", "K", "T", "P", "H"]

/-- The longest of the spellings, numbered from `index`, with which the text begins. -/
def longestStart? (text : List Char) : Nat → List String → Option (Nat × String)
  | _, [] => none
  | index, spelling :: rest =>
    let later := longestStart? text (index + 1) rest
    if spelling.toList.isPrefixOf text then
      match later with
      | some (_, other) => if spelling.length < other.length then later else some (index, spelling)
      | none => some (index, spelling)
    else later

/-- The number of the spelling with which the text begins, and what follows it. -/
def spelled? (spellings : List String) (text : List Char) : Option (Nat × List Char) :=
  (longestStart? text 0 spellings).map fun (index, spelling) => (index, text.drop spelling.length)

def syllable? (text : List Char) : Option Nat := do
  let (first, text) ← spelled? initials text
  let (vowel, text) ← spelled? vowels text
  let (last, text) ← spelled? finals text
  if text.isEmpty then some (0xac00 + (first * 21 + vowel) * 28 + last) else none

/-! ## Names that hold a number -/

def isNameDigit (c : Char) : Bool :=
  c.isDigit || ('A' ≤ c && c ≤ 'F')

def unifiedIdeographs : CodeRanges :=
  CodeRanges.ofText
    "3400-4dbf 4e00-9fff 20000-2a6df 2a700-2b738 2b740-2b81d 2b820-2cea1 2ceb0-2ebe0 30000-3134a"

/-- The unified ideograph with the given number, of four or five digits. -/
def ideograph? (digits : List Char) : Option Nat :=
  if (digits.length = 4 || digits.length = 5) && digits.all isNameDigit &&
      unifiedIdeographs.mem (hexValue digits) then
    some (hexValue digits)
  else none

/-- Characters whose names are one text followed by the number of the character. -/
structure Series where
  stem : String
  members : CodeRanges

/-- The series of characters other than unified ideographs. -/
def series : List Series :=
  [⟨"CJK COMPATIBILITY IDEOGRAPH-", CodeRanges.ofText "f900-fa6d fa70-fad9 2f800-2fa1d"⟩,
    ⟨"KHITAN SMALL SCRIPT CHARACTER-", CodeRanges.ofText "18b00-18cd5"⟩,
    ⟨"NUSHU CHARACTER-", CodeRanges.ofText "1b170-1b2fb"⟩]

/-- The member of a series with the given name; its number has no zeros in front. -/
def Series.find? (s : Series) (name : List Char) : Option Nat := do
  let digits ← after? s.stem name
  if digits.all isNameDigit && digits.head? != some '0' && s.members.mem (hexValue digits) then
    some (hexValue digits)
  else none

/-! ## All names -/

def rolls : List String :=
  [european, symbols, pictures, aliases, middleEastern, indic, syllabic, southEastern, eastAsian,
    additions, historic, brahmic, ancient, regional, notations]

/-- The character on a roll or in a series, whose name is written in capitals. -/
def listed? (name : List Char) : Option Nat :=
  (series.findSome? fun s => s.find? name).or
    (rolls.findSome? fun roll => findOn roll (wordsOf name))

def find? (name : List Char) : Option Nat :=
  match after? "HANGUL SYLLABLE " name with
  | some letters => syllable? letters
  | none =>
    match after? "CJK UNIFIED IDEOGRAPH-" name with
    | some digits => ideograph? digits
    | none => listed? (name.map Char.toUpper)

end ArchLint.Text.Name
