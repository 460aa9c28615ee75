import ArchLint.Finding
import ArchLint.Rule.Literal
import Mathlib.Data.List.Find
import Mathlib.Data.List.Infix

/-!
# Reading findings back

A finding says in words what it stands for, next to text of the program that was analysed; the words
are then looked for in lower case.  This file says what is found there: the mark that was written,
or a word that the text of the program happens to hold.

* `Text.lowerFrom_append_space`: **a blank cuts a text for lower-casing**, since no letter before it
  decides over a sigma after it.
* `Text.infix_append_cons`: a word without a mark stands before it or after it.
* `holds_lowered_ofMark`, `holds_lowered_literal`: where an indicator word can stand in a finding.
* `Finding.violation?_ofMark`, `Finding.pattern?_ofMark`: **what a marked finding is read as**.
* `Finding.violation?_literal`, `Finding.pattern?_literal`: the same for a repeated literal.
-/

namespace ArchLint

/-! ## Lower case of joined texts -/

namespace Text

theorem startsCased_append_space (xs ys : List Char) :
    startsCased (xs ++ ' ' :: ys) = startsCased (xs ++ [' ']) := by
  induction xs with
  | nil => rfl
  | cons c rest ih =>
    rw [List.cons_append, List.cons_append, startsCased, startsCased, ih]

theorem lowerFrom_append_space (after : Bool) (xs ys : List Char) :
    lowerFrom after (xs ++ ' ' :: ys) = lowerFrom after (xs ++ [' ']) ++ lowerFrom false ys := by
  induction xs generalizing after with
  | nil =>
    have hlower : ∀ rest, lowerFrom after (' ' :: rest) = ' ' :: lowerFrom false rest :=
      fun rest => rfl
    rw [List.nil_append, List.nil_append, hlower, hlower]
    rfl
  | cons c rest ih =>
    rw [List.cons_append, List.cons_append, lowerFrom, lowerFrom, startsCased_append_space, ih,
      List.append_assoc]

theorem startsCased_append_quote (xs : List Char) :
    startsCased (xs ++ ['\x27', ' ']) = startsCased xs := by
  induction xs with
  | nil => rfl
  | cons c rest ih => rw [List.cons_append, startsCased, startsCased, ih]

theorem lowerFrom_append_quote (after : Bool) (xs : List Char) :
    lowerFrom after (xs ++ ['\x27', ' ']) = lowerFrom after xs ++ ['\x27', ' '] := by
  induction xs generalizing after with
  | nil => rfl
  | cons c rest ih =>
    rw [List.cons_append, lowerFrom, lowerFrom, startsCased_append_quote, ih, List.append_assoc]

theorem lowerFrom_ascii (after : Bool) {xs : List Char} (h : ∀ c ∈ xs, c.toNat < 128) :
    lowerFrom after xs = xs.map Char.toLower := by
  induction xs generalizing after with
  | nil => rfl
  | cons c rest ih =>
    have hc : c.toNat < 128 := h c List.mem_cons_self
    have hsigma : c ≠ 'Σ' := by
      rintro rfl
      exact absurd hc (by decide)
    rw [lowerFrom, if_neg hsigma, ih _ fun d hd => h d (List.mem_cons_of_mem c hd), lowerChar,
      if_pos hc, List.map_cons, List.singleton_append]

/-! ## Words in joined texts -/

/-- **A word without a mark stands before the mark or after it.** -/
theorem infix_append_cons {word xs ys : List Char} {mark : Char} (h : mark ∉ word) :
    word <:+: xs ++ mark :: ys ↔ word <:+: xs ∨ word <:+: ys := by
  constructor
  · rintro ⟨before, after, heq⟩
    rcases List.append_eq_append_iff.mp heq with ⟨gap, hxs, _⟩ | ⟨gap, hword, hys⟩
    · exact Or.inl ⟨before, gap, hxs.symm⟩
    · -- the mark stands in what follows `xs`, and the word cannot hold it
      rcases List.append_eq_append_iff.mp hword with ⟨more, hbefore, hgap⟩ | ⟨more, hbefore, hgap⟩
      · cases gap with
        | nil =>
          rw [List.append_nil] at hword
          exact Or.inl ⟨before, [], by rw [List.append_nil, hword]⟩
        | cons c rest =>
          rw [List.cons_append, List.cons.injEq] at hys
          refine absurd ?_ h
          rw [hgap, ← hys.1]
          exact List.mem_append_right _ List.mem_cons_self
      · cases more with
        | nil =>
          rw [List.nil_append] at hgap
          cases word with
          | nil => exact Or.inl List.nil_infix
          | cons c rest =>
            rw [hgap, List.cons_append, List.cons.injEq] at hys
            exact absurd (hys.1 ▸ List.mem_cons_self) h
        | cons c rest =>
          rw [hgap, List.cons_append, List.cons_append, List.cons.injEq] at hys
          exact Or.inr ⟨rest, after, hys.2.symm⟩
  · rintro (⟨before, after, rfl⟩ | ⟨before, after, rfl⟩)
    · exact ⟨before, after ++ mark :: ys, by simp⟩
    · exact ⟨xs ++ mark :: before, after, by simp⟩

theorem holdsAny_or {text : String} {words : List String} {left right : String}
    (h : ∀ word ∈ words, holds text word = (holds left word || holds right word)) :
    holdsAny text words = (holdsAny left words || holdsAny right words) := by
  rw [Bool.eq_iff_iff, Bool.or_eq_true]
  simp only [holdsAny, List.any_eq_true]
  constructor
  · rintro ⟨word, hmem, hword⟩
    rw [h word hmem, Bool.or_eq_true] at hword
    rcases hword with hword | hword
    · exact Or.inl ⟨word, hmem, hword⟩
    · exact Or.inr ⟨word, hmem, hword⟩
  · rintro (⟨word, hmem, hword⟩ | ⟨word, hmem, hword⟩)
    · exact ⟨word, hmem, by rw [h word hmem, hword, Bool.true_or]⟩
    · exact ⟨word, hmem, by rw [h word hmem, hword, Bool.or_true]⟩

end Text

/-! ## Indicator words -/

def indicatorWords : List String :=
  Violation.indicators.flatMap (·.2) ++ Pattern.indicators.flatMap (·.2)

theorem indicatorWords_spelling :
    ∀ word ∈ indicatorWords, ':' ∉ word.toList ∧ ' ' ∉ word.toList ∧ '\x27' ∉ word.toList ∧
      '_' ∈ word.toList := by
  decide

theorem not_infix_nil {word : String} (h : word ∈ indicatorWords) : ¬ word.toList <:+: [] := by
  obtain ⟨_, _, _, hscore⟩ := indicatorWords_spelling word h
  intro hwithin
  rw [List.infix_nil.mp hwithin] at hscore
  exact List.not_mem_nil hscore

def givenMarks : List Mark :=
  [.violation .businessConditionals, .violation .isinstanceUsage, .violation .enumValueAccess,
   .violation .manualJsonSerialization, .pattern .computedFields, .pattern .pydanticSerialization,
   .pattern .boundaryConditions, .pattern .typeCheckingImports]

theorem lowerFrom_label :
    ∀ mark ∈ givenMarks, Text.lowerFrom false (mark.label.toList ++ [':', ' ']) =
      mark.label.toList ++ [':', ' '] := by
  decide

theorem holds_lowered_ofMark {word : String} (h : word ∈ indicatorWords) {mark : Mark}
    (hm : mark ∈ givenMarks) (file : String) (line : Int) (text : String) :
    Text.holds (Finding.ofMark mark file line text).lowered word =
      (Text.holds mark.label word || Text.holds (Text.lower text) word) := by
  obtain ⟨hcolon, hblank, _, _⟩ := indicatorWords_spelling word h
  have hlowered : (Finding.ofMark mark file line text).lowered.toList =
      mark.label.toList ++ ':' :: ([] ++ ' ' :: (Text.lower text).toList) := by
    rw [Finding.lowered, Finding.ofMark, Text.lower, Text.lower, String.toList_ofList,
      String.toList_ofList, String.toList_append, String.toList_append]
    have hcut := Text.lowerFrom_append_space false (mark.label.toList ++ [':']) text.toList
    have hlabel := lowerFrom_label mark hm
    simp only [List.append_assoc, List.cons_append, List.nil_append] at hcut hlabel ⊢
    exact (hcut.trans (by rw [hlabel])).trans (by simp)
  have hempty := not_infix_nil h
  rw [Bool.eq_iff_iff, Bool.or_eq_true, Text.holds_iff, Text.holds_iff, Text.holds_iff, hlowered,
    Text.infix_append_cons hcolon, Text.infix_append_cons hblank]
  simp only [hempty, false_or]

/-! ## Marked findings -/

/-- The first entry of an ordered list of rules that is the given one, or one of whose words the text
holds in lower case. -/
def firstSaid {α : Type} (rules : List (α × List String)) (own : α → Bool) (text : String) :
    Option α :=
  (rules.find? fun rule => own rule.1 || Text.holdsAny (Text.lower text) rule.2).map (·.1)

theorem firstHeld_eq_firstSaid {α : Type} {rules : List (α × List String)} {own : α → Bool}
    {lowered text : String}
    (h : ∀ rule ∈ rules, Text.holdsAny lowered rule.2 =
      (own rule.1 || Text.holdsAny (Text.lower text) rule.2)) :
    Text.firstHeld rules lowered = firstSaid rules own text :=
  congrArg _ (List.find?_congr h)

theorem mem_indicatorWords_violation {rule : Violation × List String}
    (hrule : rule ∈ Violation.indicators) {word : String} (hword : word ∈ rule.2) :
    word ∈ indicatorWords :=
  List.mem_append_left _ (List.mem_flatMap.mpr ⟨rule, hrule, hword⟩)

theorem mem_indicatorWords_pattern {rule : Pattern × List String}
    (hrule : rule ∈ Pattern.indicators) {word : String} (hword : word ∈ rule.2) :
    word ∈ indicatorWords :=
  List.mem_append_right _ (List.mem_flatMap.mpr ⟨rule, hrule, hword⟩)

theorem holdsAny_violation_label :
    ∀ rule ∈ Violation.indicators, ∀ mark ∈ givenMarks,
      Text.holdsAny mark.label rule.2 = (mark == .violation rule.1) := by
  decide

theorem holdsAny_pattern_label :
    ∀ rule ∈ Pattern.indicators, ∀ mark ∈ givenMarks,
      Text.holdsAny mark.label rule.2 = (mark == .pattern rule.1) := by
  decide

/-- **The violation that a marked finding is read as**: the first that is its mark or is named in its
text. -/
theorem Finding.violation?_ofMark {mark : Mark} (hm : mark ∈ givenMarks) (file : String)
    (line : Int) (text : String) :
    (Finding.ofMark mark file line text).violation? =
      firstSaid Violation.indicators (fun v => mark == .violation v) text := by
  refine firstHeld_eq_firstSaid ?_
  intro rule hrule
  rw [Text.holdsAny_or fun word hword =>
      holds_lowered_ofMark (mem_indicatorWords_violation hrule hword) hm file line text,
    holdsAny_violation_label rule hrule mark hm]

theorem Finding.pattern?_ofMark {mark : Mark} (hm : mark ∈ givenMarks) (file : String)
    (line : Int) (text : String) :
    (Finding.ofMark mark file line text).pattern? =
      firstSaid Pattern.indicators (fun p => mark == .pattern p) text := by
  refine firstHeld_eq_firstSaid ?_
  intro rule hrule
  rw [Text.holdsAny_or fun word hword =>
      holds_lowered_ofMark (mem_indicatorWords_pattern hrule hword) hm file line text,
    holdsAny_pattern_label rule hrule mark hm]

/-! ## Repeated literals -/

/-- The finding of a text that stands so many times in a file, first on the given line. -/
def literalFinding (file : String) (line : Int) (text : String) (times : Nat) : Finding :=
  ⟨file, line, "string_literal_repetition: '" ++ text ++ "' appears " ++ toString times ++ " times"⟩

theorem Rule.Literals.finding?_eq (file : String) (text : Text.Letters) (lines : List Int) :
    Rule.Literals.finding? file text lines =
      if 2 ≤ lines.length then
        some (literalFinding file (lines.headD 0) text.toString lines.length)
      else none := by
  match lines with
  | [] => rfl
  | [_] => rfl
  | first :: second :: more =>
    have htimes : 2 + more.length = (first :: second :: more).length := by
      simp only [List.length_cons]
      omega
    have hlong : 2 ≤ (first :: second :: more).length := by simp
    simp only [Rule.Literals.finding?, if_pos hlong, literalFinding, htimes, List.headD_cons]

/-- What stands before the text in the finding of a repeated literal, up to the blank. -/
def literalHead : List Char :=
  "string_literal_repetition:".toList

/-- What follows the text in the finding of a repeated literal, after the quote and the blank. -/
def literalTail (digits : String) : List Char :=
  "appears ".toList ++ digits.toList ++ " times".toList

theorem literalTail_spelling (times : Nat) :
    ∀ c ∈ literalTail (toString times), c.toNat < 128 ∧ c.toLower ≠ '_' := by
  have hdigits : ∀ c ∈ (toString times).toList, c.toNat < 128 ∧ c.toLower ≠ '_' := by
    intro c h
    rw [Nat.toString_eq_ofList_toDigits, String.toList_ofList] at h
    have hdigit := Nat.isDigit_of_mem_toDigits (by decide) (by decide) h
    obtain ⟨_, hnine⟩ := Char.isDigit_iff_toNat.mp hdigit
    have hlower : c.toLower = c :=
      dif_neg fun hupper => absurd (hupper.1.trans hnine) (by decide)
    refine ⟨hnine.trans_lt (by decide), ?_⟩
    rw [hlower]
    rintro rfl
    exact absurd hnine (by decide)
  have hwords : ∀ word ∈ ["appears ", " times"],
      (word.toList.all fun c => c.toNat < 128 ∧ c.toLower ≠ '_') = true := by decide
  intro c h
  rcases List.mem_append.mp h with h | h
  · rcases List.mem_append.mp h with h | h
    · exact of_decide_eq_true (List.all_eq_true.mp (hwords "appears " (by simp)) c h)
    · exact hdigits c h
  · exact of_decide_eq_true (List.all_eq_true.mp (hwords " times" (by simp)) c h)

theorem toList_literal (text digits : String) :
    ("string_literal_repetition: '" ++ text ++ "' appears " ++ digits ++ " times").toList =
      literalHead ++ ' ' :: '\x27' :: ((text.toList ++ ['\x27']) ++ ' ' :: literalTail digits) := by
  have hopen : "string_literal_repetition: '".toList = literalHead ++ [' ', '\x27'] := by decide
  have hclose : "' appears ".toList = ['\x27', ' '] ++ "appears ".toList := by decide
  generalize "string_literal_repetition: '" = opening at hopen ⊢
  have htail : literalTail digits = "appears ".toList ++ digits.toList ++ " times".toList := rfl
  simp only [htail, String.toList_append, hopen, hclose, List.append_assoc, List.cons_append,
    List.nil_append]

theorem lowered_literal (file : String) (line : Int) (text : String) (times : Nat) :
    (literalFinding file line text times).lowered.toList =
      literalHead ++ ' ' :: ([] ++ '\x27' :: ((Text.lower text).toList ++
        '\x27' :: ([] ++ ' ' :: (literalTail (toString times)).map Char.toLower))) := by
  have hhead : Text.lowerFrom false (literalHead ++ [' ']) = literalHead ++ [' '] := by decide
  have hquote : ∀ rest, Text.lowerFrom false ('\x27' :: rest) =
      '\x27' :: Text.lowerFrom false rest := fun rest => rfl
  have htail := Text.lowerFrom_ascii false fun c hc => (literalTail_spelling times c hc).1
  have hquoted : text.toList ++ ['\x27'] ++ [' '] = text.toList ++ ['\x27', ' '] :=
    List.append_assoc _ _ _
  rw [Finding.lowered, literalFinding, Text.lower, String.toList_ofList, toList_literal,
    Text.lowerFrom_append_space, hhead, hquote, Text.lowerFrom_append_space, htail, hquoted,
    Text.lowerFrom_append_quote, Text.lower, String.toList_ofList]
  simp only [List.append_assoc, List.cons_append, List.nil_append]

theorem literalHead_holds_no_word :
    ∀ word ∈ indicatorWords, ¬ word.toList <:+: literalHead := by
  decide

theorem holds_lowered_literal {word : String} (h : word ∈ indicatorWords) (file : String)
    (line : Int) (text : String) (times : Nat) :
    Text.holds (literalFinding file line text times).lowered word =
      Text.holds (Text.lower text) word := by
  obtain ⟨_, hblank, hquote, hscore⟩ := indicatorWords_spelling word h
  have hempty := not_infix_nil h
  have htail : ¬ word.toList <:+: (literalTail (toString times)).map Char.toLower := by
    intro hwithin
    obtain ⟨c, hc, hlower⟩ := List.mem_map.mp (hwithin.subset hscore)
    exact (literalTail_spelling times c hc).2 hlower
  rw [Bool.eq_iff_iff, Text.holds_iff, Text.holds_iff, lowered_literal,
    Text.infix_append_cons hblank, Text.infix_append_cons hquote, Text.infix_append_cons hquote,
    Text.infix_append_cons hblank]
  simp only [hempty, htail, literalHead_holds_no_word word h, false_or, or_false]

theorem holdsAny_literal {words : List String} (h : ∀ word ∈ words, word ∈ indicatorWords)
    (file : String) (line : Int) (text : String) (times : Nat) :
    Text.holdsAny (literalFinding file line text times).lowered words =
      (false || Text.holdsAny (Text.lower text) words) := by
  rw [Bool.false_or, Bool.eq_iff_iff, Text.holdsAny, Text.holdsAny, List.any_eq_true,
    List.any_eq_true]
  refine exists_congr fun word => and_congr_right fun hword => ?_
  rw [holds_lowered_literal (h word hword)]

/-- **The violation that a repeated literal is read as**: the first that is named in it. -/
theorem Finding.violation?_literal (file : String) (line : Int) (text : String) (times : Nat) :
    (literalFinding file line text times).violation? =
      firstSaid Violation.indicators (fun _ => false) text :=
  firstHeld_eq_firstSaid fun _ hrule =>
    holdsAny_literal (fun _ hword => mem_indicatorWords_violation hrule hword) file line text times

theorem Finding.pattern?_literal (file : String) (line : Int) (text : String) (times : Nat) :
    (literalFinding file line text times).pattern? =
      firstSaid Pattern.indicators (fun _ => false) text :=
  firstHeld_eq_firstSaid fun _ hrule =>
    holdsAny_literal (fun _ hword => mem_indicatorWords_pattern hrule hword) file line text times

end ArchLint
