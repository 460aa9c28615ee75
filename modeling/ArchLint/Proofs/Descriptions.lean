import ArchLint.Proofs.Counting

/-!
# What descriptions say

Every rule writes its findings in the same way: a label, a colon, a blank, and text of the program.
Reading a description looks for words in all of it.  Here the reading is told from the label and the
text apart, for every rule and for every text.

* `Violation.readable`, `Pattern.readable`: what a description can be read as, in order.
* `Finding.Decodes`: **how a finding is read**, told from what it was marked as and from its text.
* `Finding.Ignored`: a finding that changes no report.
* `Creator`: whatever writes findings with a label.
* `description_decodes`: the findings of all rules are read so, and which of them are ignored when
  no indicator word stands in their text.
-/

namespace ArchLint

/-! ## What can be read -/

/-- The violations that a description can be read as, in the order in which they are tried. -/
def Violation.readable : List Violation :=
  [.isinstanceUsage, .manualJsonSerialization, .enumValueAccess, .businessConditionals]

/-- The words of a violation: its label, and one more for taking the value out of an enumeration. -/
def Violation.words : Violation → List String
  | .enumValueAccess => ["enum_value_unwrapping", "enum_value_access"]
  | v => [v.label]

def Pattern.readable : List Pattern :=
  [.computedFields, .pydanticSerialization]

def Pattern.words (p : Pattern) : List String :=
  [p.label]

theorem Violation.indicators_eq :
    Violation.indicators = Violation.readable.map fun v => (v, v.words) :=
  rfl

theorem Pattern.indicators_eq :
    Pattern.indicators = Pattern.readable.map fun p => (p, p.words) :=
  rfl

/-- Whether a text holds no word that a description is read by. -/
def IsPlain (text : String) : Prop :=
  ∀ word ∈ indicatorWords, ¬ word.toList <:+: (Text.lower text).toList

instance (text : String) : Decidable (IsPlain text) :=
  inferInstanceAs (Decidable (∀ word ∈ indicatorWords, ¬ word.toList <:+: (Text.lower text).toList))

/-- How a finding is read that was marked as `own`, if at all, and shows the text.  The violation is
the first that is the own one or has a word in the lower-cased text, and so is the pattern.  A word
is found in the label or in the text, never across both.  When the text is plain, the finding is
read as what it was marked as, if that can be read. -/
structure Finding.Decodes (f : Finding) (own : Option Mark) (text : String) : Prop where
  violation : f.violation? = Violation.readable.find? fun v =>
    own == some (.violation v) || Text.holdsAny (Text.lower text) v.words
  pattern : f.pattern? = Pattern.readable.find? fun p =>
    own == some (.pattern p) || Text.holdsAny (Text.lower text) p.words
  apart : ∀ word ∈ indicatorWords, word.toList <:+: f.lowered.toList ↔
    (∃ mark, own = some mark ∧ word.toList <:+: mark.label.toList) ∨
      word.toList <:+: (Text.lower text).toList
  plainViolation : IsPlain text → ∀ v, f.violation? = some v ↔
    v ∈ Violation.readable ∧ own = some (.violation v)
  plainPattern : IsPlain text → ∀ p, f.pattern? = some p ↔
    p ∈ Pattern.readable ∧ own = some (.pattern p)

/-! ## First of several -/

theorem firstSaid_eq_find? {α : Type} (order : List α) (words : α → List String) (own : α → Bool)
    (text : String) :
    firstSaid (order.map fun a => (a, words a)) own text =
      order.find? fun a => own a || Text.holdsAny (Text.lower text) (words a) := by
  rw [firstSaid, List.find?_map, Option.map_map]
  exact Option.map_id'

theorem find?_eq_some_of_unique {α : Type} {order : List α} {chosen : α → Bool}
    (hunique : ∀ a b, chosen a = true → chosen b = true → a = b) (a : α) :
    order.find? chosen = some a ↔ a ∈ order ∧ chosen a = true := by
  constructor
  · intro h
    exact ⟨List.mem_of_find?_eq_some h, List.find?_some h⟩
  · rintro ⟨hmem, hchosen⟩
    cases hfind : order.find? chosen with
    | none => exact absurd hchosen (List.find?_eq_none.mp hfind a hmem)
    | some b => rw [hunique b a (List.find?_some hfind) hchosen]

theorem IsPlain.holdsAny {text : String} (h : IsPlain text) {words : List String}
    (hwords : ∀ word ∈ words, word ∈ indicatorWords) :
    Text.holdsAny (Text.lower text) words = false := by
  rw [Bool.eq_false_iff, ne_eq, Text.holdsAny_iff]
  rintro ⟨word, hword, hheld⟩
  exact h word (hwords word hword) hheld

/-- In a plain text nothing is said but what the finding was marked as. -/
theorem find?_plain {α : Type} {order : List α} {words : α → List String} {own : α → Bool}
    {text : String} (h : IsPlain text)
    (hwords : ∀ a ∈ order, ∀ word ∈ words a, word ∈ indicatorWords)
    (hunique : ∀ a b, own a = true → own b = true → a = b) (a : α) :
    (order.find? fun a => own a || Text.holdsAny (Text.lower text) (words a)) = some a ↔
      a ∈ order ∧ own a = true := by
  have hsilent : ∀ a ∈ order,
      (own a || Text.holdsAny (Text.lower text) (words a)) = own a := by
    intro a ha
    rw [h.holdsAny (hwords a ha), Bool.or_false]
  rw [List.find?_congr hsilent]
  exact find?_eq_some_of_unique hunique a

theorem Violation.words_indicate :
    ∀ v ∈ Violation.readable, ∀ word ∈ v.words, word ∈ indicatorWords := by
  decide

theorem Pattern.words_indicate :
    ∀ p ∈ Pattern.readable, ∀ word ∈ p.words, word ∈ indicatorWords := by
  decide

theorem Finding.decodes_of_apart {f : Finding} {own : Option Mark} {text : String}
    (hviolation : f.violation? =
      firstSaid Violation.indicators (fun v => own == some (.violation v)) text)
    (hpattern : f.pattern? = firstSaid Pattern.indicators (fun p => own == some (.pattern p)) text)
    (hapart : ∀ word ∈ indicatorWords, word.toList <:+: f.lowered.toList ↔
      (∃ mark, own = some mark ∧ word.toList <:+: mark.label.toList) ∨
        word.toList <:+: (Text.lower text).toList) :
    f.Decodes own text := by
  rw [Violation.indicators_eq, firstSaid_eq_find?] at hviolation
  rw [Pattern.indicators_eq, firstSaid_eq_find?] at hpattern
  refine ⟨hviolation, hpattern, hapart, ?_, ?_⟩
  · intro hplain v
    rw [hviolation, find?_plain hplain Violation.words_indicate, beq_iff_eq]
    intro a b ha hb
    simpa using (eq_of_beq ha).symm.trans (eq_of_beq hb)
  · intro hplain p
    rw [hpattern, find?_plain hplain Pattern.words_indicate, beq_iff_eq]
    intro a b ha hb
    simpa using (eq_of_beq ha).symm.trans (eq_of_beq hb)

/-! ## Ignored findings -/

/-- Whether a finding changes no report that it is added to. -/
def Finding.Ignored (f : Finding) : Prop :=
  ∀ r : Report, r.add f = r

def readableMarks : List Mark :=
  Violation.readable.map .violation ++ Pattern.readable.map .pattern

theorem Finding.ignored_iff {f : Finding} : f.Ignored ↔ f.group? = none := by
  constructor
  · intro h
    rw [Option.eq_none_iff_forall_ne_some]
    intro mark hmark
    -- the group of the mark would have become longer
    have hgroup := Report.group_add (.byVerdict []) f mark
    rw [h, if_pos hmark, List.self_eq_append_right] at hgroup
    exact List.cons_ne_nil _ _ hgroup
  · intro h
    exact Report.add_unknown (Verdict.ofFinding_eq_unknown.mpr h)

theorem Finding.group?_eq_none {f : Finding} :
    f.group? = none ↔ f.violation? = none ∧ f.pattern? = none := by
  rw [Finding.group?]
  cases f.violation? <;> simp

theorem Finding.Decodes.ignored_iff {f : Finding} {own : Option Mark} {text : String}
    (h : f.Decodes own text) (hplain : IsPlain text) :
    f.Ignored ↔ ∀ mark ∈ readableMarks, own ≠ some mark := by
  rw [Finding.ignored_iff, Finding.group?_eq_none, Option.eq_none_iff_forall_ne_some,
    Option.eq_none_iff_forall_ne_some]
  simp only [ne_eq, h.plainViolation hplain, h.plainPattern hplain, readableMarks,
    List.forall_mem_append, List.forall_mem_map, not_and]

/-! ## Creators -/

/-- What writes findings with a label: a kind of conditional, call or access. -/
inductive Creator where
  | conditional (kind : Rule.ConditionalKind)
  | call (kind : Rule.CallKind)
  | access (kind : Rule.AttributeKind)
  deriving DecidableEq, Repr

namespace Creator

def mark? : Creator → Option Mark
  | .conditional kind => some kind.mark
  | .call kind => some kind.mark
  | .access kind => kind.mark?

def findings (creator : Creator) (file : String) (line : Int) (text : String) : List Finding :=
  creator.mark?.toList.map fun mark => ⟨file, line, mark.label ++ ": " ++ text⟩

/-- The creators whose findings say nothing that can be read: the conditionals that guard what type
checkers read, validate, or stand at a boundary. -/
def unread : List Creator :=
  [.conditional .typeGuard, .conditional .validationCheck, .conditional .boundaryCondition]

theorem mark?_given {creator : Creator} {mark : Mark} (h : creator.mark? = some mark) :
    mark ∈ givenMarks := by
  cases creator with
  | conditional kind => exact Option.some.inj h ▸ kind.mark_given
  | call kind => exact Option.some.inj h ▸ kind.mark_given
  | access kind => exact Rule.AttributeKind.mark?_given h

theorem mem_findings {creator : Creator} {file : String} {line : Int} {text : String} {f : Finding}
    (h : f ∈ creator.findings file line text) :
    ∃ mark, creator.mark? = some mark ∧ f = .ofMark mark file line text := by
  obtain ⟨mark, hmark, hf⟩ := List.mem_map.mp h
  exact ⟨mark, Option.mem_toList.mp hmark, hf.symm⟩

/-- **The findings of the creators are read so.** -/
theorem decodes {creator : Creator} {file : String} {line : Int} {text : String} {f : Finding}
    (h : f ∈ creator.findings file line text) : f.Decodes creator.mark? text := by
  obtain ⟨mark, hmark, rfl⟩ := mem_findings h
  have hgiven := mark?_given hmark
  rw [hmark]
  refine Finding.decodes_of_apart (Finding.violation?_ofMark hgiven file line text)
    (Finding.pattern?_ofMark hgiven file line text) ?_
  intro word hword
  rw [← Text.holds_iff, holds_lowered_ofMark hword hgiven, Bool.or_eq_true, Text.holds_iff,
    Text.holds_iff]
  simp

theorem unread_iff {creator : Creator} {mark : Mark} (h : creator.mark? = some mark) :
    (∀ other ∈ readableMarks, creator.mark? ≠ some other) ↔ creator ∈ unread := by
  rcases creator with kind | kind | kind
  · cases kind <;> decide
  · cases kind <;> decide
  · cases kind with
    | enumUnwrapping | computedFieldCandidate => decide
    | normalAccess => exact absurd h (by simp [mark?, Rule.AttributeKind.mark?])

/-- **Which findings are ignored when their text is plain.** -/
theorem ignored_iff {creator : Creator} {file : String} {line : Int} {text : String} {f : Finding}
    (h : f ∈ creator.findings file line text) (hplain : IsPlain text) :
    f.Ignored ↔ creator ∈ unread := by
  obtain ⟨mark, hmark, _⟩ := mem_findings h
  rw [(decodes h).ignored_iff hplain, unread_iff hmark]

end Creator

/-- **Repeated literals are read by their text alone.** -/
theorem literal_decodes (file : String) (line : Int) (text : String) (times : Nat) :
    (literalFinding file line text times).Decodes none text := by
  refine Finding.decodes_of_apart (Finding.violation?_literal file line text times)
    (Finding.pattern?_literal file line text times) ?_
  intro word hword
  rw [← Text.holds_iff, holds_lowered_literal hword, Text.holds_iff]
  simp

/-! ## All rules -/

/-- **How descriptions are read.**  The rules write a label and a text, as creators do; each finding
of a creator is read by its mark and its text, and with a plain text it is ignored only if nothing
can be read from its mark.  The finding of a repeated literal is read by the literal, and ignored if
that is plain. -/
theorem description_decodes (file : String) :
    (∀ c : Rule.Conditional,
      c.findings file = (Creator.conditional c.kind).findings file c.summary.line c.test) ∧
    (∀ c : Rule.Call,
      c.findings file = (Creator.call c.kind).findings file c.line c.function.shown) ∧
    (∀ (kind : Rule.AttributeKind) line text,
      kind.findings file line text = (Creator.access kind).findings file line text) ∧
    (∀ (creator : Creator) line text, ∀ f ∈ creator.findings file line text,
      f.Decodes creator.mark? text ∧ (IsPlain text → (f.Ignored ↔ creator ∈ Creator.unread))) ∧
    ∀ (letters : Text.Letters) (lines : List Int),
      ((Rule.Literals.finding? file letters lines).isSome ↔ 2 ≤ lines.length) ∧
      ∀ f ∈ Rule.Literals.finding? file letters lines,
        f.Decodes none letters.toString ∧ (IsPlain letters.toString → f.Ignored) := by
  refine ⟨fun c => rfl, fun c => rfl, ?_, ?_, ?_⟩
  · intro kind line text
    cases kind <;> rfl
  · intro creator line text f hf
    exact ⟨Creator.decodes hf, Creator.ignored_iff hf⟩
  · intro letters lines
    rw [Rule.Literals.finding?_eq]
    refine ⟨by simp, ?_⟩
    intro f hf
    obtain ⟨_, hfinding⟩ := Option.ite_none_right_eq_some.mp hf
    obtain rfl := Option.some.inj hfinding
    have hread := literal_decodes file (lines.headD 0) letters.toString lines.length
    refine ⟨hread, fun hplain => (hread.ignored_iff hplain).mpr ?_⟩
    intro mark _
    exact (Option.some_ne_none mark).symm

/-- A call that names another violation is read as that violation and as its own pattern, a guard is
ignored, and so is a literal on two lines. -/
theorem description_decodes_mixed :
    ((Finding.ofMark (.pattern .computedFields) "a.py" 3 "ISINSTANCE_USAGE").violation? =
        some .isinstanceUsage ∧
      (Finding.ofMark (.pattern .computedFields) "a.py" 3 "ISINSTANCE_USAGE").pattern? =
        some .computedFields) ∧
    (IsPlain "TYPE_CHECKING" ∧
      (Finding.ofMark (.pattern .typeCheckingImports) "a.py" 3 "TYPE_CHECKING").Ignored) ∧
    Rule.Literals.finding? "a.py" (.ofString "total") [1, 4] =
        some (literalFinding "a.py" 1 "total" 2) ∧
      IsPlain "total" ∧ (literalFinding "a.py" 1 "total" 2).Ignored := by
  obtain ⟨_, _, _, hcreators, hliterals⟩ := description_decodes "a.py"
  have hcall := hcreators (.call .computedField) 3 "ISINSTANCE_USAGE" _ List.mem_cons_self
  have hguard := hcreators (.conditional .typeGuard) 3 "TYPE_CHECKING" _ List.mem_cons_self
  have hguardPlain : IsPlain "TYPE_CHECKING" := by decide
  have hplain : IsPlain "total" := by decide
  have hfound : Rule.Literals.finding? "a.py" (.ofString "total") [1, 4] =
      some (literalFinding "a.py" 1 "total" 2) := by decide
  refine ⟨⟨hcall.1.violation.trans (by decide), hcall.1.pattern.trans (by decide)⟩,
    ⟨hguardPlain, (hguard.2 hguardPlain).mpr (by decide)⟩, hfound, hplain, ?_⟩
  exact ((hliterals (.ofString "total") [1, 4]).2 _ hfound).2 (by decide)

end ArchLint
