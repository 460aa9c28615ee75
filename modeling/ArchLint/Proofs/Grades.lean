import ArchLint.Proofs.Partition
import ArchLint.Report.Text
import Mathlib.Tactic.TFAE

/-!
# Grades and celebrations

A report is graded by the number of its violations, celebrated by the numbers of violations and
patterns, and printed in one of two layouts.  Here the three are compared with each other and with
the findings from which the report was built.

* `Grade.rank`, `Celebration.rank`: the order of the grades and of the levels.
* `Report.rank_grade_le`: **more findings never make a grade better**.
* `Celebration.rank_mono`, `Celebration.rank_anti`: patterns raise a level, violations lower it.
* `Report.tfae_clean`: **grade, level and layout agree** on whether a report is free of violations.
* `Binary64.isSome_ofRatio`, `Report.exists_lines`: every report that is not beyond all bounds is
  printed.
-/

namespace ArchLint

open ArchLint.Number (Binary64)

/-! ## Numbers that are not too large -/

namespace Number.Binary64

theorem exponentOf_le (a b : Nat) : exponentOf a b ≤ max ((a.log2 : Int) - 53) (-1074) + 1 := by
  have hle : max ((a.log2 : Int) - b.log2 - 53) (-1074) ≤ max ((a.log2 : Int) - 53) (-1074) := by
    omega
  unfold exponentOf
  dsimp only
  split <;> omega

theorem isSome_ofRatio (negative : Bool) {a : Nat} (b : Nat) {k : Nat} (hk : k ≤ 1023)
    (h : a < Nat.pow 2 k) : (ofRatio negative a b).isSome = true := by
  have hexponent := exponentOf_le a b
  unfold ofRatio
  dsimp only
  by_cases hzero : a = 0
  · rw [if_pos hzero]
    rfl
  · have hlog : a.log2 < k := (Nat.log2_lt hzero).mpr h
    rw [if_neg hzero]
    -- the exponent is one larger for a mantissa that is rounded up to the next power of two
    split
    · rw [if_neg (by dsimp only; omega)]
      rfl
    · rw [if_neg (by dsimp only; omega)]
      rfl

end Number.Binary64

theorem Groups.length_get_le {κ α : Type} [DecidableEq κ] (groups : Groups κ α) (key : κ) :
    (groups.get key).length ≤ groups.total := by
  induction groups with
  | nil => exact Nat.le_refl 0
  | cons head rest ih =>
    have htotal : Groups.total (head :: rest) = head.2.length + Groups.total rest := rfl
    rw [Groups.get, List.lookup_cons, htotal]
    cases key == head.1 with
    | true => exact Nat.le_add_right _ _
    | false => exact Nat.le_trans ih (Nat.le_add_left _ _)

theorem Verdict.ofFinding_eq_violation {f : Finding} :
    Verdict.ofFinding f = .violation ↔ f.violation? ≠ none := by
  rw [Verdict.ofFinding]
  cases f.violation? with
  | some v => simp
  | none => cases f.pattern? <;> simp

namespace Report

/-! ## The two scales -/

/-- The place of a grade, the best first. -/
def Grade.rank : Grade → Nat
  | .excellent => 0
  | .good => 1
  | .needsImprovement => 2
  | .poor => 3

/-- The place of a level, the loudest last. -/
def Celebration.rank : Celebration → Nat
  | .problematic => 0
  | .mixed => 1
  | .clean => 2
  | .exceptional => 3

theorem Grade.rank_ofCount (count : Nat) :
    (Grade.ofCount count).rank =
      (if 0 < count then 1 else 0) + (if 5 < count then 1 else 0) +
        if 15 < count then 1 else 0 := by
  rw [Grade.ofCount_eq]
  split_ifs <;> simp only [Grade.rank] <;> omega

theorem Grade.rank_mono {m n : Nat} (h : m ≤ n) :
    (Grade.ofCount m).rank ≤ (Grade.ofCount n).rank := by
  rw [Grade.rank_ofCount, Grade.rank_ofCount]
  split_ifs <;> omega

theorem Grade.ofCount_eq_excellent (count : Nat) :
    Grade.ofCount count = .excellent ↔ count = 0 := by
  rw [Grade.ofCount_eq]
  split_ifs <;> simp <;> omega

theorem Celebration.rank_ofCounts (violations patterns : Nat) :
    (Celebration.ofCounts violations patterns).rank =
      if violations = 0 then if 10 < patterns then 3 else 2
      else if violations < patterns then 1 else 0 := by
  rw [Celebration.ofCounts_eq]
  split_ifs <;> simp only [Celebration.rank] <;> omega

theorem Celebration.rank_mono (violations : Nat) {p q : Nat} (h : p ≤ q) :
    (Celebration.ofCounts violations p).rank ≤ (Celebration.ofCounts violations q).rank := by
  rw [Celebration.rank_ofCounts, Celebration.rank_ofCounts]
  split_ifs <;> omega

theorem Celebration.rank_anti (patterns : Nat) {m n : Nat} (h : m ≤ n) :
    (Celebration.ofCounts n patterns).rank ≤ (Celebration.ofCounts m patterns).rank := by
  rw [Celebration.rank_ofCounts, Celebration.rank_ofCounts]
  split_ifs <;> omega

theorem Celebration.ofCounts_quiet (violations patterns : Nat) :
    (Celebration.ofCounts violations patterns = .clean ∨
      Celebration.ofCounts violations patterns = .exceptional) ↔ violations = 0 := by
  rw [Celebration.ofCounts_eq]
  split_ifs <;> simp <;> omega

/-! ## Violations of a report -/

/-- **More findings never make a grade better.** -/
theorem rank_grade_le {few many : List Finding} (h : few.Sublist many) :
    (byVerdict few).grade.rank ≤ (byVerdict many).grade.rank := by
  refine Grade.rank_mono ?_
  rw [totalViolations_byVerdict, totalViolations_byVerdict]
  exact (h.filterMap _).length_le

theorem totalViolations_eq_zero (r : Report) :
    r.totalViolations = 0 ↔ r.violations.values = [] := by
  rw [totalViolations, Groups.total_eq_length, List.length_eq_zero_iff]

theorem violations_byVerdict_eq_nil (findings : List Finding) :
    (byVerdict findings).violations.values = [] ↔
      ∀ f ∈ findings, Verdict.ofFinding f ≠ .violation := by
  rw [← totalViolations_eq_zero, totalViolations_byVerdict, List.length_eq_zero_iff,
    List.filterMap_eq_nil_iff]
  refine forall₂_congr fun f _ => ?_
  rw [Finding.underViolation?, Option.map_eq_none_iff, ne_eq, Verdict.ofFinding_eq_violation,
    not_not]

/-! ## The two layouts -/

theorem bodyLines_of_clean {r : Report} (h : r.totalViolations = 0) :
    r.bodyLines = r.metrics.summary.map r.celebrationLines := by
  rw [bodyLines, if_pos h]

theorem bodyLines_of_violations {r : Report} (h : r.totalViolations ≠ 0) :
    r.bodyLines = .ok r.tableLines := by
  rw [bodyLines, if_neg h]

/-- No celebration is a table: they differ in the first line. -/
theorem celebrationLines_ne_tableLines (r : Report) (summary : String) :
    r.celebrationLines summary ≠ r.tableLines := by
  have hassessment : ∀ grade : Grade, grade.assessment ≠ "🔍 SDA VIOLATIONS DETECTED:" := by
    intro grade
    cases grade <;> decide
  intro h
  exact hassessment r.grade (List.cons.inj h).1

theorem map_celebrationLines_ne (r : Report) :
    r.metrics.summary.map r.celebrationLines ≠ .ok r.tableLines := by
  cases r.metrics.summary with
  | error e => exact nofun
  | ok summary => exact fun h => r.celebrationLines_ne_tableLines summary (Except.ok.inj h)

/-- **Grade, level and layout agree** on whether a report is free of violations. -/
theorem tfae_clean (r : Report) :
    [r.violations.values = [],
      r.grade = .excellent,
      r.celebration = .clean ∨ r.celebration = .exceptional,
      r.bodyLines = r.metrics.summary.map r.celebrationLines,
      r.bodyLines ≠ .ok r.tableLines].TFAE := by
  tfae_have 1 ↔ 2 := by
    rw [← totalViolations_eq_zero, grade, Grade.ofCount_eq_excellent]
  tfae_have 1 ↔ 3 := by
    rw [← totalViolations_eq_zero, celebration, Celebration.ofCounts_quiet]
  tfae_have 1 → 4 := fun h => bodyLines_of_clean (r.totalViolations_eq_zero.mpr h)
  tfae_have 4 → 5 := fun h => h ▸ r.map_celebrationLines_ne
  tfae_have 5 → 1 := by
    intro h
    by_contra hsome
    exact h (bodyLines_of_violations (mt r.totalViolations_eq_zero.mp hsome))
  tfae_finish

/-! ## Every report is printed -/

theorem exists_summary {m : Metrics} {k : Nat} (hk : k ≤ 1023) (h : m.points.natAbs < Nat.pow 2 k) :
    ∃ summary, m.summary = .ok summary := by
  have hshare : (Binary64.ofQuotient m.points m.mostPoints).isSome = true :=
    Binary64.isSome_ofRatio _ _ hk h
  obtain ⟨share, hshare⟩ := Option.isSome_iff_exists.mp hshare
  rw [Metrics.summary, Metrics.richness, hshare]
  exact ⟨_, rfl⟩

/-- **A report is printed**, unless its patterns are too many for a number to tell their share. -/
theorem exists_lines (r : Report) {k : Nat} (hk : k ≤ 1022) (h : r.totalPatterns < Nat.pow 2 k) :
    ∃ lines, r.bodyLines = .ok lines := by
  by_cases hclean : r.totalViolations = 0
  · have hfields : (r.patterns.get .computedFields).length ≤ r.totalPatterns :=
      r.patterns.length_get_le .computedFields
    have hpoints : r.metrics.points.natAbs = (r.patterns.get .computedFields).length * 2 := by
      simp only [Metrics.points, metrics]
      omega
    have hbound : r.metrics.points.natAbs < Nat.pow 2 (k + 1) := by
      rw [hpoints, Nat.pow_eq, Nat.pow_succ]
      exact Nat.mul_lt_mul_of_pos_right (Nat.lt_of_le_of_lt hfields h) (by decide)
    obtain ⟨summary, hsummary⟩ := exists_summary (Nat.succ_le_succ hk) hbound
    rw [bodyLines_of_clean hclean, hsummary]
    exact ⟨_, rfl⟩
  · exact ⟨_, bodyLines_of_violations hclean⟩

end Report

/-- **Grades and celebrations follow the findings.**  A report of some of the findings has no worse
grade than a report of all.  More patterns never lower the level of celebration, and more violations
never raise it.  A report has no violation if and only if its grade is the best, if and only if it
is celebrated as clean or exceptional, and if and only if what is printed is the celebration and not
the table; and it has none exactly when none of the findings is taken for a violation.  Every report
is printed, up to sizes beyond all bounds. -/
theorem grades_follow_findings :
    (∀ few many : List Finding, few.Sublist many →
      (Report.byVerdict few).grade.rank ≤ (Report.byVerdict many).grade.rank) ∧
    (∀ violations p q : Nat, p ≤ q →
      (Report.Celebration.ofCounts violations p).rank ≤
        (Report.Celebration.ofCounts violations q).rank) ∧
    (∀ patterns m n : Nat, m ≤ n →
      (Report.Celebration.ofCounts n patterns).rank ≤
        (Report.Celebration.ofCounts m patterns).rank) ∧
    (∀ r : Report,
      [r.violations.values = [],
        r.grade = .excellent,
        r.celebration = .clean ∨ r.celebration = .exceptional,
        r.bodyLines = r.metrics.summary.map r.celebrationLines,
        r.bodyLines ≠ .ok r.tableLines].TFAE ∧
      (∀ k ≤ 1022, r.totalPatterns < Nat.pow 2 k → ∃ lines, r.bodyLines = .ok lines ∧
        r.text = .ok (Report.unlines (r.celebration.header :: Report.rule :: lines)))) ∧
    ∀ (findings : List Finding) (moduleType : ModuleType),
      ((Report.byVerdict findings).violations.values = [] ↔
        ∀ f ∈ findings, Verdict.ofFinding f ≠ .violation) ∧
      ((Report.ofFindings findings moduleType).violations.values = [] ↔
        ∀ f ∈ findings, Verdict.ofFinding f ≠ .violation) := by
  refine ⟨fun few many => Report.rank_grade_le, Report.Celebration.rank_mono,
    Report.Celebration.rank_anti, ?_, ?_⟩
  · intro r
    refine ⟨r.tfae_clean, fun k hk hsize => ?_⟩
    obtain ⟨lines, hlines⟩ := r.exists_lines hk hsize
    refine ⟨lines, hlines, ?_⟩
    rw [Report.text, hlines]
    rfl
  · intro findings moduleType
    have hsame : (Report.ofFindings findings moduleType).violations =
        (Report.byVerdict findings).violations := by
      rw [Report.ofFindings_eq_gather, Report.byVerdict_eq_gather]
    rw [hsame]
    exact ⟨Report.violations_byVerdict_eq_nil findings, Report.violations_byVerdict_eq_nil findings⟩

/-- A call that asks for a type, and two computed fields. -/
def gradedFindings : List Finding :=
  [⟨"m.py", 1, "computed_fields: total"⟩, ⟨"m.py", 2, "isinstance_usage: type"⟩,
   ⟨"m.py", 3, "computed_fields: count"⟩]

theorem grades_follow_findings_computed :
    ([⟨"m.py", 1, "computed_fields: total"⟩, ⟨"m.py", 3, "computed_fields: count"⟩] : List
        Finding).Sublist gradedFindings ∧
    (Report.byVerdict [⟨"m.py", 1, "computed_fields: total"⟩,
        ⟨"m.py", 3, "computed_fields: count"⟩]).grade.rank ≤
      (Report.byVerdict gradedFindings).grade.rank ∧
    (Report.Celebration.ofCounts 0 10).rank ≤ (Report.Celebration.ofCounts 0 11).rank ∧
    (Report.Celebration.ofCounts 1 2).rank ≤ (Report.Celebration.ofCounts 0 2).rank ∧
    (Report.byVerdict gradedFindings).totalPatterns < Nat.pow 2 2 ∧
    (Report.byVerdict gradedFindings).grade ≠ .excellent ∧
    (Report.byVerdict gradedFindings).bodyLines =
      .ok (Report.byVerdict gradedFindings).tableLines ∧
    ∃ text, (Report.byVerdict gradedFindings).text = .ok text := by
  have hpart : ([⟨"m.py", 1, "computed_fields: total"⟩, ⟨"m.py", 3, "computed_fields: count"⟩] :
      List Finding).Sublist gradedFindings := by decide
  have hsize : (Report.byVerdict gradedFindings).totalPatterns < Nat.pow 2 2 := by decide
  have hfound : ¬∀ f ∈ gradedFindings, Verdict.ofFinding f ≠ .violation := by decide
  obtain ⟨hgrade, hpatterns, hviolations, hreport, hfindings⟩ := grades_follow_findings
  obtain ⟨htfae, hprinted⟩ := hreport (.byVerdict gradedFindings)
  have hsome := mt (hfindings gradedFindings .mixed).1.mp hfound
  obtain ⟨lines, _, htext⟩ := hprinted 2 (by decide) hsize
  refine ⟨hpart, hgrade _ _ hpart, hpatterns 0 10 11 (by decide), hviolations 2 0 1 (by decide),
    hsize, mt (htfae.out 1 0).mp hsome, ?_, ⟨_, htext⟩⟩
  by_contra htable
  exact hsome ((htfae.out 4 0).mp htable)

end ArchLint
