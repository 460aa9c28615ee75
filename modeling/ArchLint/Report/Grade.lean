import ArchLint.Catalogue

/-!
# Grades

How good an architecture is, by the number of violations, and how loudly that is celebrated, by the
numbers of violations and patterns.  Counts are integers, so that every count has a grade.  Both are
places in a list: the place is a sum over tests, of which at most one holds.

* `Grade.ofCount_eq`, `Celebration.ofCounts_eq`: the sums, told as cases.
-/

namespace ArchLint.Report

theorem toNat_decide (p : Prop) [Decidable p] : (decide p).toNat = if p then 1 else 0 := by
  by_cases h : p
  · rw [decide_eq_true h, if_pos h]
    rfl
  · rw [decide_eq_false h, if_neg h]
    rfl

inductive Grade where
  | excellent | good | needsImprovement | poor
  deriving DecidableEq, Repr, Inhabited

namespace Grade

def label : Grade → String
  | .excellent => "excellent"
  | .good => "good"
  | .needsImprovement => "needs_improvement"
  | .poor => "poor"

def catalogue : Catalogue Grade :=
  .ofList "ComplianceGrade" label [.excellent, .good, .needsImprovement, .poor]

def worstFirst : List Grade :=
  [.poor, .needsImprovement, .good, .excellent]

/-- The place of the grade for a number of violations, worst first. -/
def index (violations : Int) : Nat :=
  (decide (violations = 0)).toNat * 3 +
    (decide (0 < violations)).toNat * (decide (violations ≤ 5)).toNat * 2 +
    (decide (5 < violations)).toNat * (decide (violations ≤ 15)).toNat * 1

theorem index_eq (violations : Int) :
    index violations =
      if violations = 0 then 3
      else if 1 ≤ violations ∧ violations ≤ 5 then 2
      else if 6 ≤ violations ∧ violations ≤ 15 then 1
      else 0 := by
  simp only [index, toNat_decide]
  grind

theorem index_lt (violations : Int) : index violations < worstFirst.length := by
  rw [index_eq]
  split
  · decide
  · split
    · decide
    · split <;> decide

def ofCount (violations : Int) : Grade :=
  worstFirst.get ⟨index violations, index_lt violations⟩

theorem ofCount_eq (violations : Int) :
    ofCount violations =
      if violations = 0 then .excellent
      else if 1 ≤ violations ∧ violations ≤ 5 then .good
      else if 6 ≤ violations ∧ violations ≤ 15 then .needsImprovement
      else .poor := by
  simp only [ofCount, index_eq, List.get_eq_getElem]
  by_cases hnone : violations = 0
  · simp only [hnone, if_true]
    rfl
  · by_cases hfew : 1 ≤ violations ∧ violations ≤ 5
    · simp only [hnone, hfew, and_self, if_true, if_false]
      rfl
    · by_cases hsome : 6 ≤ violations ∧ violations ≤ 15
      · simp only [hnone, hfew, hsome, and_self, if_true, if_false]
        rfl
      · simp only [hnone, hfew, hsome, if_false]
        rfl

def emoji : Grade → String
  | .excellent => "✅"
  | .good => "👍"
  | .needsImprovement => "⚠️"
  | .poor => "❌"

def message : Grade → String
  | .excellent => "🎉 PERFECT SDA COMPLIANCE DETECTED!"
  | .good => "✨ Good SDA compliance with minor issues"
  | .needsImprovement => "⚠️ Several SDA violations need attention"
  | .poor => "❌ Significant SDA violations require refactoring"

def letter : Grade → String
  | .excellent => "A+"
  | .good => "B"
  | .needsImprovement => "C"
  | .poor => "D"

def assessment : Grade → String
  | .excellent => "🏆 PERFECT COMPLIANCE - This module demonstrates mastery of SDA principles!"
  | .good => "✨ Strong SDA compliance with minor opportunities for improvement"
  | .needsImprovement => "⚠️ Several SDA violations detected - refactoring recommended"
  | .poor => "❌ Significant architectural issues require immediate attention"

end Grade

inductive Celebration where
  | exceptional | clean | mixed | problematic
  deriving DecidableEq, Repr, Inhabited

namespace Celebration

def label : Celebration → String
  | .exceptional => "exceptional"
  | .clean => "clean"
  | .mixed => "mixed"
  | .problematic => "problematic"

def catalogue : Catalogue Celebration :=
  .ofList "CelebrationLevel" label [.exceptional, .clean, .mixed, .problematic]

def quietestFirst : List Celebration :=
  [.problematic, .mixed, .clean, .exceptional]

/-- The place of the level for numbers of violations and patterns, quietest first. -/
def score (violations patterns : Int) : Nat :=
  let clean := decide (violations = 0)
  let rich := decide (10 < patterns)
  clean.toNat * rich.toNat * 3 + clean.toNat * (!rich).toNat * 2 +
    (!clean).toNat * (decide (violations < patterns)).toNat * 1

theorem score_eq (violations patterns : Int) :
    score violations patterns =
      if violations = 0 then if 10 < patterns then 3 else 2
      else if violations < patterns then 1
      else 0 := by
  simp only [score, ← decide_not, toNat_decide]
  grind

theorem min_score_lt (violations patterns : Int) :
    min (score violations patterns) 3 < quietestFirst.length :=
  Nat.lt_succ_of_le (Nat.min_le_right _ _)

def ofCounts (violations patterns : Int) : Celebration :=
  quietestFirst.get ⟨min (score violations patterns) 3, min_score_lt violations patterns⟩

theorem ofCounts_eq (violations patterns : Int) :
    ofCounts violations patterns =
      if violations = 0 then if 10 < patterns then .exceptional else .clean
      else if violations < patterns then .mixed
      else .problematic := by
  simp only [ofCounts, score_eq, List.get_eq_getElem]
  by_cases hclean : violations = 0
  · by_cases hrich : 10 < patterns
    · simp only [hclean, hrich, if_true]
      rfl
    · simp only [hclean, hrich, if_true, if_false]
      rfl
  · by_cases hmore : violations < patterns
    · simp only [hclean, hmore, if_true, if_false]
      rfl
    · simp only [hclean, hmore, if_false]
      rfl

def header : Celebration → String
  | .exceptional => "🧠 SDA ARCHITECTURE ANALYSIS - EXCELLENT ✅"
  | .clean => "🧠 SDA ARCHITECTURE ANALYSIS - CLEAN ✨"
  | .mixed => "🧠 SDA ARCHITECTURE ANALYSIS - MIXED"
  | .problematic => "🧠 SDA ARCHITECTURE ANALYSIS - NEEDS WORK ⚠️"

end Celebration
end ArchLint.Report
