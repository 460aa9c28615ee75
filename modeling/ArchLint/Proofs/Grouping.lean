import ArchLint.Report.Basic

/-!
# The groups of a report

A report counts a finding on one side at most: under the violation that its description is read as,
or else under the pattern.  So there is one mark to say where a finding goes, and one group for
every mark.

* `Finding.group?`: the mark under which a finding is counted.
* `Verdict.ofFinding_eq_unknown`: a finding without such a mark is ignored.
* `Report.group_add`: adding a finding makes the group of its mark longer and no other.
* `Report.group_byVerdict`: **the group of a mark is the findings counted under it**, in order.
-/

namespace ArchLint

/-- The mark under which a finding is counted: a violation wins over a pattern. -/
def Finding.group? (f : Finding) : Option Mark :=
  match f.violation? with
  | some v => some (.violation v)
  | none => f.pattern?.map .pattern

theorem Finding.group?_congr {f g : Finding} (h : f.description = g.description) :
    f.group? = g.group? := by
  simp only [Finding.group?, Finding.violation?, Finding.pattern?, Finding.lowered, h]

theorem Verdict.ofFinding_eq_unknown {f : Finding} :
    Verdict.ofFinding f = .unknown ↔ f.group? = none := by
  rw [Verdict.ofFinding, Finding.group?]
  cases f.violation? with
  | some v => simp
  | none => cases f.pattern? <;> simp

theorem Report.add_unknown {f : Finding} (h : Verdict.ofFinding f = .unknown) (r : Report) :
    r.add f = r := by
  rw [Report.add, h, Report.addAs]

def Report.group (r : Report) : Mark → List Finding
  | .violation v => r.violations.get v
  | .pattern p => r.patterns.get p

theorem Report.group_addViolation {f : Finding} {v : Violation} (h : f.violation? = some v)
    (r : Report) (mark : Mark) :
    (r.addViolation f).group mark =
      r.group mark ++ if mark = .violation v then [f] else [] := by
  simp only [Report.addViolation, h]
  cases mark with
  | violation w =>
    by_cases hw : w = v
    · simp [Report.group, Groups.get_add, hw]
    · simp [Report.group, Groups.get_add, hw]
  | pattern p => simp [Report.group]

theorem Report.group_addPattern {f : Finding} {p : Pattern} (h : f.pattern? = some p)
    (r : Report) (mark : Mark) :
    (r.addPattern f).group mark = r.group mark ++ if mark = .pattern p then [f] else [] := by
  simp only [Report.addPattern, h]
  cases mark with
  | violation v => simp [Report.group]
  | pattern q =>
    by_cases hq : q = p
    · simp [Report.group, Groups.get_add, hq]
    · simp [Report.group, Groups.get_add, hq]

/-- Adding a finding makes the group of its mark longer, and no other. -/
theorem Report.group_add (r : Report) (f : Finding) (mark : Mark) :
    (r.add f).group mark = r.group mark ++ if f.group? = some mark then [f] else [] := by
  rw [Report.add, Verdict.ofFinding, Finding.group?]
  cases hv : f.violation? with
  | some v =>
    show (r.addViolation f).group mark = _
    rw [Report.group_addViolation hv]
    simp only [Option.some.injEq, eq_comm]
  | none =>
    cases hp : f.pattern? with
    | some p =>
      show (r.addPattern f).group mark = _
      rw [Report.group_addPattern hp]
      simp only [Option.map_some, Option.some.injEq, eq_comm]
    | none => exact (List.append_nil _).symm

theorem Report.group_foldl (findings : List Finding) (r : Report) (mark : Mark) :
    (findings.foldl Report.add r).group mark =
      r.group mark ++ findings.filter fun f => f.group? = some mark := by
  induction findings generalizing r with
  | nil => exact (List.append_nil _).symm
  | cons f rest ih =>
    rw [List.foldl_cons, ih, Report.group_add, List.append_assoc, List.filter_cons]
    by_cases h : f.group? = some mark
    · simp [h]
    · simp [h]

/-- **The group of a mark is the findings counted under it**, in order. -/
theorem Report.group_byVerdict (findings : List Finding) (mark : Mark) :
    (Report.byVerdict findings).group mark = findings.filter fun f => f.group? = some mark := by
  have hempty : Report.group {} mark = [] := by cases mark <;> rfl
  rw [Report.byVerdict, Report.group_foldl, hempty, List.nil_append]

end ArchLint
