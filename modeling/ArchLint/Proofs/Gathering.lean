import ArchLint.Proofs.Grouping
import Mathlib.Data.List.Induction
import Mathlib.Data.List.Nodup
import Mathlib.Data.List.Perm.Basic

/-!
# Gathering

A report is built in one loop that fills two sets of groups at once.  Here the loop is taken apart:
each set is gathered from its own pairs of a key and a finding, so that what holds of one set of
groups holds of both.

* `Groups.values_ofList`: gathering loses no value and doubles none.
* `Groups.nodup_keys_ofList`, `Groups.mem_keys_ofList`: a key is there once if it has a value.
* `Report.byVerdict_eq`: **one loop is two gatherings**.
* `Report.Alike`: two reports that differ in the order of their findings only.
* `Report.alike_of_perm`: **the order of the findings moves nothing but the order in the groups**.
-/

namespace ArchLint

/-! ## Gathered pairs -/

namespace Groups

variable {κ α : Type} [DecidableEq κ]

theorem ofList_concat (pairs : List (κ × α)) (pair : κ × α) :
    ofList (pairs ++ [pair]) = (ofList pairs).add pair.1 pair.2 := by
  rw [ofList, List.foldl_append]
  rfl

theorem values_add (groups : Groups κ α) (key : κ) (value : α) :
    (groups.add key value).values.Perm (groups.values ++ [value]) := by
  induction groups with
  | nil => exact List.Perm.refl _
  | cons head rest ih =>
    obtain ⟨k, vs⟩ := head
    have hvalues : values ((k, vs) :: rest) = vs ++ values rest := rfl
    by_cases hk : k = key
    · have hadd : values (add ((k, vs) :: rest) key value) = vs ++ [value] ++ values rest := by
        rw [add, if_pos hk]
        rfl
      rw [hadd, hvalues, List.append_assoc, List.append_assoc]
      exact List.Perm.append_left vs List.perm_append_comm
    · have hadd : values (add ((k, vs) :: rest) key value) = vs ++ values (add rest key value) := by
        rw [add, if_neg hk]
        rfl
      rw [hadd, hvalues, List.append_assoc]
      exact List.Perm.append_left vs ih

/-- **Gathering loses no value and doubles none.** -/
theorem values_ofList (pairs : List (κ × α)) :
    (ofList pairs).values.Perm (pairs.map (·.2)) := by
  induction pairs using List.reverseRecOn with
  | nil => exact List.Perm.refl _
  | append_singleton pairs pair ih =>
    rw [ofList_concat, List.map_append]
    exact (values_add _ _ _).trans (ih.append_right _)

omit [DecidableEq κ] in
theorem total_eq_length (groups : Groups κ α) : groups.total = groups.values.length := by
  induction groups with
  | nil => rfl
  | cons head rest ih =>
    have hvalues : values (head :: rest) = head.2 ++ values rest := rfl
    have htotal : total (head :: rest) = head.2.length + total rest := rfl
    rw [hvalues, htotal, List.length_append, ih]

theorem total_ofList (pairs : List (κ × α)) : (ofList pairs).total = pairs.length := by
  rw [total_eq_length, (values_ofList pairs).length_eq, List.length_map]

theorem mem_keys_ofList {pairs : List (κ × α)} {key : κ} :
    key ∈ (ofList pairs).keys ↔ key ∈ pairs.map (·.1) := by
  induction pairs using List.reverseRecOn with
  | nil => exact Iff.rfl
  | append_singleton pairs pair ih =>
    rw [ofList_concat, keys_add, List.map_append, List.mem_append, ← ih]
    by_cases hnew : pair.1 ∈ (ofList pairs).keys
    · rw [if_pos hnew]
      refine ⟨Or.inl, ?_⟩
      rintro (hkey | hkey)
      · exact hkey
      · rwa [List.mem_singleton.mp hkey]
    · rw [if_neg hnew, List.mem_append]
      rfl

theorem nodup_keys_ofList (pairs : List (κ × α)) : (ofList pairs).keys.Nodup := by
  induction pairs using List.reverseRecOn with
  | nil => exact List.nodup_nil
  | append_singleton pairs pair ih =>
    rw [ofList_concat, keys_add]
    by_cases hnew : pair.1 ∈ (ofList pairs).keys
    · rwa [if_pos hnew]
    · rw [if_neg hnew, ← List.concat_eq_append]
      exact ih.concat hnew

section Perm

variable {pairs pairs' : List (κ × α)}

theorem values_perm (h : pairs.Perm pairs') : (ofList pairs).values.Perm (ofList pairs').values :=
  (values_ofList pairs).trans ((h.map _).trans (values_ofList pairs').symm)

theorem length_perm (h : pairs.Perm pairs') : (ofList pairs).length = (ofList pairs').length := by
  have hkeys : (ofList pairs).keys.Perm (ofList pairs').keys := by
    rw [List.perm_ext_iff_of_nodup (nodup_keys_ofList _) (nodup_keys_ofList _)]
    intro key
    rw [mem_keys_ofList, mem_keys_ofList, (h.map _).mem_iff]
  have hlength := hkeys.length_eq
  rwa [keys, keys, List.length_map, List.length_map] at hlength

end Perm

end Groups

/-! ## One loop as two gatherings -/

def Finding.underViolation? (f : Finding) : Option (Violation × Finding) :=
  f.violation?.map fun v => (v, f)

/-- A finding under its pattern, when it has one and no violation. -/
def Finding.underPattern? (f : Finding) : Option (Pattern × Finding) :=
  match f.violation? with
  | some _ => none
  | none => f.pattern?.map fun p => (p, f)

namespace Report

theorem byVerdict_concat (findings : List Finding) (f : Finding) :
    byVerdict (findings ++ [f]) = (byVerdict findings).add f := by
  rw [byVerdict, List.foldl_append]
  rfl

/-- **One loop is two gatherings**: violations from the findings that have one, patterns from the
others. -/
theorem byVerdict_eq (findings : List Finding) :
    byVerdict findings =
      { violations := .ofList (findings.filterMap Finding.underViolation?)
        patterns := .ofList (findings.filterMap Finding.underPattern?) } := by
  induction findings using List.reverseRecOn with
  | nil => rfl
  | append_singleton findings f ih =>
    rw [byVerdict_concat, ih, add, Verdict.ofFinding, List.filterMap_append, List.filterMap_append]
    cases hv : f.violation? with
    | some v =>
      have hleft : [f].filterMap Finding.underViolation? = [(v, f)] := by
        simp [Finding.underViolation?, hv]
      have hright : [f].filterMap Finding.underPattern? = [] := by
        simp [Finding.underPattern?, hv]
      rw [hleft, hright, Groups.ofList_concat, List.append_nil]
      simp only [addAs, addViolation, hv]
    | none =>
      have hleft : [f].filterMap Finding.underViolation? = [] := by
        simp [Finding.underViolation?, hv]
      cases hp : f.pattern? with
      | some p =>
        have hright : [f].filterMap Finding.underPattern? = [(p, f)] := by
          simp [Finding.underPattern?, hv, hp]
        rw [hleft, hright, Groups.ofList_concat, List.append_nil]
        simp only [addAs, addPattern, hp]
      | none =>
        have hright : [f].filterMap Finding.underPattern? = [] := by
          simp [Finding.underPattern?, hv, hp]
        rw [hleft, hright, List.append_nil, List.append_nil]
        rfl

theorem totalViolations_byVerdict (findings : List Finding) :
    (byVerdict findings).totalViolations =
      (findings.filterMap Finding.underViolation?).length := by
  rw [byVerdict_eq]
  exact Groups.total_ofList _

theorem totalPatterns_byVerdict (findings : List Finding) :
    (byVerdict findings).totalPatterns = (findings.filterMap Finding.underPattern?).length := by
  rw [byVerdict_eq]
  exact Groups.total_ofList _

/-! ## Findings in another order -/

/-- Two reports that differ in the order of their findings only. -/
structure Alike (r r' : Report) : Prop where
  group : ∀ mark, (r.group mark).Perm (r'.group mark)
  moduleType : r.moduleType = r'.moduleType
  totalViolations : r.totalViolations = r'.totalViolations
  totalPatterns : r.totalPatterns = r'.totalPatterns
  filesAnalyzed : r.filesAnalyzed = r'.filesAnalyzed
  patternShare : r.patternShare = r'.patternShare
  violationShare : r.violationShare = r'.violationShare
  celebration : r.celebration = r'.celebration
  grade : r.grade = r'.grade
  metrics : r.metrics = r'.metrics

theorem nodup_eraseDups {α : Type} [DecidableEq α] (xs : List α) : xs.eraseDups.Nodup := by
  -- what follows the head is free of it, and shorter
  induction hn : xs.length using Nat.strongRecOn generalizing xs with
  | ind n ih =>
    cases xs with
    | nil => simp
    | cons x rest =>
      have hshort : (rest.filter fun y => !y == x).length < n := by
        have hle := List.length_filter_le (fun y => !y == x) rest
        rw [List.length_cons] at hn
        omega
      rw [List.eraseDups_cons, List.nodup_cons, List.mem_eraseDups]
      exact ⟨by simp, ih _ hshort _ rfl⟩

theorem length_eraseDups_perm {α : Type} [DecidableEq α] {xs ys : List α} (h : xs.Perm ys) :
    xs.eraseDups.length = ys.eraseDups.length := by
  refine List.Perm.length_eq ?_
  rw [List.perm_ext_iff_of_nodup (nodup_eraseDups xs) (nodup_eraseDups ys)]
  intro a
  rw [List.mem_eraseDups, List.mem_eraseDups, h.mem_iff]

section Order

variable {findings findings' : List Finding}

theorem group_perm (h : findings.Perm findings') (mark : Mark) :
    ((byVerdict findings).group mark).Perm ((byVerdict findings').group mark) := by
  rw [group_byVerdict, group_byVerdict]
  exact h.filter _

theorem filesAnalyzed_perm (h : findings.Perm findings') :
    (byVerdict findings).filesAnalyzed = (byVerdict findings').filesAnalyzed := by
  have hviolations := Groups.values_perm (h.filterMap Finding.underViolation?)
  have hpatterns := Groups.values_perm (h.filterMap Finding.underPattern?)
  rw [filesAnalyzed, filesAnalyzed, byVerdict_eq, byVerdict_eq]
  exact length_eraseDups_perm ((hviolations.append hpatterns).map _)

/-- The metrics count groups, computed fields and files, and none of these has an order. -/
theorem metrics_perm (h : findings.Perm findings') :
    (byVerdict findings).metrics = (byVerdict findings').metrics := by
  have hviolations : (byVerdict findings).violations.length =
      (byVerdict findings').violations.length := by
    rw [byVerdict_eq, byVerdict_eq]
    exact Groups.length_perm (h.filterMap Finding.underViolation?)
  have hpatterns : (byVerdict findings).patterns.length =
      (byVerdict findings').patterns.length := by
    rw [byVerdict_eq, byVerdict_eq]
    exact Groups.length_perm (h.filterMap Finding.underPattern?)
  have hcomputed : ((byVerdict findings).patterns.get .computedFields).length =
      ((byVerdict findings').patterns.get .computedFields).length :=
    (group_perm h (.pattern .computedFields)).length_eq
  rw [metrics, metrics, filesAnalyzed_perm h, hviolations, hpatterns, hcomputed]

/-- **The order of the findings moves nothing but the order in the groups.** -/
theorem alike_of_perm (h : findings.Perm findings') :
    (byVerdict findings).Alike (byVerdict findings') := by
  have htotalV : (byVerdict findings).totalViolations = (byVerdict findings').totalViolations := by
    rw [totalViolations_byVerdict, totalViolations_byVerdict, (h.filterMap _).length_eq]
  have htotalP : (byVerdict findings).totalPatterns = (byVerdict findings').totalPatterns := by
    rw [totalPatterns_byVerdict, totalPatterns_byVerdict, (h.filterMap _).length_eq]
  have hshare : ∀ part, (byVerdict findings).share part = (byVerdict findings').share part := by
    intro part
    rw [share, share, htotalV, htotalP]
  exact {
    group := group_perm h
    moduleType := by rw [byVerdict_eq, byVerdict_eq]
    totalViolations := htotalV
    totalPatterns := htotalP
    filesAnalyzed := filesAnalyzed_perm h
    patternShare := by rw [patternShare, patternShare, htotalP, hshare]
    violationShare := by rw [violationShare, violationShare, htotalV, hshare]
    celebration := by rw [celebration, celebration, htotalV, htotalP]
    grade := by rw [grade, grade, htotalV]
    metrics := metrics_perm h }

end Order

end Report
end ArchLint
