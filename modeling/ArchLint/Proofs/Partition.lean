import ArchLint.Proofs.Gathering

/-!
# Reports as partitions

A report sorts findings into groups.  Here the groups are told from the findings and their keys
alone: which keys there are, in which order, and what stands under each.  So nothing is lost and
nothing is doubled, and the two ways to build a report can be compared.

* `Groups.gather`: items under the keys that they have.
* `Groups.Gathers`, `Groups.gathers_gather`: **a key for every item that has one, in the order of
  first occurrence, and under it the items of the key in order**.
* `Report.byVerdict_eq_gather`, `Report.ofFindings_eq_gather`: **both builders gather**; they differ
  in the key of a finding on the side of patterns.
* `report_partitions_findings`: where every finding of a report is, and where it is not.
* `report_builders_agree_iff`: when the two builders build the same groups.
-/

namespace ArchLint

/-! ## Gathered items -/

namespace Groups

variable {κ α : Type} [DecidableEq κ]

/-- Items gathered under the keys that they have; an item without a key is left out. -/
def gather (key? : α → Option κ) (items : List α) : Groups κ α :=
  ofList (items.filterMap fun x => (key? x).map fun key => (key, x))

/-- Where an item with the key is first. -/
def firstPlace (key? : α → Option κ) (items : List α) (key : κ) : Nat :=
  items.findIdx fun x => key? x = some key

/-- The groups are the items of a list, under the keys that they have. -/
structure Gathers (groups : Groups κ α) (key? : α → Option κ) (items : List α) : Prop where
  mem_keys : ∀ key, key ∈ groups.keys ↔ ∃ x ∈ items, key? x = some key
  nodup : groups.keys.Nodup
  /-- A key stands before another if its first item does. -/
  ordered : groups.keys.Pairwise fun a b => firstPlace key? items a < firstPlace key? items b
  /-- Under a key stand its items, in order. -/
  group : ∀ entry ∈ groups, entry.2 = items.filter fun x => key? x = some entry.1
  nonempty : ∀ entry ∈ groups, entry.2 ≠ []

/-- The item stands under the key, and under no other. -/
def Places (groups : Groups κ α) (x : α) (key : κ) : Prop :=
  (∃! entry, entry ∈ groups ∧ x ∈ entry.2) ∧ ∀ entry ∈ groups, x ∈ entry.2 → entry.1 = key

/-- The item stands under no key. -/
def Lacks (groups : Groups κ α) (x : α) : Prop :=
  ∀ entry ∈ groups, x ∉ entry.2

section Gather

variable (key? : α → Option κ) (items : List α) (x : α)

theorem gather_concat_none (h : key? x = none) :
    gather key? (items ++ [x]) = gather key? items := by
  rw [gather, List.filterMap_append]
  simp [gather, h]

theorem gather_concat_some {key : κ} (h : key? x = some key) :
    gather key? (items ++ [x]) = (gather key? items).add key x := by
  have hlast : [x].filterMap (fun x => (key? x).map fun key => (key, x)) = [(key, x)] := by
    simp [h]
  rw [gather, List.filterMap_append, hlast, ofList_concat]
  rfl

theorem mem_keys_gather (key : κ) :
    key ∈ (gather key? items).keys ↔ ∃ x ∈ items, key? x = some key := by
  rw [gather, mem_keys_ofList]
  simp

theorem get_gather (key : κ) :
    (gather key? items).get key = items.filter fun x => key? x = some key := by
  induction items using List.reverseRecOn with
  | nil => rfl
  | append_singleton items x ih =>
    rw [List.filter_append]
    cases hx : key? x with
    | none =>
      rw [gather_concat_none key? items x hx, ih]
      simp [hx]
    | some other =>
      rw [gather_concat_some key? items x hx, get_add, ih]
      by_cases hkey : key = other
      · subst hkey
        rw [if_pos rfl, ih]
        simp [hx]
      · rw [if_neg hkey]
        simp [hx, Ne.symm hkey]

theorem firstPlace_lt_iff {key : κ} :
    firstPlace key? items key < items.length ↔ key ∈ (gather key? items).keys := by
  rw [firstPlace, List.findIdx_lt_length, mem_keys_gather]
  simp only [decide_eq_true_eq]

theorem firstPlace_concat {key : κ} (h : key ∈ (gather key? items).keys) :
    firstPlace key? (items ++ [x]) key = firstPlace key? items key := by
  have hfound := (firstPlace_lt_iff key? items).mpr h
  rw [firstPlace] at hfound
  rw [firstPlace, List.findIdx_append, if_pos hfound]
  rfl

theorem firstPlace_concat_new {key : κ} (h : key ∉ (gather key? items).keys) :
    items.length ≤ firstPlace key? (items ++ [x]) key := by
  have hnone := mt (firstPlace_lt_iff key? items).mp h
  rw [firstPlace] at hnone
  rw [firstPlace, List.findIdx_append, if_neg hnone]
  exact Nat.le_add_left _ _

theorem ordered_keys_gather :
    (gather key? items).keys.Pairwise fun a b =>
      firstPlace key? items a < firstPlace key? items b := by
  induction items using List.reverseRecOn with
  | nil => exact List.Pairwise.nil
  | append_singleton items x ih =>
    -- the keys that were there keep their places
    have hkept : (gather key? items).keys.Pairwise fun a b =>
        firstPlace key? (items ++ [x]) a < firstPlace key? (items ++ [x]) b := by
      refine ih.imp_of_mem ?_
      intro a b ha hb hab
      rw [firstPlace_concat key? items x ha, firstPlace_concat key? items x hb]
      exact hab
    cases hx : key? x with
    | none =>
      rw [gather_concat_none key? items x hx]
      exact hkept
    | some key =>
      rw [gather_concat_some key? items x hx, keys_add]
      by_cases hmem : key ∈ (gather key? items).keys
      · rw [if_pos hmem]
        exact hkept
      · rw [if_neg hmem, List.pairwise_append]
        refine ⟨hkept, List.pairwise_singleton _ _, ?_⟩
        intro a ha b hb
        rw [List.mem_singleton.mp hb, firstPlace_concat key? items x ha]
        have hbefore := (firstPlace_lt_iff key? items).mpr ha
        have hend := firstPlace_concat_new key? items x hmem
        omega

end Gather

theorem get_of_mem {groups : Groups κ α} (h : groups.keys.Nodup) {entry : κ × List α}
    (hentry : entry ∈ groups) : groups.get entry.1 = entry.2 := by
  induction groups with
  | nil => exact absurd hentry List.not_mem_nil
  | cons head rest ih =>
    rw [keys, List.map_cons, List.nodup_cons] at h
    rw [get, List.lookup_cons]
    rcases List.mem_cons.mp hentry with rfl | hentry
    · rw [beq_self_eq_true]
      rfl
    · have hne : entry.1 ≠ head.1 := by
        intro heq
        exact h.1 (heq ▸ List.mem_map_of_mem hentry)
      rw [beq_false_of_ne hne]
      exact ih h.2 hentry

/-- **Gathered groups**: every key in the order of first occurrence, and under it its items. -/
theorem gathers_gather (key? : α → Option κ) (items : List α) :
    (gather key? items).Gathers key? items := by
  have hnodup : (gather key? items).keys.Nodup := nodup_keys_ofList _
  have hgroup : ∀ entry ∈ gather key? items,
      entry.2 = items.filter fun x => key? x = some entry.1 := by
    intro entry hentry
    rw [← get_of_mem hnodup hentry, get_gather]
  refine ⟨mem_keys_gather key? items, hnodup, ordered_keys_gather key? items, hgroup, ?_⟩
  intro entry hentry hempty
  have hkey : entry.1 ∈ (gather key? items).keys := List.mem_map_of_mem hentry
  obtain ⟨x, hx, hkey⟩ := (mem_keys_gather key? items entry.1).mp hkey
  rw [hgroup entry hentry, List.filter_eq_nil_iff] at hempty
  exact hempty x hx (decide_eq_true hkey)

namespace Gathers

variable {groups : Groups κ α} {key? : α → Option κ} {items : List α}

theorem mem_entry (h : groups.Gathers key? items) {entry : κ × List α} (hentry : entry ∈ groups)
    (x : α) : x ∈ entry.2 ↔ x ∈ items ∧ key? x = some entry.1 := by
  rw [h.group entry hentry, List.mem_filter, decide_eq_true_eq]

theorem places (h : groups.Gathers key? items) {x : α} (hx : x ∈ items) {key : κ}
    (hkey : key? x = some key) : groups.Places x key := by
  have hunder : ∀ entry ∈ groups, x ∈ entry.2 → entry.1 = key := by
    intro entry hentry hmem
    have hown := ((h.mem_entry hentry x).mp hmem).2
    exact Option.some.inj (hown.symm.trans hkey)
  obtain ⟨entry, hentry, hfirst⟩ := List.mem_map.mp ((h.mem_keys key).mpr ⟨x, hx, hkey⟩)
  refine ⟨⟨entry, ⟨hentry, ?_⟩, ?_⟩, hunder⟩
  · exact (h.mem_entry hentry x).mpr ⟨hx, by rw [hfirst, hkey]⟩
  · rintro other ⟨hother, hmem⟩
    have hsame : other.1 = entry.1 := (hunder other hother hmem).trans hfirst.symm
    refine Prod.ext hsame ?_
    rw [← get_of_mem h.nodup hother, ← get_of_mem h.nodup hentry, hsame]

theorem lacks (h : groups.Gathers key? items) {x : α} (hx : key? x = none) : groups.Lacks x := by
  intro entry hentry hmem
  have hkey := ((h.mem_entry hentry x).mp hmem).2
  rw [hx] at hkey
  exact absurd hkey (by simp)

theorem lacks_iff (h : groups.Gathers key? items) {x : α} (hx : x ∈ items) :
    groups.Lacks x ↔ key? x = none := by
  refine ⟨fun hlacks => ?_, h.lacks⟩
  cases hkey : key? x with
  | none => rfl
  | some key =>
    obtain ⟨⟨entry, ⟨hentry, hmem⟩, _⟩, _⟩ := h.places hx hkey
    exact absurd hmem (hlacks entry hentry)

/-- Groups are told by their keys alone. -/
theorem eq_map_keys (h : groups.Gathers key? items) :
    groups = groups.keys.map fun key => (key, items.filter fun x => key? x = some key) := by
  rw [keys, List.map_map]
  refine (List.map_id groups).symm.trans (List.map_congr_left ?_)
  intro entry hentry
  exact Prod.ext rfl (h.group entry hentry)

end Gathers

theorem total_gather (key? : α → Option κ) (items : List α) :
    (gather key? items).total = items.countP fun x => (key? x).isSome := by
  rw [gather, total_ofList, List.length_filterMap_eq_countP]
  refine List.countP_congr ?_
  intro x _
  rw [Option.isSome_map]

end Groups

/-! ## The builders -/

def Finding.patternAlone? (f : Finding) : Option Pattern :=
  match f.violation? with
  | some _ => none
  | none => f.pattern?

theorem Finding.patternAlone?_eq_none {f : Finding} :
    f.patternAlone? = none ↔ f.violation?.isSome = true ∨ f.pattern? = none := by
  rw [Finding.patternAlone?]
  cases f.violation? with
  | some v => simp
  | none => simp

namespace Report

/-- The report on one side at most gathers twice. -/
theorem byVerdict_eq_gather (findings : List Finding) :
    byVerdict findings =
      { violations := .gather Finding.violation? findings
        patterns := .gather Finding.patternAlone? findings } := by
  have hpattern : Finding.underPattern? = fun f => f.patternAlone?.map fun p => (p, f) := by
    funext f
    rw [Finding.underPattern?, Finding.patternAlone?]
    cases f.violation? <;> rfl
  rw [byVerdict_eq, hpattern]
  rfl

theorem ofFindings_concat (findings : List Finding) (f : Finding) (moduleType : ModuleType) :
    ofFindings (findings ++ [f]) moduleType =
      ((ofFindings findings moduleType).addViolation f).addPattern f := by
  rw [ofFindings, List.foldl_append]
  rfl

/-- The report on every side gathers twice. -/
theorem ofFindings_eq_gather (findings : List Finding) (moduleType : ModuleType) :
    ofFindings findings moduleType =
      { violations := .gather Finding.violation? findings
        patterns := .gather Finding.pattern? findings
        moduleType } := by
  induction findings using List.reverseRecOn with
  | nil => rfl
  | append_singleton findings f ih =>
    rw [ofFindings_concat, ih, addViolation]
    cases hv : f.violation? with
    | none =>
      rw [Groups.gather_concat_none _ _ _ hv, addPattern]
      cases hp : f.pattern? with
      | none => rw [Groups.gather_concat_none _ _ _ hp]
      | some p => rw [Groups.gather_concat_some _ _ _ hp]
    | some v =>
      rw [Groups.gather_concat_some _ _ _ hv, addPattern]
      cases hp : f.pattern? with
      | none => rw [Groups.gather_concat_none _ _ _ hp]
      | some p => rw [Groups.gather_concat_some _ _ _ hp]

theorem gather_patternAlone? (findings : List Finding) :
    Groups.gather Finding.patternAlone? findings =
      Groups.gather Finding.pattern? (findings.filter fun f => f.violation? = none) := by
  rw [Groups.gather, Groups.gather, List.filterMap_filter]
  refine congrArg Groups.ofList (List.filterMap_congr ?_)
  intro f _
  rw [Finding.patternAlone?]
  cases f.violation? <;> rfl

/-- What it means for a report to be a partition of findings: each stands under its violation, or
else under its pattern, or nowhere when it has neither. -/
structure Partitions (r : Report) (findings : List Finding) : Prop where
  violations : r.violations.Gathers Finding.violation? findings
  patterns : r.patterns.Gathers Finding.patternAlone? findings
  underViolation : ∀ f ∈ findings, ∀ v, f.violation? = some v →
    r.violations.Places f v ∧ r.patterns.Lacks f
  underPattern : ∀ f ∈ findings, ∀ p, f.violation? = none → f.pattern? = some p →
    r.patterns.Places f p ∧ r.violations.Lacks f
  dropped : ∀ f ∈ findings, (r.violations.Lacks f ∧ r.patterns.Lacks f) ↔
    f.violation? = none ∧ f.pattern? = none
  total : r.totalViolations + r.totalPatterns +
    (findings.filter fun f => f.violation? = none ∧ f.pattern? = none).length = findings.length

theorem total_byVerdict (findings : List Finding) :
    (byVerdict findings).totalViolations + (byVerdict findings).totalPatterns +
      (findings.filter fun f => f.violation? = none ∧ f.pattern? = none).length =
        findings.length := by
  rw [byVerdict_eq_gather, totalViolations, totalPatterns, Groups.total_gather,
    Groups.total_gather, ← List.countP_eq_length_filter]
  induction findings with
  | nil => rfl
  | cons f rest ih =>
    rw [List.countP_cons, List.countP_cons, List.countP_cons, List.length_cons, ← ih,
      Finding.patternAlone?]
    cases f.violation? with
    | some v => simp; omega
    | none =>
      cases f.pattern? with
      | some p => simp; omega
      | none => simp; omega

end Report

/-- **A report is a partition of its findings.**  A finding that is read as a violation stands in
one group of violations, that of the violation; one that is read as a pattern only stands in one
group of patterns, that of the pattern; and just the others are dropped.  A group is the findings of
its key in order, none is empty, keys come once and in the order of first occurrence, and the totals
and the dropped findings are all findings. -/
theorem report_partitions_findings (findings : List Finding) :
    (Report.byVerdict findings).Partitions findings := by
  have hviolations : (Report.byVerdict findings).violations.Gathers Finding.violation? findings := by
    rw [Report.byVerdict_eq_gather]
    exact Groups.gathers_gather _ _
  have hpatterns : (Report.byVerdict findings).patterns.Gathers Finding.patternAlone? findings := by
    rw [Report.byVerdict_eq_gather]
    exact Groups.gathers_gather _ _
  refine ⟨hviolations, hpatterns, ?_, ?_, ?_, Report.total_byVerdict findings⟩
  · intro f hf v hv
    have halone : f.patternAlone? = none := by rw [Finding.patternAlone?, hv]
    exact ⟨hviolations.places hf hv, hpatterns.lacks halone⟩
  · intro f hf p hv hp
    have halone : f.patternAlone? = some p := by rw [Finding.patternAlone?, hv, hp]
    exact ⟨hpatterns.places hf halone, hviolations.lacks hv⟩
  · intro f hf
    rw [hviolations.lacks_iff hf, hpatterns.lacks_iff hf, Finding.patternAlone?_eq_none]
    refine and_congr_right fun hv => ?_
    simp [hv]

/-- **When the two builders agree.**  They put the same findings under the same violations.  The
patterns of the report by verdict are those that the other builder finds in the findings without a
violation, and so both build the same groups exactly if no finding has a violation and a pattern. -/
theorem report_builders_agree_iff (findings : List Finding) (moduleType other : ModuleType) :
    (Report.ofFindings findings moduleType).violations = (Report.byVerdict findings).violations ∧
    (Report.byVerdict findings).patterns =
      (Report.ofFindings (findings.filter fun f => f.violation? = none) other).patterns ∧
    ((Report.ofFindings findings moduleType).violations = (Report.byVerdict findings).violations ∧
        (Report.ofFindings findings moduleType).patterns = (Report.byVerdict findings).patterns ↔
      ∀ f ∈ findings, ¬(f.violation?.isSome = true ∧ f.pattern?.isSome = true)) := by
  rw [Report.byVerdict_eq_gather, Report.ofFindings_eq_gather, Report.ofFindings_eq_gather]
  refine ⟨rfl, Report.gather_patternAlone? findings, ?_, ?_⟩
  · rintro ⟨_, hpatterns⟩ f hf ⟨hv, hp⟩
    -- one builder has the finding under its pattern, and the other has it under none
    obtain ⟨p, hp⟩ := Option.isSome_iff_exists.mp hp
    have halone : f.patternAlone? = none := Finding.patternAlone?_eq_none.mpr (Or.inl hv)
    have hlacks := (Groups.gathers_gather Finding.patternAlone? findings).lacks halone
    have hsame : Groups.gather Finding.pattern? findings =
        Groups.gather Finding.patternAlone? findings := hpatterns
    rw [← hsame, (Groups.gathers_gather _ _).lacks_iff hf, hp] at hlacks
    exact absurd hlacks (by simp)
  · intro hnone
    refine ⟨rfl, congrArg Groups.ofList (List.filterMap_congr ?_)⟩
    intro f hf
    have hsame : f.pattern? = f.patternAlone? := by
      rw [Finding.patternAlone?]
      cases hv : f.violation? with
      | none => rfl
      | some v =>
        have hp := hnone f hf
        simpa [hv] using hp
    rw [hsame]

/-- A finding that is read as a violation and as a pattern stands on both sides with one builder. -/
example : (Report.ofFindings [⟨"m.py", 1, "computed_fields: isinstance_usage"⟩] .mixed).patterns ≠
    (Report.byVerdict [⟨"m.py", 1, "computed_fields: isinstance_usage"⟩]).patterns := by
  decide

end ArchLint
