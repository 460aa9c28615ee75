import ArchLint.Proofs.Paths

/-!
# Trees of files

A path is looked up step by step through a tree of files.  Here the steps are told one at a time,
for trees in which every entry has a name that an entry can have.

* `Entry.Sound`: a tree with names that entries can have.
* `advance`, `follow_cons`: one step, and a way as a first step and the rest.
* `Entry.Sound.follow`: **what is reached in a sound tree is sound**.
* `follow_concat`: one more step, to an entry of the directory that was reached.
* `open?_toString`: **a normal path is opened where it is looked up**.
* `read?_eq_none`: only files are read.
-/

namespace ArchLint

namespace Disk

/-! ## Sound trees -/

/-- A name that an entry of a directory can have. -/
structure IsName (name : String) : Prop where
  nonempty : name ≠ ""
  notHere : name ≠ "."
  notUp : name ≠ ".."
  noSlash : '/' ∉ name.toList
  noNull : '\x00' ∉ name.toList
  short : name.utf8ByteSize ≤ maxNameBytes

instance (name : String) : Decidable (IsName name) :=
  decidable_of_iff (name ≠ "" ∧ name ≠ "." ∧ name ≠ ".." ∧ '/' ∉ name.toList ∧
      '\x00' ∉ name.toList ∧ name.utf8ByteSize ≤ maxNameBytes)
    ⟨fun ⟨hne, hhere, hup, hslash, hnull, hshort⟩ => ⟨hne, hhere, hup, hslash, hnull, hshort⟩,
      fun h => ⟨h.nonempty, h.notHere, h.notUp, h.noSlash, h.noNull, h.short⟩⟩

/-- A tree of files in which every entry has a name that it can have, and no other entry of its
directory has the same. -/
inductive Entry.Sound : Entry → Prop
  | file (bytes : ByteArray) : Sound (.file bytes)
  | directory {entries : List (String × Entry)} (nodup : (entries.map Prod.fst).Nodup)
      (names : ∀ entry ∈ entries, IsName entry.1) (inner : ∀ entry ∈ entries, Sound entry.2) :
      Sound (.directory entries)

theorem Entry.Sound.of_directory {entries : List (String × Entry)}
    (h : (Entry.directory entries).Sound) :
    (entries.map Prod.fst).Nodup ∧ (∀ entry ∈ entries, IsName entry.1) ∧
      ∀ entry ∈ entries, entry.2.Sound := by
  cases h with
  | directory nodup names inner => exact ⟨nodup, names, inner⟩

theorem lookup_eq_some {entries : List (String × Entry)} {name : String} {e : Entry}
    (hnodup : (entries.map Prod.fst).Nodup) (h : (name, e) ∈ entries) :
    entries.lookup name = some e := by
  obtain ⟨before, after, rfl⟩ := List.append_of_mem h
  refine List.lookup_eq_some_iff.mpr ⟨before, after, rfl, ?_⟩
  intro entry hentry
  rw [List.map_append, List.nodup_append] at hnodup
  exact bne_iff_ne.mpr fun hname =>
    hnodup.2.2 entry.1 (List.mem_map_of_mem hentry) name (by simp) hname.symm

/-! ## Ways through a tree -/

/-- The places after one step, each inside the next. -/
def advance (places : List Entry) (step : String) : Except Obstacle (List Entry) :=
  match places with
  | .directory entries :: above =>
    if step = "." then .ok places
    else if step = ".." then .ok (if above.isEmpty then places else above)
    else if maxNameBytes < step.utf8ByteSize then .error .tooLong
    else ((entries.lookup step).map fun inner => .ok (inner :: places)).getD (.error .missing)
  | _ => .error .missing

theorem follow_cons (places : List Entry) (step : String) (rest : List String) :
    follow places (step :: rest) = (advance places step).bind fun next => follow next rest := by
  cases places with
  | nil => rfl
  | cons here above =>
    cases here with
    | file bytes => rfl
    | directory entries =>
      rw [follow.eq_def, advance]
      dsimp only
      by_cases hup : step = ".."
      · subst hup
        cases above with
        | nil => rfl
        | cons up top => rfl
      · rw [if_neg hup, if_neg hup]
        split_ifs with hdot hlong
        · rfl
        · rfl
        · cases entries.lookup step with
          | none => rfl
          | some inner => rfl

/-- What a step can do: stay, go up, or go to an entry of the directory. -/
theorem advance_cases {places next : List Entry} {step : String}
    (h : advance places step = .ok next) :
    next = places ∨ (∃ here, places = here :: next) ∨
      ∃ entries above inner, places = .directory entries :: above ∧ (step, inner) ∈ entries ∧
        next = inner :: places := by
  unfold advance at h
  split at h
  · rename_i entries above
    split_ifs at h with hdot hup htop hlong
    · exact Or.inl (Except.ok.inj h).symm
    · exact Or.inl (Except.ok.inj h).symm
    · exact Or.inr (Or.inl ⟨_, congrArg _ (Except.ok.inj h)⟩)
    · cases hinner : entries.lookup step with
      | none =>
        rw [hinner] at h
        exact nomatch h
      | some inner =>
        rw [hinner] at h
        obtain ⟨before, after, hsplit, _⟩ := List.lookup_eq_some_iff.mp hinner
        refine Or.inr (Or.inr ⟨entries, above, inner, rfl, ?_, (Except.ok.inj h).symm⟩)
        rw [hsplit]
        exact List.mem_append_right before List.mem_cons_self
  · exact nomatch h

theorem Entry.Sound.advance {places next : List Entry} {step : String}
    (hsound : ∀ place ∈ places, place.Sound) (h : advance places step = .ok next) :
    ∀ place ∈ next, place.Sound := by
  rcases advance_cases h with rfl | ⟨here, rfl⟩ | ⟨entries, above, inner, rfl, hmem, rfl⟩
  · exact hsound
  · exact fun place hplace => hsound place (List.mem_cons_of_mem here hplace)
  · obtain ⟨_, _, hinner⟩ := (hsound (.directory entries) List.mem_cons_self).of_directory
    exact List.forall_mem_cons.mpr ⟨hinner (step, inner) hmem, hsound⟩

/-- **What is reached from sound places is sound.** -/
theorem Entry.Sound.follow {places : List Entry} {steps : List String} {e : Entry}
    (hsound : ∀ place ∈ places, place.Sound) (h : follow places steps = .ok e) : e.Sound := by
  induction steps generalizing places with
  | nil =>
    cases places with
    | nil => exact nomatch h
    | cons here above =>
      obtain rfl := Except.ok.inj h
      exact hsound here List.mem_cons_self
  | cons step rest ih =>
    rw [follow_cons] at h
    cases hnext : Disk.advance places step with
    | error obstacle =>
      rw [hnext] at h
      exact nomatch h
    | ok next =>
      rw [hnext] at h
      exact ih (Entry.Sound.advance hsound hnext) h

theorem follow_concat {places : List Entry} {steps : List String} {entries : List (String × Entry)}
    (h : follow places steps = .ok (.directory entries)) {name : String} {e : Entry}
    (hname : IsName name) (he : entries.lookup name = some e) :
    follow places (steps ++ [name]) = .ok e := by
  induction steps generalizing places with
  | nil =>
    cases places with
    | nil => exact nomatch h
    | cons here above =>
      obtain rfl := Except.ok.inj h
      rw [List.nil_append, follow_cons, advance, if_neg hname.notHere, if_neg hname.notUp,
        if_neg (Nat.not_lt.mpr hname.short), he]
      rfl
  | cons step rest ih =>
    rw [List.cons_append, follow_cons]
    rw [follow_cons] at h
    cases hnext : advance places step with
    | error obstacle =>
      rw [hnext] at h
      exact nomatch h
    | ok next =>
      rw [hnext] at h
      exact ih h

/-! ## Looking up and opening -/

/-- A text that leads to an entry holds no null character. -/
theorem of_find_eq_ok {disk : Disk} {text : String} {absolute : Bool} {steps : List String}
    {e : Entry} (h : disk.find text absolute steps = .ok e) :
    '\x00' ∉ text.toList ∧
      follow [disk.top] (if absolute then steps else disk.current ++ steps) = .ok e := by
  rw [find] at h
  split at h
  · exact nomatch h
  · rename_i hnull
    split at h
    · exact nomatch h
    · exact ⟨mt List.contains_iff_mem.mpr hnull, h⟩

/-- **A normal path is opened where it is looked up.** -/
theorem open?_toString (disk : Disk) {p : Path} (hne : p.parts ≠ []) (h : p.IsNormal) :
    disk.open? p.toString = (disk.lookUp p).toOption := by
  have hempty : ¬p.toString.isEmpty = true := by
    intro hempty
    have hsteps := steps_toString hne h
    rw [String.isEmpty_iff.mp hempty] at hsteps
    exact hne hsteps.symm
  rw [open?, if_neg hempty, Path.rootOf_toString hne h, steps_toString hne h, lookUp,
    Path.isAbsolute]

theorem read?_eq_none {disk : Disk} {p : Path} (hne : p.parts ≠ []) (h : p.IsNormal)
    (hfile : disk.isFile p = false) : disk.read? p.toString = none := by
  rw [isFile] at hfile
  rw [read?, open?_toString disk hne h]
  cases hentry : (disk.lookUp p).toOption with
  | none => rfl
  | some e =>
    rw [hentry] at hfile
    cases e with
    | file bytes => exact nomatch hfile
    | directory entries => rfl

end Disk
end ArchLint
