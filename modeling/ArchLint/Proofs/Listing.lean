import ArchLint.Proofs.Independence
import ArchLint.Proofs.Merging
import ArchLint.Proofs.Partition
import ArchLint.Proofs.Trees

/-!
# Listings and single files

A directory is analysed by the entries whose names have the ending of source files; a path by itself
is analysed when there is a file with the suffix of one.  The two rules are not the same.  Here
every entry of a listing is given to the rule for single paths, and the report of a directory is
compared with the reports of its entries.

* `Groups.merge`, `Report.merge`, `joinReports`: reports side by side.
* `Report.byVerdict_append`: **a report of two lists of findings is the two reports merged**.
* `mem_sourcesIn`: what is listed, as entries with a name of the right ending (`Listed`).
* `Listed.lookUp_eq`: **an entry that is listed is found at its path**, unless the path is too long.
* `Listed.kind_eq`: **three kinds of paths are listed**, and not only source files.
* `analyzeModule_of_directory`: **directories in a listing leave no trace**, and files are analysed
  as by themselves.
* `listing_against_single_files`: selection, kinds and reports, in one statement.
-/

namespace ArchLint

open ArchLint.Syntax (Fault)

/-! ## Reports side by side -/

namespace Groups

variable {κ α : Type} [DecidableEq κ]

/-- Two sets of groups in one: under a key stand first the values of the first set, and keys that it
does not have come last. -/
def merge (first second : Groups κ α) : Groups κ α :=
  List.map (fun entry => (entry.1, entry.2 ++ second.get entry.1)) first ++
    List.filter (fun entry => entry.1 ∉ first.keys) second

theorem keys_gather_append (key? : α → Option κ) (xs ys : List α) :
    (gather key? (xs ++ ys)).keys =
      (gather key? xs).keys ++
        (gather key? ys).keys.filter fun key => key ∉ (gather key? xs).keys := by
  -- from the end, as groups are filled: one more value brings at most one more key
  induction ys using List.reverseRecOn with
  | nil => simp [gather, ofList, keys]
  | append_singleton ys y ih =>
    rw [← List.append_assoc]
    cases hy : key? y with
    | none => rw [gather_concat_none _ _ _ hy, gather_concat_none _ _ _ hy, ih]
    | some key =>
      have hmem : key ∈ (gather key? (xs ++ ys)).keys ↔
          key ∈ (gather key? xs).keys ∨ key ∈ (gather key? ys).keys := by
        simp only [mem_keys_gather, List.mem_append, or_and_right, exists_or]
      rw [gather_concat_some _ _ _ hy, gather_concat_some _ _ _ hy, keys_add, keys_add]
      by_cases hx : key ∈ (gather key? xs).keys
      · rw [if_pos (hmem.mpr (Or.inl hx)), ih]
        split
        · rfl
        · simp [List.filter_append, hx]
      · by_cases hold : key ∈ (gather key? ys).keys
        · rw [if_pos (hmem.mpr (Or.inr hold)), if_pos hold, ih]
        · rw [if_neg fun h => (hmem.mp h).elim hx hold, if_neg hold, ih, List.filter_append,
            List.append_assoc]
          simp [hx]

/-- **Gathering in two parts.** -/
theorem gather_append (key? : α → Option κ) (xs ys : List α) :
    gather key? (xs ++ ys) = (gather key? xs).merge (gather key? ys) := by
  have hfirst := (gathers_gather key? xs).eq_map_keys
  have hsecond := (gathers_gather key? ys).eq_map_keys
  have hleft : List.map (fun entry => (entry.1, entry.2 ++ (gather key? ys).get entry.1))
      (gather key? xs) =
        (gather key? xs).keys.map fun key =>
          (key, (xs ++ ys).filter fun x => key? x = some key) := by
    conv_lhs => rw [hfirst]
    rw [List.map_map]
    refine List.map_congr_left fun key _ => ?_
    simp only [Function.comp_apply, get_gather, List.filter_append]
  have hright : List.filter (fun entry => entry.1 ∉ (gather key? xs).keys) (gather key? ys) =
      ((gather key? ys).keys.filter fun key => key ∉ (gather key? xs).keys).map fun key =>
        (key, (xs ++ ys).filter fun x => key? x = some key) := by
    conv_lhs => rw [hsecond]
    rw [List.filter_map]
    refine List.map_congr_left fun key hkey => ?_
    have hnew : key ∉ (gather key? xs).keys := of_decide_eq_true (List.mem_filter.mp hkey).2
    have hnone : (xs.filter fun x => key? x = some key) = [] := by
      rw [List.filter_eq_nil_iff]
      intro x hx hown
      exact hnew ((mem_keys_gather key? xs key).mpr ⟨x, hx, of_decide_eq_true hown⟩)
    rw [List.filter_append, hnone, List.nil_append]
  rw [(gathers_gather key? (xs ++ ys)).eq_map_keys, keys_gather_append, List.map_append, merge,
    hleft, hright]

end Groups

def Report.merge (first second : Report) : Report where
  violations := first.violations.merge second.violations
  patterns := first.patterns.merge second.patterns
  moduleType := first.moduleType

/-- **A report of two lists of findings is the two reports merged.** -/
theorem Report.byVerdict_append (xs ys : List Finding) :
    byVerdict (xs ++ ys) = (byVerdict xs).merge (byVerdict ys) := by
  rw [byVerdict_eq_gather, byVerdict_eq_gather, byVerdict_eq_gather, merge,
    Groups.gather_append, Groups.gather_append]

/-- Merges reports in order; the first failure wins. -/
def joinReports : List (Except Disk.ScanError Report) → Except Disk.ScanError Report
  | [] => .ok {}
  | .error e :: _ => .error e
  | .ok r :: rest => (joinReports rest).map r.merge

namespace Disk

/-! ## Kinds of paths -/

theorem kind_of_tooLong {disk : Disk} {text : String}
    (h : disk.lookUp (.ofString text) = .error .tooLong) :
    PathKind.ofText disk text = .error ⟨.ofString text⟩ := by
  simp only [PathKind.ofText, checked, h]

theorem kind_of_found {disk : Disk} {text : String} {e : Entry}
    (h : disk.lookUp (.ofString text) = .ok e) :
    PathKind.ofText disk text =
      .ok (if e.isFile then if (Path.ofString text).suffix = ending then .pythonFile else .other
        else .directory) := by
  simp only [PathKind.ofText, checked, PathKind.ofPath, isFile, isDirectory, h]
  cases e with
  | file bytes => rfl
  | directory entries => rfl

/-! ## Entries of a listing -/

def Path.below (directory : Path) (name : String) : Path :=
  directory.join ⟨.none, [name]⟩

theorem Path.below_eq (directory : Path) (name : String) :
    directory.below name = ⟨directory.root, directory.parts ++ [name]⟩ :=
  rfl

theorem Path.IsNormal.below {directory : Path} (h : directory.IsNormal) {name : String}
    (hname : IsName name) : (directory.below name).IsNormal := by
  intro part hpart
  rw [Path.below_eq, List.mem_append, List.mem_singleton] at hpart
  rcases hpart with hpart | rfl
  · exact h part hpart
  · exact ⟨hname.nonempty, hname.notHere, hname.noSlash⟩

theorem Path.parts_below_ne_nil (directory : Path) (name : String) :
    (directory.below name).parts ≠ [] :=
  List.append_ne_nil_of_right_ne_nil _ (List.cons_ne_nil _ _)

theorem Path.name_below (directory : Path) (name : String) :
    (directory.below name).name = name := by
  rw [Path.name, Path.below_eq, List.getLast?_concat]
  rfl

/-- An entry with the ending of source files, in a directory of a disk. -/
structure Listed (disk : Disk) (directory : Path) (name : String) (e : Entry) : Prop where
  normal : directory.IsNormal
  isName : IsName name
  hasEnding : ending.toList <:+ name.toList
  found : ∃ entries, disk.lookUp directory = .ok (.directory entries) ∧ entries.lookup name = some e

namespace Listed

variable {disk : Disk} {directory : Path} {name : String} {e : Entry}

/-- **An entry that is listed is found at its path**, unless the path is too long. -/
theorem lookUp_eq (h : disk.Listed directory name e) :
    disk.lookUp (directory.below name) =
      if maxPathBytes < (directory.below name).toString.utf8ByteSize then .error .tooLong
      else .ok e := by
  obtain ⟨entries, hdirectory, he⟩ := h.found
  obtain ⟨hnull, hfollow⟩ := of_find_eq_ok hdirectory
  have hnull' : '\x00' ∉ (directory.below name).toString.toList := by
    rw [Path.mem_toString (by decide) (by decide)] at hnull ⊢
    rintro ⟨part, hpart, hmem⟩
    rw [Path.below_eq, List.mem_append, List.mem_singleton] at hpart
    rcases hpart with hpart | rfl
    · exact hnull ⟨part, hpart, hmem⟩
    · exact h.isName.noNull hmem
  -- the steps to the entry are those to its directory and one more, from the same place
  have hsteps : (if (directory.below name).isAbsolute then (directory.below name).parts
      else disk.current ++ (directory.below name).parts) =
        (if directory.isAbsolute then directory.parts else disk.current ++ directory.parts) ++
          [name] := by
    rw [Path.below_eq, Path.isAbsolute, Path.isAbsolute]
    split_ifs
    · rfl
    · exact (List.append_assoc _ _ _).symm
  rw [lookUp, find, if_neg (by rwa [List.contains_iff_mem]), hsteps,
    follow_concat hfollow h.isName he]

theorem ofString_toString (h : disk.Listed directory name e) :
    Path.ofString (directory.below name).toString = directory.below name :=
  Path.ofString_toString (h.normal.below h.isName)

/-- **Three kinds of paths are listed**: files, which are source files unless the name is nothing
but the ending, directories, and paths that are too long. -/
theorem kind_eq (h : disk.Listed directory name e) :
    PathKind.ofText disk (directory.below name).toString =
      if disk.isFile (directory.below name) then .ok (if name = ending then .other else .pythonFile)
      else if disk.isDirectory (directory.below name) then .ok .directory
      else .error ⟨directory.below name⟩ := by
  have hread := h.ofString_toString
  have hlookUp := h.lookUp_eq
  rw [isFile, isDirectory]
  by_cases hlong : maxPathBytes < (directory.below name).toString.utf8ByteSize
  · rw [if_pos hlong] at hlookUp
    rw [kind_of_tooLong (hread.symm ▸ hlookUp), hread, hlookUp]
    rfl
  · rw [if_neg hlong] at hlookUp
    have hsuffix : (directory.below name).suffix = ending ↔ name ≠ ending := by
      have hname := Path.name_below directory name
      rw [Path.suffix_eq_ending (hname.symm ▸ h.hasEnding), hname]
    rw [kind_of_found (hread.symm ▸ hlookUp), hread, hlookUp]
    simp only [hsuffix, ne_eq, ite_not]
    cases e with
    | file bytes => rfl
    | directory entries => rfl

theorem traceless (h : disk.Listed directory name e)
    (hfile : disk.isFile (directory.below name) = false) (moduleType : ModuleType) :
    disk.Traceless moduleType (directory.below name).toString :=
  traceless_of_unread
    (read?_eq_none (directory.parts_below_ne_nil name) (h.normal.below h.isName) hfile)

end Listed

section Directories

variable {disk : Disk} {directory : Path} {entries : List (String × Entry)}

/-- **What is listed**: the entries with the ending of source files, and nothing else. -/
theorem mem_sourcesIn (hsound : disk.top.Sound) (hnormal : directory.IsNormal) {p : String} :
    p ∈ disk.sourcesIn directory ↔
      ∃ name e, disk.Listed directory name e ∧ p = (directory.below name).toString := by
  by_cases hplace : ∃ entries, disk.lookUp directory = .ok (.directory entries)
  · obtain ⟨entries, hlookUp⟩ := hplace
    have hinside : (Entry.directory entries).Sound :=
      Entry.Sound.follow (List.forall_mem_singleton.mpr hsound) (of_find_eq_ok hlookUp).2
    obtain ⟨hnodup, hnames, _⟩ := hinside.of_directory
    simp only [sourcesIn, hlookUp, sourceNames, Entry.entries, List.mem_map, List.mem_filter,
      List.isSuffixOf_iff_suffix]
    constructor
    · rintro ⟨name, ⟨⟨entry, hentry, rfl⟩, hending⟩, rfl⟩
      exact ⟨entry.1, entry.2, ⟨hnormal, hnames entry hentry, hending, entries, hlookUp,
        lookup_eq_some hnodup hentry⟩, rfl⟩
    · rintro ⟨name, e, h, rfl⟩
      obtain ⟨entries', hfound, he⟩ := h.found
      obtain rfl : entries = entries' :=
        Entry.directory.inj (Except.ok.inj (hlookUp.symm.trans hfound))
      obtain ⟨before, after, rfl, _⟩ := List.lookup_eq_some_iff.mp he
      exact ⟨name, ⟨⟨(name, e), by simp, rfl⟩, h.hasEnding⟩, rfl⟩
  · have hnone : disk.sourcesIn directory = [] := by
      unfold sourcesIn
      split
      · exact absurd ⟨_, ‹_›⟩ hplace
      · rfl
    rw [hnone]
    refine iff_of_false List.not_mem_nil ?_
    rintro ⟨name, e, h, _⟩
    obtain ⟨entries, hfound, _⟩ := h.found
    exact hplace ⟨entries, hfound⟩

end Directories

/-! ## Reports of directories -/

section Reports

variable {disk : Disk} {moduleType : ModuleType} {text : String}

def fileReport (disk : Disk) (moduleType : ModuleType) (file : String) :
    Except ScanError Report :=
  ((disk.analyzeFile file moduleType).map Report.byVerdict).mapError .tree

/-- The report of files is that of each of them, merged; files without a trace can be left out. -/
theorem joinReports_fileReport {files : List String} {keep : String → Bool}
    (h : ∀ file ∈ files, keep file = false → disk.Traceless moduleType file) :
    ((disk.analyzeFiles files moduleType).map Report.byVerdict).mapError .tree =
      joinReports ((files.filter keep).map (disk.fileReport moduleType)) := by
  induction files with
  | nil => rfl
  | cons file rest ih =>
    have hrest := ih fun other hother => h other (List.mem_cons_of_mem file hother)
    rw [analyzeFiles, List.map_cons]
    cases hkeep : keep file with
    | false =>
      -- a file without a trace can be analysed, so that leaving it out hides no failure
      obtain ⟨found, hfound, hunknown⟩ := h file List.mem_cons_self hkeep
      rw [List.filter_cons_of_neg (by rw [hkeep]; decide), ← hrest, hfound, joinFindings,
        analyzeFiles]
      cases joinFindings (rest.map fun file => disk.analyzeFile file moduleType) with
      | error fault => rfl
      | ok more => exact congrArg Except.ok (Report.byVerdict_without hunknown [] more)
    | true =>
      rw [List.filter_cons_of_pos hkeep, List.map_cons, fileReport]
      cases disk.analyzeFile file moduleType with
      | error fault => rfl
      | ok found =>
        have hmerge : joinReports (((Except.ok found).map Report.byVerdict).mapError .tree ::
            (rest.filter keep).map (disk.fileReport moduleType)) =
              (joinReports ((rest.filter keep).map (disk.fileReport moduleType))).map
                (Report.byVerdict found).merge := rfl
        rw [hmerge, ← hrest, joinFindings, analyzeFiles]
        cases joinFindings (rest.map fun file => disk.analyzeFile file moduleType) with
        | error fault => rfl
        | ok more => exact congrArg Except.ok (Report.byVerdict_append found more)

/-- **A path to a source file has the report of that file**, whatever the type of the module. -/
theorem analyzeModule_of_pythonFile (h : PathKind.ofText disk text = .ok .pythonFile)
    (moduleType : ModuleType) :
    disk.analyzeModule text = disk.fileReport moduleType (Path.ofString text).toString := by
  have hselected : disk.selected text = .ok [(Path.ofString text).toString] := by
    rw [selected, h]
    rfl
  rw [fileReport, analyzeFile_congr rfl moduleType (.ofPath text), analyzeModule_eq hselected,
    analyzeFiles, List.map_singleton]
  cases disk.analyzeFile (Path.ofString text).toString (.ofPath text) with
  | error fault => rfl
  | ok found => rw [joinFindings, joinFindings, Except.map, List.append_nil]

theorem selected_of_directory (h : PathKind.ofText disk text = .ok .directory) :
    disk.selected text = .ok (disk.sourcesIn (.ofString text)) := by
  rw [selected, h]
  rfl

/-- **The report of a directory is that of its files**, merged; what else is listed leaves no
trace. -/
theorem analyzeModule_of_directory (hsound : disk.top.Sound)
    (h : PathKind.ofText disk text = .ok .directory) :
    disk.analyzeModule text =
      joinReports (((disk.sourcesIn (.ofString text)).filter fun p => disk.isFile (.ofString p)).map
        (disk.fileReport (.ofPath text))) := by
  rw [analyzeModule_eq (selected_of_directory h)]
  refine joinReports_fileReport ?_
  intro p hp hfile
  obtain ⟨name, e, hlisted, rfl⟩ := (mem_sourcesIn hsound (Path.isNormal_ofString text)).mp hp
  rw [hlisted.ofString_toString] at hfile
  exact hlisted.traceless hfile _

theorem kind_of_mem_sourcesIn (hsound : disk.top.Sound) {p : String}
    (hp : p ∈ disk.sourcesIn (.ofString text)) :
    PathKind.ofText disk p =
      if disk.isFile (.ofString p) then
        .ok (if (Path.ofString p).name = ending then .other else .pythonFile)
      else if disk.isDirectory (.ofString p) then .ok .directory
      else .error ⟨.ofString p⟩ := by
  obtain ⟨name, e, hlisted, rfl⟩ := (mem_sourcesIn hsound (Path.isNormal_ofString text)).mp hp
  rw [hlisted.ofString_toString, Path.name_below]
  exact hlisted.kind_eq

/-- **When no file is named by the ending alone**, a directory has the report of the paths in it
that lead to source files. -/
theorem analyzeModule_of_named (hsound : disk.top.Sound)
    (h : PathKind.ofText disk text = .ok .directory)
    (hnamed : ∀ p ∈ disk.sourcesIn (.ofString text), disk.isFile (.ofString p) = true →
      (Path.ofString p).name ≠ ending) :
    disk.analyzeModule text =
      joinReports (((disk.sourcesIn (.ofString text)).filter fun p =>
        PathKind.ofText disk p = .ok .pythonFile).map disk.analyzeModule) := by
  have hfilter : ∀ p ∈ disk.sourcesIn (.ofString text),
      disk.isFile (.ofString p) = decide (PathKind.ofText disk p = .ok .pythonFile) := by
    intro p hp
    rw [kind_of_mem_sourcesIn hsound hp]
    cases hfile : disk.isFile (.ofString p) with
    | false =>
      rw [if_neg Bool.false_ne_true]
      split <;> rfl
    | true =>
      rw [if_pos rfl, if_neg (hnamed p hp hfile)]
      rfl
  rw [analyzeModule_of_directory hsound h, List.filter_congr hfilter]
  refine congrArg joinReports (List.map_congr_left ?_)
  intro p hp
  obtain ⟨hmem, hkind⟩ := List.mem_filter.mp hp
  obtain ⟨name, e, hlisted, rfl⟩ := (mem_sourcesIn hsound (Path.isNormal_ofString text)).mp hmem
  rw [analyzeModule_of_pythonFile (of_decide_eq_true hkind) (.ofPath text),
    hlisted.ofString_toString]

/-- **When every path in it leads to a source file**, a directory has the report of all of them. -/
theorem analyzeModule_of_all (hsound : disk.top.Sound)
    (h : PathKind.ofText disk text = .ok .directory)
    (hall : ∀ p ∈ disk.sourcesIn (.ofString text), PathKind.ofText disk p = .ok .pythonFile) :
    disk.analyzeModule text =
      joinReports ((disk.sourcesIn (.ofString text)).map disk.analyzeModule) := by
  rw [analyzeModule_of_named hsound h, List.filter_eq_self.mpr]
  · exact fun p hp => decide_eq_true (hall p hp)
  · intro p hp hfile hname
    have hkind := kind_of_mem_sourcesIn hsound hp
    rw [if_pos hfile, if_pos hname, hall p hp] at hkind
    exact nomatch hkind

end Reports

end Disk

open Disk (Path ending)

/-- **Listings against single paths.**  In a sound tree, a directory selects the paths of the
entries whose names have the ending of source files.  A path that is selected is of the kind of
source files when a file is there whose name is more than the ending; the other files, the
directories and the paths that are too long are of no such kind.  The report of the directory is put
together from those of the files among the paths, and directories leave no trace.  So when no file
is named by the ending alone, the report is that of all paths to source files, merged in order, and
when all paths lead to source files, it is that of all paths. -/
theorem listing_against_single_files (disk : Disk) (text : String) (hsound : disk.top.Sound)
    (h : PathKind.ofText disk text = .ok .directory) :
    ∃ files, disk.selected text = .ok files ∧
      (∀ p, p ∈ files ↔ ∃ name e, disk.Listed (.ofString text) name e ∧
        p = ((Path.ofString text).below name).toString) ∧
      (∀ p ∈ files, PathKind.ofText disk p =
        if disk.isFile (.ofString p) then
          .ok (if (Path.ofString p).name = ending then .other else .pythonFile)
        else if disk.isDirectory (.ofString p) then .ok .directory
        else .error ⟨.ofString p⟩) ∧
      disk.analyzeModule text =
        joinReports ((files.filter fun p => disk.isFile (.ofString p)).map
          (disk.fileReport (.ofPath text))) ∧
      ((∀ p ∈ files, disk.isFile (.ofString p) = true → (Path.ofString p).name ≠ ending) →
        disk.analyzeModule text =
          joinReports ((files.filter fun p => PathKind.ofText disk p = .ok .pythonFile).map
            disk.analyzeModule)) ∧
      ((∀ p ∈ files, PathKind.ofText disk p = .ok .pythonFile) →
        disk.analyzeModule text = joinReports (files.map disk.analyzeModule)) :=
  ⟨disk.sourcesIn (.ofString text), Disk.selected_of_directory h,
    fun _ => Disk.mem_sourcesIn hsound (Path.isNormal_ofString text),
    fun _ hp => Disk.kind_of_mem_sourcesIn hsound hp, Disk.analyzeModule_of_directory hsound h,
    Disk.analyzeModule_of_named hsound h, Disk.analyzeModule_of_all hsound h⟩

/-- A file, and beside it a directory with a file in it, both with the ending. -/
def mixedDirectory (name : String) : Disk.Entry :=
  .directory [(name, .file "type(x)\n".toUTF8),
    ("b.py", .directory [("m.py", .file "x.value\n".toUTF8)])]

/-- Two such directories; in the second, the file is named by the ending alone. -/
def mixedDisk : Disk :=
  { top := .directory [("d", mixedDirectory "a.py"), ("e", mixedDirectory ".py")] }

theorem mixedDisk_sound : mixedDisk.top.Sound := by
  have hmixed : ∀ name, Disk.IsName name → name ≠ "b.py" → (mixedDirectory name).Sound := by
    intro name hname hne
    refine .directory (by simpa using hne) ?_ ?_
    · rw [List.forall_mem_cons, List.forall_mem_singleton]
      exact ⟨hname, by decide +kernel⟩
    · rw [List.forall_mem_cons, List.forall_mem_singleton]
      refine ⟨.file _, .directory (by decide) (by decide +kernel) ?_⟩
      exact List.forall_mem_singleton.mpr (.file _)
  refine .directory (by decide) (by decide +kernel) ?_
  rw [List.forall_mem_cons, List.forall_mem_singleton]
  exact ⟨hmixed "a.py" (by decide +kernel) (by decide),
    hmixed ".py" (by decide +kernel) (by decide)⟩

theorem mixedDisk_selected :
    mixedDisk.selected "d" = .ok ["d/a.py", "d/b.py"] ∧
      mixedDisk.selected "d/b.py" = .ok ["d/b.py/m.py"] ∧
        mixedDisk.selected "e" = .ok ["e/.py", "e/b.py"] ∧
          mixedDisk.selected "e/b.py" = .ok ["e/b.py/m.py"] := by
  decide +kernel

theorem listing_against_single_files_mixed :
    mixedDisk.top.Sound ∧ PathKind.ofText mixedDisk "d" = .ok .directory ∧
      mixedDisk.selected "d" = .ok ["d/a.py", "d/b.py"] ∧
      mixedDisk.analyzeModule "d" = joinReports [mixedDisk.analyzeModule "d/a.py"] ∧
      PathKind.ofText mixedDisk "d/b.py" = .ok .directory ∧
      mixedDisk.analyzeModule "d/b.py" = joinReports [mixedDisk.analyzeModule "d/b.py/m.py"] := by
  obtain ⟨houter, hinner, _⟩ := mixedDisk_selected
  have hkinds : PathKind.ofText mixedDisk "d" = .ok .directory ∧
      PathKind.ofText mixedDisk "d/b.py" = .ok .directory := by decide +kernel
  refine ⟨mixedDisk_sound, hkinds.1, houter, ?_, hkinds.2, ?_⟩
  · obtain ⟨files, hfiles, _, _, _, hnamed, _⟩ :=
      listing_against_single_files mixedDisk "d" mixedDisk_sound hkinds.1
    obtain rfl := Except.ok.inj (houter.symm.trans hfiles)
    exact hnamed (by decide +kernel)
  · obtain ⟨files, hfiles, _, _, _, _, hall⟩ :=
      listing_against_single_files mixedDisk "d/b.py" mixedDisk_sound hkinds.2
    obtain rfl := Except.ok.inj (hinner.symm.trans hfiles)
    exact hall (by decide +kernel)

/-- **A listing has paths that lead to no source file.**  A file that is named by the ending alone
is selected with its directory but not by itself, and a directory with the ending is selected as if
it were a file.  The report of the directory is not that of the two paths: what is in the file
counts, of which there is no report by itself, and what is in the inner directory does not. -/
theorem listing_selects_other_entries :
    mixedDisk.selected "e" = .ok ["e/.py", "e/b.py"] ∧
      PathKind.ofText mixedDisk "e/.py" = .ok .other ∧
      PathKind.ofText mixedDisk "e/b.py" = .ok .directory ∧
      (mixedDisk.analyzeModule "e").map (·.violations.keys) = .ok [.isinstanceUsage] ∧
      (joinReports [mixedDisk.analyzeModule "e/.py", mixedDisk.analyzeModule "e/b.py"]).map
        (·.violations.keys) = .ok [.enumValueAccess] := by
  obtain ⟨_, _, houter, hinner⟩ := mixedDisk_selected
  have hfile : mixedDisk.selected "e/.py" = .ok [] := by decide +kernel
  rw [Disk.analyzeModule_eq houter, Disk.analyzeModule_eq hinner, Disk.analyzeModule_eq hfile]
  exact ⟨houter, by decide +kernel⟩

end ArchLint
