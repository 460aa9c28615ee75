import ArchLint.Proofs.Gathering
import ArchLint.Proofs.Traversal
import ArchLint.Scan

/-!
# Reports of several files

The findings of a module are those of its files, one file after the other, and the report is built
from all of them at once.  Here the report is put together from the reports of parts of the files.

* `joinFindings_append`: findings are joined in parts.
* `Disk.scan_eq_ok`: **a module that can be analysed has a report**, that of the findings of its
  files.
* `Report.group_append`, `Report.totalViolations_append`, `Report.totalPatterns_append`: a report of
  two lists of findings is the two reports side by side.
* `Disk.scan_without`: **a file whose findings are counted nowhere leaves no trace**.
* `module_report_merges`: parts, order and traces of the files of a module, in one statement.
-/

namespace ArchLint

open ArchLint.Syntax (Fault)

/-! ## Parts of the files -/

theorem joinFindings_append (xs ys : List (Except Fault (List Finding))) :
    joinFindings (xs ++ ys) =
      (joinFindings xs).bind fun found => (joinFindings ys).map (found ++ ·) := by
  induction xs with
  | nil =>
    rw [List.nil_append, joinFindings]
    cases joinFindings ys <;> rfl
  | cons x rest ih =>
    cases x with
    | error fault => rfl
    | ok own =>
      rw [List.cons_append, joinFindings, joinFindings, ih]
      cases joinFindings rest with
      | error fault => rfl
      | ok found =>
        cases joinFindings ys with
        | error fault => rfl
        | ok more => exact congrArg Except.ok (List.append_assoc own found more).symm

/-- The findings of a file; none when it cannot be analysed. -/
def Disk.found (disk : Disk) (moduleType : ModuleType) (file : String) : List Finding :=
  (disk.analyzeFile file moduleType).toOption.getD []

/-- **A module that can be analysed has a report**, that of the findings of its files. -/
theorem Disk.scan_eq_ok {disk : Disk} {m : Disk.Module}
    (h : ∀ file ∈ m.files, ∃ found, disk.analyzeFile file m.moduleType = .ok found) :
    disk.scan m = .ok (.byVerdict (m.files.flatMap (disk.found m.moduleType))) := by
  have hfound : disk.analyzeFiles m.files m.moduleType =
      .ok (m.files.flatMap (disk.found m.moduleType)) :=
    joinFindings_map_eq_ok.mpr ⟨h, rfl⟩
  rw [Disk.scan, hfound]
  rfl

theorem Disk.analyzeModule_eq {disk : Disk} {path : String} {files : List String}
    (h : disk.selected path = .ok files) :
    disk.analyzeModule path =
      ((disk.analyzeFiles files (.ofPath path)).map Report.byVerdict).mapError .tree := by
  unfold Disk.analyzeModule
  rw [h]

namespace Report

theorem group_append (xs ys : List Finding) (mark : Mark) :
    (byVerdict (xs ++ ys)).group mark = (byVerdict xs).group mark ++ (byVerdict ys).group mark := by
  rw [group_byVerdict, group_byVerdict, group_byVerdict, List.filter_append]

theorem totalViolations_append (xs ys : List Finding) :
    (byVerdict (xs ++ ys)).totalViolations =
      (byVerdict xs).totalViolations + (byVerdict ys).totalViolations := by
  rw [totalViolations_byVerdict, totalViolations_byVerdict, totalViolations_byVerdict,
    List.filterMap_append, List.length_append]

theorem totalPatterns_append (xs ys : List Finding) :
    (byVerdict (xs ++ ys)).totalPatterns =
      (byVerdict xs).totalPatterns + (byVerdict ys).totalPatterns := by
  rw [totalPatterns_byVerdict, totalPatterns_byVerdict, totalPatterns_byVerdict,
    List.filterMap_append, List.length_append]

/-! ## Files without a trace -/

theorem foldl_add_unknown {findings : List Finding}
    (h : ∀ f ∈ findings, Verdict.ofFinding f = .unknown) (r : Report) :
    findings.foldl add r = r := by
  induction findings generalizing r with
  | nil => rfl
  | cons f rest ih =>
    rw [List.foldl_cons, add_unknown (h f List.mem_cons_self)]
    exact ih (fun g hg => h g (List.mem_cons_of_mem f hg)) r

theorem byVerdict_without {findings : List Finding}
    (h : ∀ f ∈ findings, Verdict.ofFinding f = .unknown) (xs ys : List Finding) :
    byVerdict (xs ++ (findings ++ ys)) = byVerdict (xs ++ ys) := by
  simp only [byVerdict, List.foldl_append, foldl_add_unknown h]

end Report

theorem ReadOutcome.ofFinding_failure (file : String) :
    Verdict.ofFinding (ReadOutcome.failure file) = .unknown := by
  have hnone : (ReadOutcome.failure "").group? = none := by decide
  rw [Verdict.ofFinding_eq_unknown, ← hnone]
  exact Finding.group?_congr rfl

theorem ParseOutcome.ofFinding_failure (file : String) :
    Verdict.ofFinding (ParseOutcome.failure file) = .unknown := by
  have hnone : (ParseOutcome.failure "").group? = none := by decide
  rw [Verdict.ofFinding_eq_unknown, ← hnone]
  exact Finding.group?_congr rfl

namespace Disk

variable {disk : Disk} {moduleType : ModuleType} {file : String}

/-- A file that can be analysed and whose findings are counted nowhere. -/
def Traceless (disk : Disk) (moduleType : ModuleType) (file : String) : Prop :=
  ∃ found, disk.analyzeFile file moduleType = .ok found ∧
    ∀ f ∈ found, Verdict.ofFinding f = .unknown

theorem traceless_of_unread (h : disk.read? file = none) : disk.Traceless moduleType file := by
  refine ⟨[ReadOutcome.failure file], ?_, ?_⟩
  · unfold analyzeFile
    rw [h]
    rfl
  · intro f hf
    rw [List.mem_singleton.mp hf]
    exact ReadOutcome.ofFinding_failure file

theorem traceless_of_unparsed {text : String} (h : disk.read? file = some text)
    (hparse : Source.parse text = none) : disk.Traceless moduleType file := by
  refine ⟨[ParseOutcome.failure file], ?_, ?_⟩
  · unfold analyzeFile analyzeText
    simp only [h, hparse]
    rfl
  · intro f hf
    rw [List.mem_singleton.mp hf]
    exact ParseOutcome.ofFinding_failure file

/-- **A file whose findings are counted nowhere leaves no trace**, also when another file fails. -/
theorem scan_without {m : Module} (h : disk.Traceless m.moduleType file) (xs ys : List String) :
    disk.scan { m with files := xs ++ file :: ys } = disk.scan { m with files := xs ++ ys } := by
  obtain ⟨found, hfile, hunknown⟩ := h
  simp only [scan, analyzeFiles, List.map_append, List.map_cons, hfile, joinFindings_append,
    joinFindings]
  cases joinFindings (xs.map fun file => disk.analyzeFile file m.moduleType) with
  | error fault => rfl
  | ok before =>
    cases joinFindings (ys.map fun file => disk.analyzeFile file m.moduleType) with
    | error fault => rfl
    | ok after => exact congrArg Except.ok (Report.byVerdict_without hunknown before after)

end Disk

/-- **The report of a module is put together from its files.**  When every file can be analysed, the
report of the files in two parts is the reports of the parts side by side: each group is one after
the other, and the totals add up.  In another order of the files every group is in another order,
and all that is counted, shared, graded and measured stays.  A file that cannot be read or parsed,
or whose findings are counted nowhere, leaves no trace at all. -/
theorem module_report_merges (disk : Disk) (m : Disk.Module)
    (h : ∀ file ∈ m.files, ∃ found, disk.analyzeFile file m.moduleType = .ok found) :
    (∀ xs ys, m.files = xs ++ ys → ∃ whole first second,
      disk.scan m = .ok whole ∧ disk.scan { m with files := xs } = .ok first ∧
        disk.scan { m with files := ys } = .ok second ∧
          (∀ mark, whole.group mark = first.group mark ++ second.group mark) ∧
            whole.totalViolations = first.totalViolations + second.totalViolations ∧
              whole.totalPatterns = first.totalPatterns + second.totalPatterns) ∧
    (∀ order, m.files.Perm order → ∃ report other,
      disk.scan m = .ok report ∧ disk.scan { m with files := order } = .ok other ∧
        report.Alike other) ∧
    (∀ xs file ys, m.files = xs ++ file :: ys →
      (disk.read? file = none ∨ (∃ text, disk.read? file = some text ∧ Source.parse text = none) ∨
        ∃ found, disk.analyzeFile file m.moduleType = .ok found ∧
          ∀ f ∈ found, Verdict.ofFinding f = .unknown) →
      disk.scan m = disk.scan { m with files := xs ++ ys }) := by
  obtain ⟨name, moduleType, files⟩ := m
  have hscan : ∀ part : List String, (∀ file ∈ part, file ∈ files) →
      disk.scan ⟨name, moduleType, part⟩ =
        .ok (.byVerdict (part.flatMap (disk.found moduleType))) :=
    fun part hpart => Disk.scan_eq_ok fun file hfile => h file (hpart file hfile)
  refine ⟨?_, ?_, ?_⟩
  · rintro xs ys rfl
    refine ⟨_, _, _, hscan _ fun file hfile => hfile,
      hscan xs fun file hfile => List.mem_append_left ys hfile,
      hscan ys fun file hfile => List.mem_append_right xs hfile, ?_⟩
    rw [List.flatMap_append]
    exact ⟨Report.group_append _ _, Report.totalViolations_append _ _,
      Report.totalPatterns_append _ _⟩
  · intro order horder
    refine ⟨_, _, hscan _ fun file hfile => hfile,
      hscan order fun file hfile => horder.mem_iff.mpr hfile, ?_⟩
    exact Report.alike_of_perm (horder.flatMap_right _)
  · rintro xs file ys rfl hfile
    refine Disk.scan_without ?_ xs ys
    rcases hfile with hread | ⟨text, hread, hparse⟩ | htraceless
    · exact Disk.traceless_of_unread hread
    · exact Disk.traceless_of_unparsed hread hparse
    · exact htraceless

/-- A call that asks for a type, an access to a value, and a text that is cut off. -/
def threeFiles : Disk :=
  { top := .directory [("a.py", .file "type(x)\n".toUTF8), ("b.py", .file "x.value\n".toUTF8),
      ("c.py", .file "(\n".toUTF8)] }

theorem module_report_merges_three :
    (∀ file ∈ ["a.py", "b.py", "c.py"], ∃ found, threeFiles.analyzeFile file .mixed = .ok found) ∧
    (∃ whole first second,
      threeFiles.scan ⟨"m", .mixed, ["a.py", "b.py", "c.py"]⟩ = .ok whole ∧
        threeFiles.scan ⟨"m", .mixed, ["a.py"]⟩ = .ok first ∧
          threeFiles.scan ⟨"m", .mixed, ["b.py", "c.py"]⟩ = .ok second ∧
            whole.totalViolations = first.totalViolations + second.totalViolations) ∧
    (∃ report other,
      threeFiles.scan ⟨"m", .mixed, ["a.py", "b.py", "c.py"]⟩ = .ok report ∧
        threeFiles.scan ⟨"m", .mixed, ["b.py", "c.py", "a.py"]⟩ = .ok other ∧
          report.Alike other) ∧
    threeFiles.scan ⟨"m", .mixed, ["a.py", "b.py", "c.py"]⟩ =
      threeFiles.scan ⟨"m", .mixed, ["a.py", "b.py"]⟩ := by
  have hfiles : ∀ file ∈ ["a.py", "b.py", "c.py"],
      ∃ found, threeFiles.analyzeFile file .mixed = .ok found := by
    rw [List.forall_mem_cons, List.forall_mem_cons, List.forall_mem_singleton]
    exact ⟨⟨[⟨"a.py", 1, "isinstance_usage: type"⟩], by decide +kernel⟩,
      ⟨[⟨"b.py", 1, "enum_value_access: value"⟩], by decide +kernel⟩,
      ⟨[⟨"c.py", 0, "ast_parse_error"⟩], by decide +kernel⟩⟩
  obtain ⟨hparts, horder, htrace⟩ :=
    module_report_merges threeFiles ⟨"m", .mixed, ["a.py", "b.py", "c.py"]⟩ hfiles
  obtain ⟨whole, first, second, hwhole, hfirst, hsecond, _, htotal, _⟩ :=
    hparts ["a.py"] ["b.py", "c.py"] rfl
  refine ⟨hfiles, ⟨whole, first, second, hwhole, hfirst, hsecond, htotal⟩,
    horder ["b.py", "c.py", "a.py"] (by decide), ?_⟩
  have hcut : threeFiles.read? "c.py" = some "(\n" ∧ Source.parse "(\n" = none := by
    decide +kernel
  exact htrace ["a.py", "b.py"] "c.py" [] rfl (Or.inr (Or.inl ⟨_, hcut⟩))

end ArchLint
