import ArchLint.Proofs.Faults
import ArchLint.Proofs.Merging
import ArchLint.Proofs.Parsing.Statement
import Mathlib.Tactic.ByContra

/-!
# Scans that fail

A file that cannot be read or parsed has a finding that says so.  A file that is parsed gives a
well-formed tree, and the analysis of that tree fails when a conditional of it is stuck; nothing
stands between this fault and the scan.

* `Disk.StuckFile`: a file with text that is parsed and has a stuck conditional.
* `Disk.analyzeFile_answers`: **a file is analysed unless it is stuck**.
* `Disk.exists_report_iff`: a path has a report when none of its files is stuck.
* `Disk.analyzeModule_eq_error`: **the first stuck file ends the scan**.
* `analysis_fails_iff_stuck`: **when trees, files and scans fail**, in one statement.
-/

namespace ArchLint

open ArchLint.Syntax (Node Fault Answers)

/-! ## Files -/

/-- A text that is parsed and has a stuck conditional. -/
def StuckText (text : String) : Prop :=
  ∃ tree, Source.parse text = some tree ∧ tree.HasStuck

def Disk.StuckFile (disk : Disk) (file : String) : Prop :=
  ∃ text, disk.read? file = some text ∧ StuckText text

theorem analyzeText_answers (text file : String) (moduleType : ModuleType) :
    Answers (StuckText text) (analyzeText text file moduleType) := by
  rw [analyzeText, StuckText]
  cases hparse : Source.parse text with
  | none => exact Or.inl ⟨by simp, _, rfl⟩
  | some tree =>
    refine (analyze_answers (Source.parse_isWellFormed hparse) _).congr ?_
    simp only [Option.some.injEq, exists_eq_left']

/-- **A file is analysed unless it is stuck.** -/
theorem Disk.analyzeFile_answers (disk : Disk) (file : String) (moduleType : ModuleType) :
    Answers (disk.StuckFile file) (disk.analyzeFile file moduleType) := by
  rw [analyzeFile, StuckFile]
  cases hread : disk.read? file with
  | none => exact Or.inl ⟨by simp, _, rfl⟩
  | some text =>
    refine (analyzeText_answers text file moduleType).congr ?_
    simp only [Option.some.injEq, exists_eq_left']

/-! ## Scans -/

section Scan

variable {disk : Disk} {path : String} {files : List String}

theorem Disk.exists_report_iff (h : disk.selected path = .ok files) :
    (∃ report, disk.analyzeModule path = .ok report) ↔ ∀ file ∈ files, ¬disk.StuckFile file := by
  have hfiles : Answers (∃ file ∈ files, disk.StuckFile file)
      (disk.analyzeFiles files (.ofPath path)) :=
    joinFindings_answers fun file _ => disk.analyzeFile_answers file _
  have hreport : (∃ report, disk.analyzeModule path = .ok report) ↔
      ∃ found, disk.analyzeFiles files (.ofPath path) = .ok found := by
    rw [Disk.analyzeModule_eq h]
    cases disk.analyzeFiles files (.ofPath path) with
    | error fault => simp [Except.map, Except.mapError]
    | ok found => simp [Except.map, Except.mapError]
  rw [hreport, hfiles.exists_ok_iff]
  push Not
  rfl

/-- **The first stuck file ends the scan**, with the fault of its own analysis. -/
theorem Disk.analyzeModule_eq_error (h : disk.selected path = .ok files) {e : Disk.ScanError} :
    disk.analyzeModule path = .error e ↔
      ∃ before file after fault, files = before ++ file :: after ∧
        (∀ earlier ∈ before, ¬disk.StuckFile earlier) ∧
          disk.analyzeFile file (.ofPath path) = .error fault ∧ e = .tree fault := by
  have hclear : ∀ file, (∃ own, disk.analyzeFile file (.ofPath path) = .ok own) ↔
      ¬disk.StuckFile file := fun file => (disk.analyzeFile_answers file _).exists_ok_iff
  have herror : disk.analyzeModule path = .error e ↔
      ∃ fault, disk.analyzeFiles files (.ofPath path) = .error fault ∧ e = .tree fault := by
    rw [Disk.analyzeModule_eq h]
    cases disk.analyzeFiles files (.ofPath path) with
    | error fault => simp [Except.map, Except.mapError, eq_comm]
    | ok found => simp [Except.map, Except.mapError]
  rw [herror]
  simp only [Disk.analyzeFiles, joinFindings_map_eq_error, hclear]
  constructor
  · rintro ⟨fault, ⟨before, file, after, hsplit, hbefore, hfault⟩, he⟩
    exact ⟨before, file, after, fault, hsplit, hbefore, hfault, he⟩
  · rintro ⟨before, file, after, fault, hsplit, hbefore, hfault, he⟩
    exact ⟨fault, ⟨before, file, after, hsplit, hbefore, hfault⟩, he⟩

end Scan

/-- **When the analysis fails.**  The analysis of a well-formed tree gives findings unless the test
of a conditional cannot be printed, because of a replacement field that needs a backslash or of a
number with too many digits.  A file is analysed unless its text is such a tree, and the scan of a
path ends at the first such file. -/
theorem analysis_fails_iff_stuck (tree : Node) (context : Context) (disk : Disk) (path : String)
    (files : List String) :
    (tree.isWellFormed = true →
      ((∃ findings, analyze tree context = .ok findings) ↔ ¬tree.HasStuck) ∧
        ∀ fault, analyze tree context = .error fault →
          fault = .backslashInField ∨ fault = .tooManyDigits) ∧
    (∀ file moduleType,
      (∃ findings, disk.analyzeFile file moduleType = .ok findings) ↔ ¬disk.StuckFile file) ∧
    (disk.selected path = .ok files →
      ((∃ report, disk.analyzeModule path = .ok report) ↔ ∀ file ∈ files, ¬disk.StuckFile file) ∧
        ∀ e, disk.analyzeModule path = .error e ↔
          ∃ before file after fault, files = before ++ file :: after ∧
            (∀ earlier ∈ before, ¬disk.StuckFile earlier) ∧
              disk.analyzeFile file (.ofPath path) = .error fault ∧ e = .tree fault) := by
  refine ⟨?_, ?_, ?_⟩
  · intro h
    have hanswers := analyze_answers h context
    exact ⟨hanswers.exists_ok_iff, fun fault hfault =>
      Fault.eq_of_isPrinting (hanswers.isPrinting hfault)⟩
  · exact fun file moduleType => (disk.analyzeFile_answers file moduleType).exists_ok_iff
  · exact fun h => ⟨Disk.exists_report_iff h, fun e => Disk.analyzeModule_eq_error h⟩

/-! ## A control character in a replacement field -/

/-- A conditional on a template that quotes a control character, which only an escape can write. -/
def controlText : String :=
  "if f\"\x7b'\x01'\x7d\":\n    pass\n"

/-- A directory with that conditional in one of its two files. -/
def controlDisk : Disk :=
  { top := .directory [("src", .directory
      [("bad.py", .file controlText.toUTF8), ("good.py", .file "x = 1\n".toUTF8)])] }

theorem controlText_fails : ∃ tree, Source.parse controlText = some tree ∧
    tree.isWellFormed = true ∧
      analyze tree (.ofFile "bad.py" .mixed) = .error .backslashInField := by
  have h : (Source.parse controlText).any (fun tree => tree.isWellFormed &&
      decide (analyze tree (.ofFile "bad.py" .mixed) = .error .backslashInField)) = true := by
    decide +kernel
  simpa [Option.any_eq_true] using h

theorem controlDisk_selected :
    controlDisk.selected "src" = .ok ["src/bad.py", "src/good.py"] := by
  decide +kernel

theorem controlDisk_fails :
    controlDisk.analyzeFile "src/bad.py" (.ofPath "src") = .error .backslashInField := by
  decide +kernel

theorem analysis_fails_iff_stuck_control :
    (∃ tree, Source.parse controlText = some tree ∧ tree.isWellFormed = true ∧ tree.HasStuck) ∧
      controlDisk.selected "src" = .ok ["src/bad.py", "src/good.py"] ∧
        controlDisk.StuckFile "src/bad.py" ∧ ¬controlDisk.StuckFile "src/good.py" ∧
          ¬∃ report, controlDisk.analyzeModule "src" = .ok report := by
  obtain ⟨tree, hparse, hshape, hfault⟩ := controlText_fails
  obtain ⟨htree, hfiles, hscan⟩ := analysis_fails_iff_stuck tree (.ofFile "bad.py" .mixed)
    controlDisk "src" ["src/bad.py", "src/good.py"]
  have hgood : controlDisk.analyzeFile "src/good.py" .mixed = .ok [] := by decide +kernel
  have hstuck : controlDisk.StuckFile "src/bad.py" := by
    by_contra hclear
    obtain ⟨findings, hfound⟩ := (hfiles _ _).mpr hclear
    exact nomatch controlDisk_fails.symm.trans hfound
  refine ⟨⟨tree, hparse, hshape, ?_⟩, controlDisk_selected, hstuck, (hfiles _ _).mp ⟨_, hgood⟩, ?_⟩
  · by_contra hclear
    obtain ⟨findings, hfound⟩ := (htree hshape).1.mpr hclear
    exact nomatch hfault.symm.trans hfound
  · intro hreport
    exact (hscan controlDisk_selected).1.mp hreport _ List.mem_cons_self hstuck

/-- The tree of a parsed text fails, and with it the scan of the directory in which it stands. -/
theorem analysis_fails_on_control :
    (∃ tree, Source.parse controlText = some tree ∧ tree.isWellFormed = true ∧
      analyze tree (.ofFile "bad.py" .mixed) = .error .backslashInField) ∧
    controlDisk.analyzeModule "src" = .error (.tree .backslashInField) := by
  refine ⟨controlText_fails, (Disk.analyzeModule_eq_error controlDisk_selected).mpr ?_⟩
  exact ⟨[], "src/bad.py", ["src/good.py"], .backslashInField, rfl, by simp, controlDisk_fails, rfl⟩

end ArchLint
