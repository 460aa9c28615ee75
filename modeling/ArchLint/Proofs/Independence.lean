import ArchLint.CommandLine
import ArchLint.Proofs.Gathering
import ArchLint.Proofs.Traversal

/-!
# What the analysis does not look at

A context says a good deal about a module: its type, the scopes that are open, and with them whether
the code is at a boundary or validates something.  The analysis takes the type of the module through
every call.  Here two runs are compared, and nothing of the context shows in the result but the
file.

* `Finding.inFile`: a finding, said of another file.
* `analyzeWith_congr`: **contexts of the same file have the same findings, or the same fault**.
* `analyzeWith_inFile`: another file changes the file of every finding and nothing else.
* `Disk.scan_congr`: **the same files with the same texts have the same report**, whatever the
  module.
* `run_named`: the name on the command line changes nothing.
-/

namespace ArchLint

open ArchLint.Syntax (Node Value Fault)

/-! ## Trees -/

def Finding.inFile (file : String) (f : Finding) : Finding :=
  { f with file }

theorem map_joinFindings (change : Finding → Finding) (xs : List (Except Fault (List Finding))) :
    (joinFindings xs).map (List.map change) =
      joinFindings (xs.map fun x => x.map (List.map change)) := by
  induction xs with
  | nil => rfl
  | cons x rest ih =>
    cases x with
    | error fault => rfl
    | ok own =>
      have hrest : joinFindings ((.ok own :: rest).map fun x => x.map (List.map change)) =
          ((joinFindings rest).map (List.map change)).map (own.map change ++ ·) := by
        rw [ih]
        rfl
      rw [hrest, joinFindings]
      cases joinFindings rest with
      | error fault => rfl
      | ok found => exact congrArg Except.ok List.map_append

theorem nodeFindings_inFile (render : Value → Except Fault String) (tree : Node)
    (context other : Context) :
    nodeFindings render tree other =
      (nodeFindings render tree context).map (List.map (Finding.inFile other.file)) := by
  rw [nodeFindings_eq, nodeFindings_eq, map_joinFindings, List.map_map]
  refine congrArg joinFindings (List.map_congr_left ?_)
  intro spot _
  rw [Function.comp]
  cases tree.judgeAt render spot with
  | error fault => rfl
  | ok j => cases j <;> rfl

theorem literals_inFile (tree : Node) (file other : String) :
    Rule.Literals.analyze tree other =
      (Rule.Literals.analyze tree file).map (Finding.inFile other) := by
  rw [Rule.Literals.analyze, Rule.Literals.analyze, Rule.Literals.findings,
    Rule.Literals.findings, List.map_filterMap]
  refine List.filterMap_congr ?_
  rintro ⟨text, lines⟩ _
  rcases lines with - | ⟨first, - | ⟨second, more⟩⟩ <;> rfl

/-- **Contexts of the same file have the same findings**, or the same fault. -/
theorem analyzeWith_congr (render : Value → Except Fault String) (tree : Node)
    {context other : Context} (h : context.file = other.file) :
    analyzeWith render tree context = analyzeWith render tree other := by
  rw [analyzeWith, analyzeWith, nodeFindings_eq, nodeFindings_eq, h]

/-- **Another file changes the file of every finding**, and nothing else. -/
theorem analyzeWith_inFile (render : Value → Except Fault String) (tree : Node)
    (context other : Context) :
    analyzeWith render tree other =
      (analyzeWith render tree context).map (List.map (Finding.inFile other.file)) := by
  rw [analyzeWith, analyzeWith, nodeFindings_inFile render tree context other,
    literals_inFile tree context.file other.file]
  cases nodeFindings render tree context with
  | error fault => rfl
  | ok found => exact congrArg Except.ok List.map_append.symm

/-! ## Modules -/

section Modules

variable {disk other : Disk}

theorem analyzeText_congr (text file : String) (moduleType moduleType' : ModuleType) :
    analyzeText text file moduleType = analyzeText text file moduleType' := by
  unfold analyzeText
  cases Source.parse text with
  | none => rfl
  | some tree => exact analyzeWith_congr Value.print tree rfl

theorem Disk.analyzeFile_congr {file : String} (h : disk.read? file = other.read? file)
    (moduleType moduleType' : ModuleType) :
    disk.analyzeFile file moduleType = other.analyzeFile file moduleType' := by
  unfold Disk.analyzeFile
  rw [h]
  cases other.read? file with
  | none => rfl
  | some text => exact analyzeText_congr text file moduleType moduleType'

/-- **The same files with the same texts have the same report**, whatever the module. -/
theorem Disk.scan_congr {m m' : Disk.Module} (hfiles : m.files = m'.files)
    (htexts : ∀ file ∈ m.files, disk.read? file = other.read? file) :
    disk.scan m = other.scan m' := by
  have hfound : disk.analyzeFiles m.files m.moduleType =
      other.analyzeFiles m'.files m'.moduleType := by
    rw [Disk.analyzeFiles, Disk.analyzeFiles, ← hfiles]
    refine congrArg joinFindings (List.map_congr_left ?_)
    exact fun file hfile => Disk.analyzeFile_congr (htexts file hfile) _ _
  rw [Disk.scan, Disk.scan, hfound]

theorem Report.moduleType_byVerdict (findings : List Finding) :
    (Report.byVerdict findings).moduleType = .mixed := by
  rw [Report.byVerdict_eq]

/-- The name on the command line changes nothing, nor does anything after it. -/
theorem run_named (disk : Disk) (program path name : String) (more : List String) :
    run disk (program :: path :: name :: more) = run disk [program, path] := by
  have hnames := (disk.analyzeNamed_eq path (some name)).trans (disk.analyzeNamed_eq path none).symm
  have hrun : run disk (program :: path :: name :: more) = do
      let report ← (disk.analyzeNamed path (some name)).mapError .scan
      let text ← report.text.mapError .tooLarge
      return "" ++ text := rfl
  rw [hrun, hnames]
  rfl

end Modules

/-- **Nothing of a module shows in its report but its files.**  For every tree, contexts of the same
file have the same outcome, whatever type of module and scopes they speak of; with another file the
outcome is the same up to the file of each finding.  So the report of the same files with the same
texts does not depend on the name or the type of the module, and the type that it states is always
the mixed one.  A name that is given with a path makes no difference to its report, nor to what the
command line shows. -/
theorem report_ignores_module (render : Value → Except Fault String) (tree : Node)
    (context other : Context) (disk disk' : Disk) (m m' : Disk.Module) :
    (context.file = other.file →
      analyzeWith render tree context = analyzeWith render tree other) ∧
    analyzeWith render tree other =
      (analyzeWith render tree context).map (List.map fun f => { f with file := other.file }) ∧
    (m.files = m'.files → (∀ file ∈ m.files, disk.read? file = disk'.read? file) →
      disk.scan m = disk'.scan m') ∧
    (∀ report, disk.scan m = .ok report → report.moduleType = .mixed) ∧
    (∀ path name name', disk.analyzeNamed path name = disk.analyzeNamed path name') ∧
    ∀ program path name more,
      run disk (program :: path :: name :: more) = run disk [program, path] := by
  refine ⟨analyzeWith_congr render tree, analyzeWith_inFile render tree context other,
    Disk.scan_congr, ?_, ?_, run_named disk⟩
  · intro report hreport
    obtain ⟨findings, _, rfl⟩ := map_eq_ok.mp hreport
    exact Report.moduleType_byVerdict findings
  · intro path name name'
    rw [Disk.analyzeNamed_eq, Disk.analyzeNamed_eq]

/-- A file that asks for a type, in a module of the domain and in one at a boundary, where the
second context stands inside a function that validates. -/
theorem report_ignores_module_boundary :
    ∃ (tree : Node) (disk : Disk) (findings : List Finding) (report : Report),
      analyze tree (.ofFile "m.py" .domain) = .ok findings ∧
      analyze tree ⟨"m.py", .infrastructure, [⟨.function, .text "validate", 1⟩]⟩ = .ok findings ∧
      analyze tree (.ofFile "n.py" .domain) =
        .ok (findings.map fun f => { f with file := "n.py" }) ∧
      disk.scan ⟨"orders", .domain, ["m.py"]⟩ = .ok report ∧
      disk.scan ⟨"client", .infrastructure, ["m.py"]⟩ = .ok report ∧
      report.moduleType = .mixed := by
  let tree : Node := .mk .ifStmt (some 1)
    [(.test, .node (.mk .name (some 1) [(.id, .text "ready")])), (.body, .list [])]
  let disk : Disk := { top := .directory [("m.py", .file "type(x)\n".toUTF8)] }
  obtain ⟨hsame, _, hscan, hmixed, _⟩ := report_ignores_module Value.print tree
    (.ofFile "m.py" .domain) ⟨"m.py", .infrastructure, [⟨.function, .text "validate", 1⟩]⟩ disk disk
    ⟨"orders", .domain, ["m.py"]⟩ ⟨"client", .infrastructure, ["m.py"]⟩
  obtain ⟨_, hother, _⟩ := report_ignores_module Value.print tree (.ofFile "m.py" .domain)
    (.ofFile "n.py" .domain) disk disk ⟨"orders", .domain, ["m.py"]⟩ ⟨"orders", .domain, ["m.py"]⟩
  have hfindings : analyze tree (.ofFile "m.py" .domain) =
      .ok [⟨"m.py", 1, "business_conditionals: ready"⟩] := by decide +kernel
  have hfile : disk.analyzeFile "m.py" .domain = .ok [⟨"m.py", 1, "isinstance_usage: type"⟩] := by
    decide +kernel
  have hreport : disk.scan ⟨"orders", .domain, ["m.py"]⟩ =
      .ok (.byVerdict [⟨"m.py", 1, "isinstance_usage: type"⟩]) := by
    simp only [Disk.scan, Disk.analyzeFiles, List.map_cons, List.map_nil, hfile]
    rfl
  refine ⟨tree, disk, _, _, hfindings, (hsame rfl).symm.trans hfindings, ?_, hreport,
    (hscan rfl fun file _ => rfl).symm.trans hreport, hmixed _ hreport⟩
  exact hother.trans (congrArg _ hfindings)

end ArchLint
