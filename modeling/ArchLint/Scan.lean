import ArchLint.Analysis
import ArchLint.Disk.Selection
import ArchLint.Report.Text
import ArchLint.Source.Statement

/-!
# Scans

From a path to a report: the files of the path are read, parsed and analysed one after the other, and
their findings are gathered.  A file that cannot be read or parsed has one finding that says so.

* `Disk.analyzeNamed_eq`: the report of a path is the same under every name.
-/

namespace ArchLint

open ArchLint.Syntax (Fault)

def analyzeText (text file : String) (moduleType : ModuleType) : Except Fault (List Finding) :=
  match Source.parse text with
  | some tree => analyze tree (.ofFile file moduleType)
  | none => .ok (ParseOutcome.parseError.findings file [])

namespace Disk

def analyzeFile (disk : Disk) (file : String) (moduleType : ModuleType) :
    Except Fault (List Finding) :=
  match disk.read? file with
  | some text => analyzeText text file moduleType
  | none => .ok (ReadOutcome.error.findings file)

def analyzeFiles (disk : Disk) (files : List String) (moduleType : ModuleType) :
    Except Fault (List Finding) :=
  joinFindings (files.map fun file => disk.analyzeFile file moduleType)

/-- Why a path has no report. -/
inductive ScanError where
  /-- The path cannot be looked up. -/
  | path (e : TooLong)
  /-- A tree cannot be analysed. -/
  | tree (e : Fault)
  deriving DecidableEq, Repr

def ScanError.message : ScanError → String
  | .path e => e.message
  | .tree e => e.message

def analyzeModule (disk : Disk) (path : String) : Except ScanError Report :=
  match disk.selected path with
  | .error e => .error (.path e)
  | .ok files => ((disk.analyzeFiles files (.ofPath path)).map Report.byVerdict).mapError .tree

/-- What a scan is about: a name, the type of the module, and its files. -/
structure Module where
  name : String
  moduleType : ModuleType
  files : List String
  deriving DecidableEq, Repr

/-- The module at a path, under the given name or, when there is none, under that of the path. -/
def moduleAt (disk : Disk) (path : String) (name : Option String) : Except TooLong Module :=
  (disk.selected path).map fun files =>
    { name := (name.filter fun given => !given.isEmpty).getD (Path.ofString path).stem
      moduleType := .ofPath path
      files }

def scan (disk : Disk) (m : Module) : Except Fault Report :=
  (disk.analyzeFiles m.files m.moduleType).map Report.byVerdict

def analyzeNamed (disk : Disk) (path : String) (name : Option String) : Except ScanError Report :=
  match disk.moduleAt path name with
  | .error e => .error (.path e)
  | .ok m => (disk.scan m).mapError .tree

theorem analyzeNamed_eq (disk : Disk) (path : String) (name : Option String) :
    disk.analyzeNamed path name = disk.analyzeModule path := by
  unfold analyzeNamed moduleAt analyzeModule
  cases disk.selected path with
  | error e => rfl
  | ok files => simp only [Except.map, scan]

end Disk
end ArchLint
