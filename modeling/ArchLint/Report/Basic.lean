import ArchLint.Finding
import ArchLint.Groups
import ArchLint.ModuleType
import ArchLint.Report.Grade
import ArchLint.Report.Metrics

/-!
# Reports

The findings of a scan in two sets of groups: violations by kind, and patterns by kind.  There are
two ways to build a report.  `Report.ofFindings` puts a finding on every side that its description
speaks of; `Report.byVerdict` puts it on one side only, and violations come first.
-/

namespace ArchLint

open ArchLint.Number (Binary64)

structure Report where
  violations : Groups Violation Finding := []
  patterns : Groups Pattern Finding := []
  moduleType : ModuleType := .mixed
  deriving Inhabited

namespace Report

/-- Puts a finding under its violation, when it has one. -/
def addViolation (r : Report) (f : Finding) : Report :=
  match f.violation? with
  | some v => { r with violations := r.violations.add v f }
  | none => r

def addPattern (r : Report) (f : Finding) : Report :=
  match f.pattern? with
  | some p => { r with patterns := r.patterns.add p f }
  | none => r

def addAs (r : Report) (f : Finding) : Verdict → Report
  | .violation => r.addViolation f
  | .pattern => r.addPattern f
  | .unknown => r

def add (r : Report) (f : Finding) : Report :=
  r.addAs f (.ofFinding f)

/-- The report in which every finding stands on every side that its description speaks of. -/
def ofFindings (findings : List Finding) (moduleType : ModuleType) : Report :=
  findings.foldl (fun r f => (r.addViolation f).addPattern f) { moduleType }

/-- The report in which every finding stands on one side at most. -/
def byVerdict (findings : List Finding) : Report :=
  findings.foldl add {}

def totalViolations (r : Report) : Nat :=
  r.violations.total

def totalPatterns (r : Report) : Nat :=
  r.patterns.total

/-- The number of files that findings speak of. -/
def filesAnalyzed (r : Report) : Nat :=
  ((r.violations.values ++ r.patterns.values).map Finding.file).eraseDups.length

/-- A part of all findings, zero when there are none. -/
def share (r : Report) (part : Nat) : Binary64 :=
  let total := r.totalPatterns + r.totalViolations
  if total = 0 then .zero false else (Binary64.ofQuotient part total).getD (.zero false)

def patternShare (r : Report) : Binary64 :=
  r.share r.totalPatterns

def violationShare (r : Report) : Binary64 :=
  r.share r.totalViolations

def celebration (r : Report) : Celebration :=
  .ofCounts r.totalViolations r.totalPatterns

def grade (r : Report) : Grade :=
  .ofCount r.totalViolations

/-- The counts of the scan.  Every group counts as a model; of features only computed fields are
known. -/
def metrics (r : Report) : Metrics where
  filesScanned := r.filesAnalyzed
  modelsAnalyzed := r.violations.length + r.patterns.length
  computedFields := (r.patterns.get .computedFields).length

end Report
end ArchLint
