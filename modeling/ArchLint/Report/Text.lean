import ArchLint.Report.Basic

/-!
# Reports as text

Two layouts of a report.  The one of the command line celebrates a report without violations and
else shows tables with totals; the plain one shows the tables and the distribution only.
-/

namespace ArchLint.Report

def padRight (width : Nat) (text : String) : String :=
  text ++ String.ofList (List.replicate (width - text.length) ' ')

def padLeft (width : Nat) (text : String) : String :=
  String.ofList (List.replicate (width - text.length) ' ') ++ text

/-- Lines of text, each with its end. -/
def unlines (lines : List String) : String :=
  String.join (lines.map (· ++ "\n"))

def rule : String :=
  String.ofList (List.replicate 70 '=')

/-- A row of a table: the label, the count, and a sign for whether there is something to count. -/
def row (sign label : String) (count : Nat) : String :=
  "  " ++ padRight 30 label ++ " " ++ padLeft 3 (toString count) ++ " " ++
    if 0 < count then sign else "⚪"

def violationTable (r : Report) : List String :=
  "🔍 SDA VIOLATIONS DETECTED:" ::
    r.violations.map fun (v, found) => row "🔍" v.label found.length

def patternTable (r : Report) : List String :=
  "\n📊 ARCHITECTURAL FEATURES:" ::
    r.patterns.map fun (p, found) => row "📊" p.label found.length

def distributionLine (r : Report) : String :=
  "DISTRIBUTION: " ++ r.patternShare.percent ++ " patterns, " ++ r.violationShare.percent ++
    " violations"

/-- What a report without violations says. -/
def celebrationLines (r : Report) (summary : String) : List String :=
  [r.grade.assessment, "", summary, "", "✨ ARCHITECTURAL EXCELLENCE:"] ++
    r.metrics.excellence.map ("  • " ++ ·) ++
    ["", "💯 This module demonstrates mastery of SDA principles!"]

/-- What a report with violations says. -/
def tableLines (r : Report) : List String :=
  r.violationTable ++ r.patternTable ++
    ["\nMODULE TYPE: " ++ r.moduleType.label,
     "TOTAL VIOLATIONS: " ++ toString r.totalViolations,
     "TOTAL PATTERNS: " ++ toString r.totalPatterns,
     r.distributionLine]

/-- The lines after the heading: a celebration exactly when there are no violations. -/
def bodyLines (r : Report) : Except TooLarge (List String) :=
  if r.totalViolations = 0 then r.metrics.summary.map r.celebrationLines
  else .ok r.tableLines

/-- The report as the command line shows it. -/
def text (r : Report) : Except TooLarge String :=
  r.bodyLines.map fun lines => unlines (r.celebration.header :: rule :: lines)

def plainText (r : Report) : String :=
  unlines
    (("🧠 SDA ARCHITECTURE ANALYSIS - " ++ r.moduleType.label.toUpper) :: rule ::
      r.violationTable ++ r.patternTable ++ ["\n" ++ r.distributionLine])

end ArchLint.Report
