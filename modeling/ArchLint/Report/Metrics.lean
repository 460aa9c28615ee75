import ArchLint.Number.Decimal

/-!
# Metrics

What a scan counted, and how rich the architecture is: the points that its features earn, as a
percentage of the most that its models could earn.
-/

namespace ArchLint.Report

open ArchLint.Number (Binary64)

structure Metrics where
  filesScanned : Int
  modelsAnalyzed : Int := 0
  frozenModels : Int := 0
  behavioralEnums : Int := 0
  computedFields : Int := 0
  protocolBoundaries : Int := 0
  deriving DecidableEq, Repr, Inhabited

/-- A quotient that is too large for a floating-point number. -/
inductive TooLarge where
  | quotient
  deriving DecidableEq, Repr

def TooLarge.message : TooLarge → String
  | .quotient => "integer division result too large for a float"

namespace Metrics

def points (m : Metrics) : Int :=
  m.frozenModels * 3 + m.behavioralEnums * 4 + m.computedFields * 2 + m.protocolBoundaries * 5

/-- The most points that the models could earn; one when there are no models. -/
def mostPoints (m : Metrics) : Int :=
  if m.modelsAnalyzed * 14 = 0 then 1 else m.modelsAnalyzed * 14

/-- The points earned as a percentage. -/
def richness (m : Metrics) : Except TooLarge Binary64 :=
  match Binary64.ofQuotient m.points m.mostPoints with
  | some share => .ok share.timesHundred
  | none => .error .quotient

/-- A line about a count, unless the count is zero. -/
def point (count : Int) (text : String) : List String :=
  if count = 0 then [] else [toString count ++ text]

def excellence (m : Metrics) : List String :=
  let praised :=
    point m.frozenModels " frozen domain models with intelligence" ++
    point m.behavioralEnums " behavioral enums with methods" ++
    point m.computedFields " computed fields for derived state" ++
    point m.protocolBoundaries " clean protocol boundaries maintained"
  if praised = [] then ["Clean module structure maintained"] else praised

/-- The counts as lines of text; the richness is shown when it is positive. -/
def summary (m : Metrics) : Except TooLarge String :=
  m.richness.map fun richness =>
    "\n".intercalate
      (["📊 SCAN METRICS:",
        "  Files Scanned: " ++ toString m.filesScanned,
        "  Models Analyzed: " ++ toString m.modelsAnalyzed,
        "  SDA Patterns Found: " ++
          toString (m.computedFields + m.frozenModels + m.behavioralEnums)] ++
        if richness.isPositive then ["  Architectural Richness: " ++ richness.oneDecimal ++ "%"]
        else [])

end Metrics
end ArchLint.Report
