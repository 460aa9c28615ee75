import ArchLint.Catalogue
import ArchLint.Text.Lower
import ArchLint.Text.Search

/-!
# Findings

A finding is a remark about a line of a file.  Its description says in words what was found; which
violation or which pattern it stands for is read off the description, by the first indicator word
that it holds in lower case.

Any line and any description make a finding.  The bounds on the two fields, a line that is not
negative and a description that is not empty, are left out here.
-/

namespace ArchLint

/-- What speaks against an architecture. -/
inductive Violation where
  | businessConditionals | isinstanceUsage | hasattrUsage | getattrUsage | dictGetUsage
  | tryExceptUsage | anyTypeUsage | missingFieldConstraints | primitiveObsession | enumValueAccess
  | missingModelConfig | noForwardRefs | manualValidation | anemicServices
  | manualJsonSerialization
  deriving DecidableEq, Repr, Inhabited

namespace Violation

def label : Violation → String
  | .businessConditionals => "business_conditionals"
  | .isinstanceUsage => "isinstance_usage"
  | .hasattrUsage => "hasattr_usage"
  | .getattrUsage => "getattr_usage"
  | .dictGetUsage => "dict_get_usage"
  | .tryExceptUsage => "try_except_usage"
  | .anyTypeUsage => "any_type_usage"
  | .missingFieldConstraints => "missing_field_constraints"
  | .primitiveObsession => "primitive_obsession"
  | .enumValueAccess => "enum_value_access"
  | .missingModelConfig => "missing_model_config"
  | .noForwardRefs => "no_forward_refs"
  | .manualValidation => "manual_validation"
  | .anemicServices => "anemic_services"
  | .manualJsonSerialization => "manual_json_serialization"

def catalogue : Catalogue Violation :=
  .ofList "PatternType" label
    [.businessConditionals, .isinstanceUsage, .hasattrUsage, .getattrUsage, .dictGetUsage,
     .tryExceptUsage, .anyTypeUsage, .missingFieldConstraints, .primitiveObsession,
     .enumValueAccess, .missingModelConfig, .noForwardRefs, .manualValidation, .anemicServices,
     .manualJsonSerialization]

/-- The words that stand for a violation, in the order in which they are tried. -/
def indicators : List (Violation × List String) :=
  [(.isinstanceUsage, ["isinstance_usage"]),
   (.manualJsonSerialization, ["manual_json_serialization"]),
   (.enumValueAccess, ["enum_value_unwrapping", "enum_value_access"]),
   (.businessConditionals, ["business_conditionals"])]

end Violation

/-- What speaks for an architecture. -/
inductive Pattern where
  | pydanticModels | behavioralEnums | computedFields | validators | protocols
  | typeDispatchTables | pydanticValidation | pydanticSerialization | immutableUpdates
  | fieldConstraints | modelConfigUsage | unionTypes | literalTypes | discriminatedUnions
  | forwardReferences | annotatedTypes | genericModels | recursiveModels | customValidators
  | customSerializers | rootValidators | enumMethods | boundaryConditions | typeCheckingImports
  deriving DecidableEq, Repr, Inhabited

namespace Pattern

def label : Pattern → String
  | .pydanticModels => "pydantic_models"
  | .behavioralEnums => "behavioral_enums"
  | .computedFields => "computed_fields"
  | .validators => "validators"
  | .protocols => "protocols"
  | .typeDispatchTables => "type_dispatch_tables"
  | .pydanticValidation => "pydantic_validation"
  | .pydanticSerialization => "pydantic_serialization"
  | .immutableUpdates => "immutable_updates"
  | .fieldConstraints => "field_constraints"
  | .modelConfigUsage => "model_config_usage"
  | .unionTypes => "union_types"
  | .literalTypes => "literal_types"
  | .discriminatedUnions => "discriminated_unions"
  | .forwardReferences => "forward_references"
  | .annotatedTypes => "annotated_types"
  | .genericModels => "generic_models"
  | .recursiveModels => "recursive_models"
  | .customValidators => "custom_validators"
  | .customSerializers => "custom_serializers"
  | .rootValidators => "root_validators"
  | .enumMethods => "enum_methods"
  | .boundaryConditions => "boundary_conditions"
  | .typeCheckingImports => "type_checking_imports"

def catalogue : Catalogue Pattern :=
  .ofList "PositivePattern" label
    [.pydanticModels, .behavioralEnums, .computedFields, .validators, .protocols,
     .typeDispatchTables, .pydanticValidation, .pydanticSerialization, .immutableUpdates,
     .fieldConstraints, .modelConfigUsage, .unionTypes, .literalTypes, .discriminatedUnions,
     .forwardReferences, .annotatedTypes, .genericModels, .recursiveModels, .customValidators,
     .customSerializers, .rootValidators, .enumMethods, .boundaryConditions,
     .typeCheckingImports]

def indicators : List (Pattern × List String) :=
  [(.computedFields, ["computed_fields"]),
   (.pydanticSerialization, ["pydantic_serialization"])]

end Pattern

/-- What a judgement says of a piece of code: it speaks against the architecture or for it. -/
inductive Mark where
  | violation (v : Violation)
  | pattern (p : Pattern)
  deriving DecidableEq, Repr, Inhabited

def Mark.label : Mark → String
  | .violation v => v.label
  | .pattern p => p.label

structure Finding where
  file : String
  line : Int
  description : String
  deriving DecidableEq, Repr, Inhabited

namespace Finding

/-- The finding of a marked piece of code: the description is the label and the code. -/
def ofMark (mark : Mark) (file : String) (line : Int) (text : String) : Finding :=
  ⟨file, line, mark.label ++ ": " ++ text⟩

def location (f : Finding) : String :=
  f.file ++ ":" ++ toString f.line

/-- The description in lower case, in which indicator words are looked for. -/
def lowered (f : Finding) : String :=
  Text.lower f.description

def violation? (f : Finding) : Option Violation :=
  Text.firstHeld Violation.indicators f.lowered

def pattern? (f : Finding) : Option Pattern :=
  Text.firstHeld Pattern.indicators f.lowered

end Finding

/-- On which side of a report a finding is counted. -/
inductive Verdict where
  | violation | pattern | unknown
  deriving DecidableEq, Repr, Inhabited

namespace Verdict

def label : Verdict → String
  | .violation => "violation"
  | .pattern => "pattern"
  | .unknown => "unknown"

def catalogue : Catalogue Verdict :=
  .ofList "FindingClassifier" label [.violation, .pattern, .unknown]

/-- The verdict on a finding: a violation wins over a pattern. -/
def ofFinding (f : Finding) : Verdict :=
  match f.violation?, f.pattern? with
  | some _, _ => .violation
  | none, some _ => .pattern
  | none, none => .unknown

end Verdict

inductive ReadOutcome where
  | success | error
  deriving DecidableEq, Repr, Inhabited

namespace ReadOutcome

def label : ReadOutcome → String
  | .success => "success"
  | .error => "error"

def catalogue : Catalogue ReadOutcome :=
  .ofList "FileResult" label [.success, .error]

/-- The finding that stands for a file that could not be read. -/
def failure (file : String) : Finding :=
  ⟨file, 0, "file_read_error"⟩

def findings (outcome : ReadOutcome) (file : String) : List Finding :=
  match outcome with
  | .success => []
  | .error => [failure file]

end ReadOutcome

inductive ParseOutcome where
  | success | parseError
  deriving DecidableEq, Repr, Inhabited

namespace ParseOutcome

def label : ParseOutcome → String
  | .success => "success"
  | .parseError => "parse_error"

def catalogue : Catalogue ParseOutcome :=
  .ofList "AnalysisResult" label [.success, .parseError]

/-- The finding that stands for a file that is not well-formed source. -/
def failure (file : String) : Finding :=
  ⟨file, 0, "ast_parse_error"⟩

/-- The findings of an outcome: those of the analysis, or the failure. -/
def findings (outcome : ParseOutcome) (file : String) (found : List Finding) : List Finding :=
  match outcome with
  | .success => found
  | .parseError => [failure file]

end ParseOutcome
end ArchLint
