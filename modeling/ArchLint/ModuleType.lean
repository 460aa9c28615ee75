import ArchLint.Catalogue
import ArchLint.Text.Lower
import ArchLint.Text.Search

/-!
# Types of modules

What a module is for, told from its path.  There are two ways to tell: a coarse one by a few words,
where tests come first, and a fine one by word lists, where the domain comes first.
-/

namespace ArchLint

inductive ModuleType where
  | domain | infrastructure | tooling | framework | mixed
  deriving DecidableEq, Repr, Inhabited

namespace ModuleType

def label : ModuleType → String
  | .domain => "domain"
  | .infrastructure => "infrastructure"
  | .tooling => "tooling"
  | .framework => "framework"
  | .mixed => "mixed"

def catalogue : Catalogue ModuleType :=
  .ofList "ModuleType" label [.domain, .infrastructure, .tooling, .framework, .mixed]

def priority : ModuleType → Nat
  | .domain => 20
  | .infrastructure => 40
  | .tooling => 60
  | .framework => 80
  | .mixed => 100

def coarseWords : List (ModuleType × List String) :=
  [(.tooling, ["test"]),
   (.domain, ["model", "domain"]),
   (.infrastructure, ["service", "api"])]

def fineWords : List (ModuleType × List String) :=
  [(.domain, ["model", "domain", "entity", "business"]),
   (.infrastructure,
    ["redis", "postgres", "mysql", "database", "db", "storage", "cache", "client", "external",
     "api", "gateway", "adapter", "repository"]),
   (.tooling, ["test", "tool", "script", "cli", "util", "helper"]),
   (.framework, ["framework", "lib", "core", "base"])]

/-- The type of the module at a path, by the coarse rule. -/
def ofPath (path : String) : ModuleType :=
  (Text.firstHeld coarseWords (Text.lower path)).getD .mixed

/-- The type of the module at a path, by the fine rule. -/
def classify (path : String) : ModuleType :=
  (Text.firstHeld fineWords (Text.lower path)).getD .mixed

end ModuleType

/-- The groups of words that the coarse rule knows. -/
inductive PathTheme where
  | test | domain | model | service | api | mixed
  deriving DecidableEq, Repr, Inhabited

namespace PathTheme

def label : PathTheme → String
  | .test => "test"
  | .domain => "domain"
  | .model => "model"
  | .service => "service"
  | .api => "api"
  | .mixed => "mixed"

def catalogue : Catalogue PathTheme :=
  .ofList "ModuleTypeClassifier" label [.test, .domain, .model, .service, .api, .mixed]

end PathTheme
end ArchLint
