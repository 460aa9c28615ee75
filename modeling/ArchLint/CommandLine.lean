import ArchLint.Scan

/-!
# The command line

The arguments are the program, a path, and perhaps a name.  Without a path the usage is shown; with
one, the report of the path.
-/

namespace ArchLint

/-- What the arguments ask for. -/
inductive ArgumentState where
  | noArgs | pathOnly | pathAndName
  deriving DecidableEq, Repr, Inhabited

inductive MissingArgument where
  | index
  deriving DecidableEq, Repr

def MissingArgument.message : MissingArgument → String
  | .index => "list index out of range"

/-- What is to be done: analyse a path under a name, or nothing. -/
structure Invocation where
  path : Option String
  name : Option String
  proceeds : Bool
  /-- What is shown before. -/
  shown : String := ""
  deriving DecidableEq, Repr

def usage : String :=
  "Usage: sda-detector <module_path> [module_name]"

namespace ArgumentState

def label : ArgumentState → String
  | .noArgs => "no_args"
  | .pathOnly => "path_only"
  | .pathAndName => "path_and_name"

def catalogue : Catalogue ArgumentState :=
  .ofList "CLIArgumentState" label [.noArgs, .pathOnly, .pathAndName]

/-- What the arguments ask for; those after the third are left aside. -/
def ofArguments : List String → ArgumentState
  | [] | [_] => .noArgs
  | [_, _] => .pathOnly
  | _ => .pathAndName

def argument (arguments : List String) (place : Nat) : Except MissingArgument String :=
  match arguments[place]? with
  | some a => .ok a
  | none => .error .index

def handle (state : ArgumentState) (arguments : List String) :
    Except MissingArgument Invocation :=
  match state with
  | .noArgs => .ok ⟨none, none, false, usage ++ "\n"⟩
  | .pathOnly => do return ⟨some (← argument arguments 1), none, true, ""⟩
  | .pathAndName => do
    return ⟨some (← argument arguments 1), some (← argument arguments 2), true, ""⟩

end ArgumentState

inductive RunError where
  | argument (e : MissingArgument)
  | scan (e : Disk.ScanError)
  | tooLarge (e : Report.TooLarge)
  deriving DecidableEq, Repr

def RunError.message : RunError → String
  | .argument e => e.message
  | .scan e => e.message
  | .tooLarge e => e.message

def run (disk : Disk) (arguments : List String) : Except RunError String := do
  let todo ← ((ArgumentState.ofArguments arguments).handle arguments).mapError .argument
  if todo.proceeds then
    let report ← (disk.analyzeNamed (todo.path.getD "") todo.name).mapError .scan
    let text ← report.text.mapError .tooLarge
    return todo.shown ++ text
  else return todo.shown

end ArchLint
