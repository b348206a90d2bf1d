import CodeHints.Analysis.Answering

/-!
# Scripted engines

An engine whose answers are laid down beforehand, and the calls that were made to it. Every call is
noted before it can fail.
-/

namespace CodeHints.Scenario

/-- A scripted answer. -/
abbrev Scripted (α : Type) := Outcome EngineError α

/-- A scripted environment: what it does not say follows from the path it is made from. -/
structure EnvironmentScript where
  executable : Option String
  sysPath : Option (List String)

/-- The environment that is made from a path. -/
def EnvironmentScript.made (e : EnvironmentScript) (path : String) : Environment where
  executable := e.executable.getD path
  sysPath := e.sysPath.getD [path ++ "/lib"]

/-- The answers of an engine. -/
structure EngineScript where
  defaultEnvironment : Scripted Environment
  /-- Answers for single paths; any other path makes an environment of its own. -/
  environments : List (String × Scripted EnvironmentScript)
  analyze : Scripted Unit
  signatures : Scripted (List CallSignature)
  completions : Scripted (List Completion)
  /-- The answer to a fuzzy request, if it differs. -/
  fuzzyCompletions : Option (Scripted (List Completion))

namespace EngineScript

/-- The default environment of an engine that says nothing else. -/
def plainDefault : Environment := ⟨"/usr/bin/python3", ["/usr/lib/python3/site-packages"]⟩

/-- An engine that finds nothing and never fails. -/
def plain : EngineScript where
  defaultEnvironment := .value plainDefault
  environments := []
  analyze := .value ()
  signatures := .value []
  completions := .value []
  fuzzyCompletions := none

def environmentAt (s : EngineScript) (path : String) : Scripted Environment :=
  match s.environments.lookup path with
  | some answer => answer.map (·.made path)
  | none => .value ((⟨none, none⟩ : EnvironmentScript).made path)

/-- The answer to a request for completions. -/
def completionsFor (s : EngineScript) (fuzzy : Bool) : Scripted (List Completion) :=
  if fuzzy then s.fuzzyCompletions.getD s.completions else s.completions

end EngineScript

inductive EngineEdit where
  | defaultEnvironment (answer : Scripted Environment)
  | environments (answers : List (String × Scripted EnvironmentScript))
  | analyze (answer : Scripted Unit)
  | signatures (answer : Scripted (List CallSignature))
  | completions (answer : Scripted (List Completion))
  | fuzzyCompletions (answer : Option (Scripted (List Completion)))

def EngineScript.edit (s : EngineScript) : EngineEdit → EngineScript
  | .defaultEnvironment answer => { s with defaultEnvironment := answer }
  | .environments answers => { s with environments := answers }
  | .analyze answer => { s with analyze := answer }
  | .signatures answer => { s with signatures := answer }
  | .completions answer => { s with completions := answer }
  | .fuzzyCompletions answer => { s with fuzzyCompletions := answer }

inductive Call where
  | defaultEnvironment
  | createEnvironment (path : String)
  | analyze (request : ScriptRequest)
  | callSignatures
  | completions (fuzzy : Bool)
  deriving DecidableEq, Repr

def Call.name : Call → String
  | .defaultEnvironment => "default_environment"
  | .createEnvironment _ => "create_environment"
  | .analyze _ => "analyze"
  | .callSignatures => "call_signatures"
  | .completions _ => "completions"

/-- An engine that performs `perform` for every call and then answers from a script, which it looks
up after the call was performed. -/
def EngineScript.engine {m : Type → Type} [Monad m] (perform : Call → m Unit)
    (script : m EngineScript) : Engine m where
  defaultEnvironment := do
    perform .defaultEnvironment
    return (← script).defaultEnvironment
  createEnvironment path := do
    perform (.createEnvironment path)
    return (← script).environmentAt path
  analyze request := do
    perform (.analyze request)
    return (← script).analyze
  callSignatures _ := do
    perform .callSignatures
    return (← script).signatures
  completions _ fuzzy := do
    perform (.completions fuzzy)
    return (← script).completionsFor fuzzy

/-- An engine that keeps the list of its calls. -/
def EngineScript.recording (s : EngineScript) : Engine (StateM (List Call)) :=
  EngineScript.engine (fun call ↦ modify (· ++ [call])) (return s)

end CodeHints.Scenario
