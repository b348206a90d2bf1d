import CodeHints.Analysis.Engine
import CodeHints.Settings.Basic
import CodeHints.Variables

/-!
# The environment of a window

A configured virtual environment wins over a configured interpreter, and either of them over the
default environment of the engine. What is configured but cannot be used is an error and is never
replaced by something else. Configured package paths stand in front of the environment's own.
-/

namespace CodeHints

/-- The errors that reach the callers of the pipeline. -/
inductive DaemonError where
  /-- The configured environment cannot be used; `path` is its path after expansion. -/
  | environment (path : String) (source : EngineError)
  /-- Nothing is configured, and the engine has no default environment. -/
  | defaultEnvironment (source : EngineError)
  /-- The worker of a window takes no more jobs. -/
  | workerClosed (window : WindowKey)
  /-- The log cannot be set up. -/
  | logging (message : String)
  deriving DecidableEq, Repr

def DaemonError.message : DaemonError → String
  | .environment path source => "invalid python environment " ++ path ++ ": " ++ source.message
  | .defaultEnvironment source => "no default python environment: " ++ source.message
  | .workerClosed window =>
    "analysis worker for window " ++ toString window.val ++ " is closed"
  | .logging message => "logging setup failed: " ++ message

/-- An environment together with the search path that analysis uses. -/
structure ResolvedEnvironment where
  environment : Environment
  searchPaths : List String
  deriving DecidableEq, Repr

namespace ResolvedEnvironment

/-- The template of the configured environment on a platform, if there is one. -/
def configured? (settings : Settings) (platform : Platform) : Option String :=
  let virtualenv := settings.virtualenv.get platform
  let interpreter := settings.interpreter.get platform
  if virtualenv ≠ "" then some virtualenv
  else if interpreter ≠ "" then some interpreter
  else none

variable {m : Type → Type} [Monad m]

/-- Ask the engine for the environment that the settings choose. -/
def choose (engine : Engine m) (vars : Variables) (settings : Settings) (platform : Platform) :
    m (Outcome DaemonError Environment) := do
  match configured? settings platform with
  | some template =>
    let path := vars.substitute template
    return (← engine.createEnvironment path).mapError (.environment path)
  | none => return (← engine.defaultEnvironment).mapError .defaultEnvironment

/-- An environment with the configured package paths in front of its own. -/
def ofEnvironment (vars : Variables) (settings : Settings) (platform : Platform)
    (environment : Environment) : ResolvedEnvironment where
  environment := environment
  searchPaths :=
    vars.substituteAll (settings.packagePaths.get platform) ++ environment.sysPath

/-- The environment that the settings choose on a platform, with its search path. -/
def resolve (engine : Engine m) (vars : Variables) (settings : Settings) (platform : Platform) :
    m (Outcome DaemonError ResolvedEnvironment) := do
  return (← choose engine vars settings platform).map (ofEnvironment vars settings platform)

end ResolvedEnvironment

end CodeHints
