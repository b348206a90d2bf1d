import CodeHints.Settings.Platform
import CodeHints.Settings.Value

/-!
# The settings

The recognized settings with their defaults, and which of them differ between two states.

`Setting` lists the settings in the order of their declaration. `Settings.changedKeys` reports the
differing ones in that order, and nothing else decides whether a change is worth telling anybody.
-/

namespace CodeHints

/-- The identity of one setting. -/
inductive Setting where
  | virtualenv
  | interpreter
  | packagePaths
  | functionParams
  | completionTimeout
  | triggerPattern
  | fuzzy
  | visibility
  | commandsScope
  | enableInRepl
  | loggingLevel
  deriving DecidableEq, Repr

namespace Setting

/-- All settings in the order of their declaration. -/
def all : List Setting :=
  [.virtualenv, .interpreter, .packagePaths, .functionParams, .completionTimeout, .triggerPattern,
   .fuzzy, .visibility, .commandsScope, .enableInRepl, .loggingLevel]

/-- The settings that decide which environment a window gets. -/
def environment : List Setting := [.virtualenv, .interpreter, .packagePaths]

def name : Setting → String
  | .virtualenv => "python_virtualenv"
  | .interpreter => "python_interpreter"
  | .packagePaths => "python_package_paths"
  | .functionParams => "auto_complete_function_params"
  | .completionTimeout => "completion_timeout"
  | .triggerPattern => "only_complete_after_regex"
  | .fuzzy => "fuzzy_jedi_completions"
  | .visibility => "sublime_completions_visibility"
  | .commandsScope => "commands_scope"
  | .enableInRepl => "enable_in_sublime_repl"
  | .loggingLevel => "logging_level"

def named? (name : String) : Option Setting := all.find? (·.name == name)

end Setting

/-- The values of all settings. -/
structure Settings where
  /-- Root of a virtual environment; wins over the interpreter. -/
  virtualenv : PerPlatform String
  /-- Interpreter executable. -/
  interpreter : PerPlatform String
  /-- Extra search paths, in front of those of the environment. -/
  packagePaths : PerPlatform (List String)
  functionParams : FunctionParams
  /-- How long requests are held back, in milliseconds. -/
  completionTimeout : Nat
  /-- What the character before the cursor must match, if anything. -/
  triggerPattern : Option TriggerPattern
  /-- Whether the analyzer is asked for fuzzy matches. -/
  fuzzy : Bool
  visibility : Visibility
  /-- Scope selector that the cursor must match. -/
  commandsScope : String
  enableInRepl : Bool
  loggingLevel : LogLevel
  deriving DecidableEq

namespace Settings

/-- The settings of an empty document. -/
def default : Settings where
  virtualenv := .const ""
  interpreter := .const ""
  packagePaths := .const []
  functionParams := .all
  completionTimeout := 10
  triggerPattern := none
  fuzzy := false
  visibility := .default
  commandsScope := "source.python - string - comment"
  enableInRepl := false
  loggingLevel := .error

instance : Inhabited Settings := ⟨default⟩

/-- Whether two states agree on one setting. -/
def agreeOn (a b : Settings) : Setting → Bool
  | .virtualenv => a.virtualenv = b.virtualenv
  | .interpreter => a.interpreter = b.interpreter
  | .packagePaths => a.packagePaths = b.packagePaths
  | .functionParams => a.functionParams = b.functionParams
  | .completionTimeout => a.completionTimeout = b.completionTimeout
  | .triggerPattern => a.triggerPattern = b.triggerPattern
  | .fuzzy => a.fuzzy = b.fuzzy
  | .visibility => a.visibility = b.visibility
  | .commandsScope => a.commandsScope = b.commandsScope
  | .enableInRepl => a.enableInRepl = b.enableInRepl
  | .loggingLevel => a.loggingLevel = b.loggingLevel

/-- The settings on which two states differ, in the order of their declaration. -/
def changedKeys (a b : Settings) : List Setting := Setting.all.filter (!a.agreeOn b ·)

def copy (from_ : Settings) (s : Settings) : Setting → Settings
  | .virtualenv => { s with virtualenv := from_.virtualenv }
  | .interpreter => { s with interpreter := from_.interpreter }
  | .packagePaths => { s with packagePaths := from_.packagePaths }
  | .functionParams => { s with functionParams := from_.functionParams }
  | .completionTimeout => { s with completionTimeout := from_.completionTimeout }
  | .triggerPattern => { s with triggerPattern := from_.triggerPattern }
  | .fuzzy => { s with fuzzy := from_.fuzzy }
  | .visibility => { s with visibility := from_.visibility }
  | .commandsScope => { s with commandsScope := from_.commandsScope }
  | .enableInRepl => { s with enableInRepl := from_.enableInRepl }
  | .loggingLevel => { s with loggingLevel := from_.loggingLevel }

end Settings

end CodeHints
