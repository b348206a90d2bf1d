import CodeHints.Pattern.Reader

/-!
# The kinds of values that settings take

* `FunctionParams`: which parameters of a call are completed.
* `Visibility`: whether the editor's own completions stay visible.
* `LogLevel`: how much is logged.
* `TriggerPattern`: a pattern that has been compiled. It carries the proof that its text compiles to
  its expression, so two patterns with equal texts are equal.
-/

namespace CodeHints

/-- Which parameters are completed after an opening bracket. -/
inductive FunctionParams where
  /-- Every parameter, those with a default together with it. -/
  | all
  /-- Only parameters without a default. -/
  | required
  | off
  deriving DecidableEq, Repr

namespace FunctionParams

/-- Whether parameters are completed at all. -/
def isEnabled (mode : FunctionParams) : Bool := mode != .off

def name : FunctionParams → String
  | .all => "all"
  | .required => "required"
  | .off => "off"

def ofFlag (flag : Bool) : FunctionParams := if flag then .required else .off

/-- The mode that a text stands for. An unknown text asks for something, so it counts as
`required`. -/
def ofText (text : String) : FunctionParams :=
  if text = "all" then .all
  else if text = "" ∨ text = "off" ∨ text = "none" then .off
  else .required

end FunctionParams

/-- Whether the editor's own completions are shown next to those of the analyzer. -/
inductive Visibility where
  /-- Only the analyzer's completions, by default. -/
  | default
  /-- Only the analyzer's completions. -/
  | jedi
  /-- Both; `text` is the written value. -/
  | mixed (text : String)
  deriving DecidableEq, Repr

namespace Visibility

/-- Whether only the analyzer's completions are shown. -/
def engineOnly : Visibility → Bool
  | .default | .jedi => true
  | .mixed _ => false

def ofText (text : String) : Visibility :=
  if text = "default" then .default
  else if text = "jedi" then .jedi
  else .mixed text

def text : Visibility → String
  | .default => "default"
  | .jedi => "jedi"
  | .mixed text => text

end Visibility

/-- How much is logged. -/
inductive LogLevel where
  | error
  | info
  | debug
  deriving DecidableEq, Repr

namespace LogLevel

/-- The level that follows, from the last one back to the first. -/
def next : LogLevel → LogLevel
  | .error => .info
  | .info => .debug
  | .debug => .error

def name : LogLevel → String
  | .error => "ERROR"
  | .info => "INFO"
  | .debug => "DEBUG"

/-- The name of a level among the levels of a log filter. -/
def filterName : LogLevel → String
  | .error => "error"
  | .info => "info"
  | .debug => "debug"

/-- The accepted spellings of levels. -/
def spellings : List (String × LogLevel) :=
  [("ERROR", .error), ("error", .error), ("INFO", .info), ("info", .info), ("DEBUG", .debug),
   ("debug", .debug)]

def ofText? (text : String) : Option LogLevel := spellings.lookup text

/-- Whether a level logs more than errors. -/
def isAboveError (level : LogLevel) : Bool := level != .error

end LogLevel

/-- A pattern that the character before the cursor must match. -/
structure TriggerPattern where
  text : String
  regex : Pattern.Regex
  compiled : Pattern.compile text = .ok regex

namespace TriggerPattern

def ofText? (text : String) : Option TriggerPattern :=
  match h : Pattern.compile text with
  | .ok regex => some ⟨text, regex, h⟩
  | .error _ => none

/-- Whether the pattern matches at the start of a text. -/
def matchesStart (p : TriggerPattern) (text : String) : Bool := p.regex.matchesStart text

/-- A pattern is determined by its text. -/
theorem ext_text {p q : TriggerPattern} (h : p.text = q.text) : p = q := by
  obtain ⟨t, r, hr⟩ := p
  obtain ⟨u, s, hs⟩ := q
  obtain rfl : t = u := h
  obtain rfl : r = s := by rw [hr] at hs; exact Except.ok.inj hs
  rfl

instance : DecidableEq TriggerPattern := fun p q ↦
  if h : p.text = q.text then .isTrue (ext_text h) else .isFalse fun e ↦ h (e ▸ rfl)

/-- A pattern that compiled once compiles again. -/
theorem ofText?_text (p : TriggerPattern) : ofText? p.text = some p := by
  unfold ofText?
  split
  · next regex h => exact congrArg some (ext_text rfl)
  · next h => rw [p.compiled] at h; cases h

end TriggerPattern

end CodeHints
