import CodeHints.Json.Reader
import CodeHints.Settings.Basic

/-!
# Reading settings documents

A settings document is a JSON object whose members carry the names of settings, or a JSON array
that gives their values in the order of declaration. Values per platform may be written in the same
two ways. Unknown members are passed over and missing settings keep their defaults.

Main definition: `Settings.parse`.
-/

namespace CodeHints

open Json (Fault Reader)
open Json.Reader (RecordField)

/-! ## Values of settings -/

def PerPlatform.fields {α : Type} (element : Nat → Reader α) : List (RecordField (PerPlatform α)) :=
  Platform.all.map fun p ↦ ⟨p.name, fun depth v ↦ return v.set p (← element depth)⟩

/-- Read one value for each platform; platforms that are not named get `missing`. -/
def PerPlatform.read {α : Type} (missing : α) (element : Nat → Reader α) (depth : Nat) :
    Reader (PerPlatform α) :=
  Json.Reader.readRecord "PerPlatform" (PerPlatform.fields element) depth (.const missing)

/-- The name of the type of values that choose a mode, in messages. -/
def FunctionParams.typeName : String := "RawFunctionParams"

/-- The mode that a JSON value stands for. -/
def FunctionParams.ofJson : Json → Except Fault FunctionParams
  | .null => .ok .off
  | .bool flag => .ok (.ofFlag flag)
  | .string text => .ok (.ofText text)
  | _ => .error (.noMatchingVariant typeName)

/-- Read a mode. Any value is read whole before its type is looked at. -/
def FunctionParams.read (depth : Nat) : Reader FunctionParams := do
  match ← Json.Reader.readOptional (Json.Reader.readValue depth) with
  | none => return .off
  | some v => liftM (FunctionParams.ofJson v)

/-- The level with a given spelling, or the fault of an unknown one. -/
def LogLevel.ofText (text : String) : Except Fault LogLevel :=
  match LogLevel.ofText? text with
  | some level => .ok level
  | none => .error (.unknownVariant text (LogLevel.spellings.map (·.1)))

/-- Read a level: its spelling, or an object with the spelling as its only name and null as the
value. -/
def LogLevel.read (depth : Nat) : Reader LogLevel := do
  match ← Json.Reader.peek with
  | none => throw .endInValue
  | some '"' => liftM (LogLevel.ofText (← Json.Reader.string))
  | some '\x7b' =>
    let _ ← Json.Reader.descend depth
    Json.Reader.eat
    match ← Json.Reader.nextName true with
    | none => throw .expectedValue
    | some text =>
    let level ← liftM (LogLevel.ofText text)
    Json.Reader.colon
    Json.Reader.readNull
    match ← Json.Reader.peek with
    | some '\x7d' => Json.Reader.eat; return level
    | some _ => throw .expectedValue
    | none => throw .endInObject
  | some _ => throw .expectedValue

/-- The level that a JSON value stands for. -/
def LogLevel.ofJson : Json → Except Fault LogLevel
  | .string text => LogLevel.ofText text
  | .object [(text, v)] => do
    let level ← LogLevel.ofText text
    match v with
    | .null => return level
    | v => throw (.invalidType v.found "unit")
  | .object _ => .error (.invalidValue .map "map with a single key")
  | v => .error (.invalidType v.found "string or map")

/-- The pattern with a given text; an empty text stands for none. -/
def TriggerPattern.ofSetting (text : String) : Except Fault (Option TriggerPattern) :=
  if text = "" then .ok none
  else match TriggerPattern.ofText? text with
    | some p => .ok (some p)
    | none => .error (.invalidPattern text)

/-- Read a pattern, where null or an empty text stands for none. -/
def TriggerPattern.read : Reader (Option TriggerPattern) := do
  match ← Json.Reader.readOptional Json.Reader.readText with
  | none => return none
  | some text => liftM (TriggerPattern.ofSetting text)

/-! ## The document -/

namespace Settings

def readField (key : Setting) (depth : Nat) (s : Settings) : Reader Settings := do
  let text (_ : Nat) := Json.Reader.readText
  match key with
  | .virtualenv => return { s with virtualenv := ← PerPlatform.read "" text depth }
  | .interpreter => return { s with interpreter := ← PerPlatform.read "" text depth }
  | .packagePaths =>
    let paths := Json.Reader.readList Json.Reader.readText
    return { s with packagePaths := ← PerPlatform.read [] paths depth }
  | .functionParams => return { s with functionParams := ← FunctionParams.read depth }
  | .completionTimeout => return { s with completionTimeout := ← Json.Reader.readWord }
  | .triggerPattern => return { s with triggerPattern := ← TriggerPattern.read }
  | .fuzzy => return { s with fuzzy := ← Json.Reader.readBool }
  | .visibility => return { s with visibility := .ofText (← Json.Reader.readText) }
  | .commandsScope => return { s with commandsScope := ← Json.Reader.readText }
  | .enableInRepl => return { s with enableInRepl := ← Json.Reader.readBool }
  | .loggingLevel => return { s with loggingLevel := ← LogLevel.read depth }

def fields : List (RecordField Settings) := Setting.all.map fun key ↦ ⟨key.name, readField key⟩

/-- The settings that a document describes. -/
def parse (text : String) : Except Fault Settings :=
  Json.Reader.readDocument
    (Json.Reader.readRecord "Settings" fields Json.maxDepth default) text

end Settings

def PerPlatform.parsePaths (text : String) : Except Fault (PerPlatform (List String)) :=
  Json.Reader.readDocument
    (PerPlatform.read [] (Json.Reader.readList Json.Reader.readText) Json.maxDepth) text

end CodeHints
