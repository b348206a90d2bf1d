import CodeHints.Settings.Reader

/-!
# Writing settings documents

Settings as a JSON object with every setting, in the order of declaration, and the patching of such
an object. `Settings.patched` replaces whole values by name and reads the result again, so a patch
can only lead to settings that some document describes.
-/

namespace CodeHints

def PerPlatform.toJson {α : Type} (element : α → Json) (v : PerPlatform α) : Json :=
  .object (Platform.all.map fun p ↦ (p.name, element (v.get p)))

def FunctionParams.toJson : FunctionParams → Json
  | .off => .bool false
  | mode => .string mode.name

namespace Settings

def fieldJson (s : Settings) : Setting → Json
  | .virtualenv => s.virtualenv.toJson .string
  | .interpreter => s.interpreter.toJson .string
  | .packagePaths => s.packagePaths.toJson Json.ofStrings
  | .functionParams => s.functionParams.toJson
  | .completionTimeout => .ofNat s.completionTimeout
  | .triggerPattern => match s.triggerPattern with
    | some p => .string p.text
    | none => .null
  | .fuzzy => .bool s.fuzzy
  | .visibility => .string s.visibility.text
  | .commandsScope => .string s.commandsScope
  | .enableInRepl => .bool s.enableInRepl
  | .loggingLevel => .string s.loggingLevel.name

/-- The settings as an object. -/
def toJson (s : Settings) : Json := .object (Setting.all.map fun key ↦ (key.name, s.fieldJson key))

def text (s : Settings) : String := s.toJson.text

/-- Replace the value of one member, or add it in the place where its name belongs in order. -/
def putMember (name : String) (v : Json) : List (String × Json) → List (String × Json)
  | [] => [(name, v)]
  | (other, w) :: rest =>
    if other = name then (name, v) :: rest
    else if name < other then (name, v) :: (other, w) :: rest
    else (other, w) :: putMember name v rest

/-- The members of a patched object, ordered by their names. -/
def patchMembers (base patch : List (String × Json)) : List (String × Json) :=
  (base ++ patch).foldl (fun acc m ↦ putMember m.1 m.2 acc) []

/-- The settings with the values of a patch in place of their own. -/
def patched (s : Settings) (patch : List (String × Json)) : Except Json.Fault Settings :=
  parse (Json.object (patchMembers s.toJson.members patch)).text

end Settings

end CodeHints
