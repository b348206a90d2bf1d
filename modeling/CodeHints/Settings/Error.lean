import CodeHints.Json.Fault

/-!
# Errors of loading settings
-/

namespace CodeHints

/-- Why a file could not be read as text. -/
inductive FileFault where
  | notFound
  | isDirectory
  | notUtf8
  deriving DecidableEq, Repr

def FileFault.message : FileFault → String
  | .notFound => "No such file or directory (os error 2)"
  | .isDirectory => "Is a directory (os error 21)"
  | .notUtf8 => "stream did not contain valid UTF-8"

/-- Why settings could not be loaded. -/
inductive SettingsError where
  /-- The file cannot be read. -/
  | file (path : String) (fault : FileFault)
  /-- The document is no JSON, or its values do not fit. -/
  | document (fault : Json.Fault)
  /-- A trigger pattern does not compile. -/
  | pattern (text : String)
  /-- A store without a file was asked to read it again. -/
  | noSource

def SettingsError.message : SettingsError → String
  | .file path fault => "I/O error reading " ++ path ++ ": " ++ fault.message
  | .document fault => "settings parse error: " ++ fault.message
  | .pattern text => Json.patternMessage text
  | .noSource => "settings store has no backing file"

end CodeHints
