import CodeHints.Decimal.Shortest
import CodeHints.Text.Quoted

/-!
# What can be wrong with a document

The causes for which a JSON document is refused, their messages and their categories. A document
is read from front to back and the first fault wins; `Fault` does not say where it was.
-/

namespace CodeHints.Json

/-- A number as a reader sees it. Whole numbers that fit in 64 bits stay whole. -/
inductive Number where
  | natural (value : Nat)
  /-- `negative n` is the number `-n`. -/
  | negative (magnitude : Nat)
  | float (value : Float)

/-- How floating point numbers are shown: positional from `0.00001` up to sixteen digits before
the point. -/
def floatLayout : Decimal.Layout := ⟨16, -5, "e+", "e-"⟩

/-- The shortest text that reads back as the same floating point number. -/
def floatText (x : Float) : String :=
  let bits := x.toBits.toNat
  let sign := if bits < 0x8000000000000000 then "" else "-"
  let magnitude := bits % 0x8000000000000000
  if magnitude == 0 then sign ++ "0.0"
  else sign ++ floatLayout.write (Decimal.stripZeros 20 (Decimal.ofBits magnitude).shortest)

/-- The kind of value that stood where another kind was expected. -/
inductive Found where
  | null
  | bool (value : Bool)
  | number (value : Number)
  | string (value : String)
  | sequence
  | map

def Found.text : Found → String
  | .null => "null"
  | .bool b => "boolean `" ++ toString b ++ "`"
  | .number (.natural n) => "integer `" ++ toString n ++ "`"
  | .number (.negative n) => "integer `-" ++ toString n ++ "`"
  | .number (.float x) => "floating point `" ++ floatText x ++ "`"
  | .string s => "string " ++ Text.quoted s
  | .sequence => "sequence"
  | .map => "map"

/-- The rough kind of a fault: the text ended early, is no JSON, or does not fit the settings. -/
inductive Category where
  | endOfText
  | malformed
  | unfit
  deriving DecidableEq, Repr

/-- Why a document was refused. -/
inductive Fault where
  | endInValue
  | endInList
  | endInObject
  | endInString
  | expectedValue
  | expectedIdent
  | expectedColon
  | expectedListCommaOrEnd
  | expectedObjectCommaOrEnd
  | keyMustBeString
  | trailingComma
  | trailingCharacters
  | invalidNumber
  | numberOutOfRange
  | invalidEscape
  | unexpectedEndOfHexEscape
  | loneLeadingSurrogate
  | controlCharacter
  | recursionLimit
  /-- A value of another type than the expected one. -/
  | invalidType (found : Found) (expected : String)
  /-- A value of the right type that is not allowed. -/
  | invalidValue (found : Found) (expected : String)
  | duplicateField (name : String)
  | unknownVariant (name : String) (known : List String)
  | noMatchingVariant (type : String)
  /-- A trigger pattern that does not compile. -/
  | invalidPattern (pattern : String)

/-- Names between backquotes, separated by commas. -/
def backquoted (names : List String) : String :=
  String.intercalate ", " (names.map fun n ↦ "`" ++ n ++ "`")

/-- The message about a trigger pattern that does not compile. -/
def patternMessage (pattern : String) : String :=
  "invalid completion trigger pattern " ++ Text.quoted pattern

/-- The message of a fault. -/
def Fault.message : Fault → String
  | .endInValue => "EOF while parsing a value"
  | .endInList => "EOF while parsing a list"
  | .endInObject => "EOF while parsing an object"
  | .endInString => "EOF while parsing a string"
  | .expectedValue => "expected value"
  | .expectedIdent => "expected ident"
  | .expectedColon => "expected `:`"
  | .expectedListCommaOrEnd => "expected `,` or `]`"
  | .expectedObjectCommaOrEnd => "expected `,` or `\x7d`"
  | .keyMustBeString => "key must be a string"
  | .trailingComma => "trailing comma"
  | .trailingCharacters => "trailing characters"
  | .invalidNumber => "invalid number"
  | .numberOutOfRange => "number out of range"
  | .invalidEscape => "invalid escape"
  | .unexpectedEndOfHexEscape => "unexpected end of hex escape"
  | .loneLeadingSurrogate => "lone leading surrogate in hex escape"
  | .controlCharacter => "control character (\\u0000-\\u001F) found while parsing a string"
  | .recursionLimit => "recursion limit exceeded"
  | .invalidType found expected => "invalid type: " ++ found.text ++ ", expected " ++ expected
  | .invalidValue found expected => "invalid value: " ++ found.text ++ ", expected " ++ expected
  | .duplicateField name => "duplicate field `" ++ name ++ "`"
  | .unknownVariant name known =>
    "unknown variant `" ++ name ++ "`, expected one of " ++ backquoted known
  | .noMatchingVariant type => "data did not match any variant of untagged enum " ++ type
  | .invalidPattern pattern => patternMessage pattern

def Fault.category : Fault → Category
  | .endInValue | .endInList | .endInObject | .endInString => .endOfText
  | .invalidType .. | .invalidValue .. | .duplicateField .. | .unknownVariant ..
  | .noMatchingVariant .. | .invalidPattern .. => .unfit
  | _ => .malformed

end CodeHints.Json
