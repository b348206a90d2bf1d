/-!
# JSON values and their compact text

A JSON value as the rest of the library holds it. Numbers keep the text they were written with:
nothing here calculates with them, and keeping the text means that a value read and written again
is the same value, whatever its size or precision.

`Json.text` writes a value with no blanks between tokens. `Json.quote` is the written form of a
string: a quotation mark, a backslash and the control characters are escaped and every other
character stands for itself.
-/

namespace CodeHints

/-- A JSON value. Members of an object keep the order in which they were written. -/
inductive Json where
  | null
  | bool (value : Bool)
  /-- A number, as it was written. -/
  | number (text : String)
  | string (value : String)
  | array (items : List Json)
  | object (members : List (String × Json))
  deriving Inhabited

namespace Json

/-- The number written for a natural number. -/
def ofNat (n : Nat) : Json := .number (toString n)

/-- A list of strings. -/
def ofStrings (items : List String) : Json := .array (items.map .string)

/-- The members of an object; any other value has none. -/
def members : Json → List (String × Json)
  | .object ms => ms
  | _ => []

/-- The value of the last member called `name`, unless it is missing or null. -/
def field? (v : Json) (name : String) : Option Json :=
  match v.members.reverse.lookup name with
  | some .null => none
  | found => found

def hexDigit (n : Nat) : Char :=
  if n < 10 then Char.ofNat (48 + n) else Char.ofNat (87 + n)

/-- How one character stands inside a quoted string. -/
def escapeChar (c : Char) : List Char :=
  if c = '"' then ['\\', '"']
  else if c = '\\' then ['\\', '\\']
  else if c = '\x08' then ['\\', 'b']
  else if c = '\x0c' then ['\\', 'f']
  else if c = '\n' then ['\\', 'n']
  else if c = '\r' then ['\\', 'r']
  else if c = '\t' then ['\\', 't']
  else if c.toNat < 32 then
    ['\\', 'u', '0', '0', hexDigit (c.toNat / 16), hexDigit (c.toNat % 16)]
  else [c]

/-- A string between quotation marks, with its special characters escaped. -/
def quote (s : String) : List Char :=
  '"' :: (s.toList.flatMap escapeChar ++ ['"'])

/-- Texts one after another with commas between them. -/
def commaSeparated : List (List Char) → List Char
  | [] => []
  | [t] => t
  | t :: rest => t ++ ',' :: commaSeparated rest

mutual

/-- The characters of a value written with no blanks between tokens. -/
def chars : Json → List Char
  | .null => "null".toList
  | .bool true => "true".toList
  | .bool false => "false".toList
  | .number text => text.toList
  | .string s => quote s
  | .array items => '[' :: (commaSeparated (itemChars items) ++ [']'])
  | .object ms => '{' :: (commaSeparated (memberChars ms) ++ ['}'])

def itemChars : List Json → List (List Char)
  | [] => []
  | v :: rest => chars v :: itemChars rest

def memberChars : List (String × Json) → List (List Char)
  | [] => []
  | (name, v) :: rest => (quote name ++ ':' :: chars v) :: memberChars rest

end

/-- The text of a value written with no blanks between tokens. -/
def text (v : Json) : String := String.ofList v.chars

end Json

end CodeHints
