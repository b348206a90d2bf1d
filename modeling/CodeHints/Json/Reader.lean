import CodeHints.Json.Token
import CodeHints.Json.Value

/-!
# Reading documents from front to back

A reader takes characters off the front of the text and stops at the first fault. Everything that
is decoded is decoded while it is read, so a value of the wrong type is reported even if the text
after it is damaged.

* `readValue` reads any value whole; `skipValue` only makes sure that one is there.
* `readList` reads a list of equal things.
* `readRecord` reads a record from its two written forms: an object that names its fields, or an
  array that gives them by position. Fields that are missing keep the value they started with,
  members with an unknown name are passed over, and a name that occurs twice is a fault.

Values that are decoded may be nested at most `maxDepth - 1` deep. Values that are passed over have
no such limit.
-/

namespace CodeHints.Json

/-- A computation that takes characters off the front of a text. -/
abbrev Reader (α : Type) := StateT (List Char) (Except Fault) α

/-- One more than the greatest nesting of lists and objects that are decoded. -/
def maxDepth : Nat := 128

namespace Reader

/-- Pass over blanks and look at the character that follows. -/
def peek : Reader (Option Char) := fun s ↦
  let s := skipBlanks s
  .ok (s.head?, s)

/-- Take the next character off. -/
def eat : Reader Unit := modify List.tail

/-- Take off the characters of a name, of which the first has been seen. -/
def ident (name : String) : Reader Unit := fun s ↦ (readIdent name.toList s).map (((), ·))

/-- Read a string whose opening quotation mark comes next. -/
def string : Reader String := fun s ↦ do
  let (cs, rest) ← readString s.tail
  return (String.ofList cs, rest)

def number : Reader Number := fun s ↦
  match s with
  | '-' :: rest => readNumber true rest
  | _ => readNumber false s

/-- What the next value is, for a message about its type. Its own faults come first, as far as a
string, a number or a name goes. -/
def found : Reader Found := fun s ↦
  match s with
  | 'n' :: _ => (readIdent "null".toList s).map ((.null, ·))
  | 't' :: _ => (readIdent "true".toList s).map ((.bool true, ·))
  | 'f' :: _ => (readIdent "false".toList s).map ((.bool false, ·))
  | '"' :: _ => (string s).map fun (text, rest) ↦ (.string text, rest)
  | '[' :: _ => .ok (.sequence, s)
  | '\x7b' :: _ => .ok (.map, s)
  | c :: _ =>
    if c = '-' ∨ isDigit c then (number s).map fun (n, rest) ↦ (.number n, rest)
    else .error .expectedValue
  | [] => .error .expectedValue

/-- Refuse the next value because something else was expected. -/
def refuse {α : Type} (expected : String) : Reader α := do
  throw (.invalidType (← found) expected)

/-- The next character after blanks, which must be there. -/
def peekValue : Reader Char := do
  match ← peek with
  | some c => return c
  | none => throw .endInValue

/-- The colon between a name and its value. -/
def colon : Reader Unit := do
  match ← peek with
  | some ':' => eat
  | some _ => throw .expectedColon
  | none => throw .endInObject

/-- The nesting that is left inside one more list or object. -/
def descend (depth : Nat) : Reader Nat :=
  if depth ≤ 1 then throw .recursionLimit else return depth - 1

/-! ## Lists and members -/

/-- Whether another element of a list follows; `first` before the first one. -/
def nextElement (first : Bool) : Reader Bool := do
  match ← peek with
  | none => throw .endInList
  | some ']' => return false
  | some c =>
    if first then return true
    else if c = ',' then
      eat
      match ← peek with
      | some ']' => throw .trailingComma
      | some _ => return true
      | none => throw .endInValue
    else throw .expectedListCommaOrEnd

/-- The end of a list that takes no more elements. -/
def endList : Reader Unit := do
  match ← peek with
  | some ']' => eat
  | some ',' =>
    eat
    match ← peek with
    | some ']' => throw .trailingComma
    | _ => throw .trailingCharacters
  | some _ => throw .trailingCharacters
  | none => throw .endInList

/-- The name of the next member of an object, if another one follows; `first` before the first
one. -/
def nextName (first : Bool) : Reader (Option String) := do
  match ← peek with
  | none => throw .endInObject
  | some '\x7d' => return none
  | some c =>
    if first then
      if c = '"' then some <$> string else throw .keyMustBeString
    else if c = ',' then
      eat
      match ← peek with
      | some '"' => some <$> string
      | some '\x7d' => throw .trailingComma
      | some _ => throw .keyMustBeString
      | none => throw .endInValue
    else throw .expectedObjectCommaOrEnd

/-! ## Any value -/

/-- The characters that a reader took off, together with its answer. -/
def withText {α : Type} (r : Reader α) : Reader (α × String) := fun s ↦ do
  let (a, rest) ← r s
  return ((a, String.ofList (s.take (s.length - rest.length))), rest)

mutual

/-- Read a value whole, with at most `fuel` steps. -/
def valueWithin : Nat → Nat → Reader Json
  | 0, _ => throw .endInValue
  | fuel + 1, depth => do
    match ← peekValue with
    | 'n' => ident "null"; return .null
    | 't' => ident "true"; return .bool true
    | 'f' => ident "false"; return .bool false
    | '"' => return .string (← string)
    | '[' =>
      let depth ← descend depth
      eat
      let items ← itemsWithin fuel depth true
      endList
      return .array items
    | '\x7b' =>
      let depth ← descend depth
      eat
      let ms ← membersWithin fuel depth true
      eat
      return .object ms
    | c =>
      if c = '-' ∨ isDigit c then return .number (← withText number).2
      else throw .expectedValue

/-- Read the elements of a list up to its end. -/
def itemsWithin : Nat → Nat → Bool → Reader (List Json)
  | 0, _, _ => throw .endInList
  | fuel + 1, depth, first => do
    if ← nextElement first then
      let v ← valueWithin fuel depth
      return v :: (← itemsWithin fuel depth false)
    else return []

def membersWithin : Nat → Nat → Bool → Reader (List (String × Json))
  | 0, _, _ => throw .endInObject
  | fuel + 1, depth, first => do
    match ← nextName first with
    | none => return []
    | some name =>
      colon
      let v ← valueWithin fuel depth
      return (name, v) :: (← membersWithin fuel depth false)

end

/-- Steps that are enough to read or pass over any value in a text. -/
def stepsFor (s : List Char) : Nat := 2 * s.length + 2

def readValue (depth : Nat) : Reader Json := fun s ↦ valueWithin (stepsFor s) depth s

mutual

/-- Pass over a value, with at most `fuel` steps. -/
def skipWithin : Nat → List Char → Except Fault (List Char)
  | 0, _ => .error .endInValue
  | fuel + 1, s =>
    match skipBlanks s with
    | [] => .error .endInValue
    | 'n' :: rest => readIdent "ull".toList rest
    | 't' :: rest => readIdent "rue".toList rest
    | 'f' :: rest => readIdent "alse".toList rest
    | '"' :: rest => skipString rest
    | '-' :: rest => skipNumber rest
    | '[' :: rest =>
      match skipBlanks rest with
      | [] => .error .endInList
      | ']' :: rest => .ok rest
      | s => do skipItems fuel (← skipWithin fuel s)
    | '\x7b' :: rest =>
      match skipBlanks rest with
      | [] => .error .endInObject
      | '\x7d' :: rest => .ok rest
      | s => skipMember fuel s
    | c :: rest => if isDigit c then skipNumber (c :: rest) else .error .expectedValue

/-- Pass over what follows an element of a list. -/
def skipItems : Nat → List Char → Except Fault (List Char)
  | 0, _ => .error .endInList
  | fuel + 1, s =>
    match skipBlanks s with
    | [] => .error .endInList
    | ']' :: rest => .ok rest
    | ',' :: rest => do skipItems fuel (← skipWithin fuel rest)
    | _ :: _ => .error .expectedListCommaOrEnd

/-- Pass over a member of an object and what follows it. -/
def skipMember : Nat → List Char → Except Fault (List Char)
  | 0, _ => .error .endInObject
  | fuel + 1, s =>
    match skipBlanks s with
    | [] => .error .endInObject
    | '"' :: rest => do
      let rest ← skipString rest
      match skipBlanks rest with
      | [] => .error .endInObject
      | ':' :: rest =>
        let rest ← skipWithin fuel rest
        match skipBlanks rest with
        | [] => .error .endInObject
        | '\x7d' :: rest => .ok rest
        | ',' :: rest => skipMember fuel rest
        | _ :: _ => .error .expectedObjectCommaOrEnd
      | _ :: _ => .error .expectedColon
    | _ :: _ => .error .keyMustBeString

end

/-- Pass over any value. -/
def skipValue : Reader Unit := fun s ↦ (skipWithin (stepsFor s) s).map (((), ·))

/-! ## Wanted values -/

def readText : Reader String := do
  if (← peekValue) = '"' then string else refuse "a string"

def readBool : Reader Bool := do
  match ← peekValue with
  | 't' => ident "true"; return true
  | 'f' => ident "false"; return false
  | _ => refuse "a boolean"

def readWord : Reader Nat := do
  let c ← peekValue
  if c = '-' ∨ isDigit c then
    match ← number with
    | .natural n => return n
    | .negative n => throw (.invalidValue (.number (.negative n)) "u64")
    | .float x => throw (.invalidType (.number (.float x)) "u64")
  else refuse "u64"

/-- The value null. -/
def readNull : Reader Unit := do
  if (← peekValue) = 'n' then ident "null" else refuse "unit"

/-- A value or null. -/
def readOptional {α : Type} (r : Reader α) : Reader (Option α) := do
  if (← peek) = some 'n' then
    ident "null"
    return none
  else some <$> r

/-- The elements of a list up to its end, with at most `fuel` steps. -/
def elementsWithin {α : Type} (element : Reader α) : Nat → Bool → Reader (List α)
  | 0, _ => throw .endInList
  | fuel + 1, first => do
    if ← nextElement first then
      let a ← element
      return a :: (← elementsWithin element fuel false)
    else return []

def readList {α : Type} (element : Reader α) (depth : Nat) : Reader (List α) := do
  if (← peekValue) = '[' then
    let _ ← descend depth
    eat
    let items ← elementsWithin element (← get).length.succ true
    endList
    return items
  else refuse "a sequence"

/-! ## Records -/

/-- A field of a record that is read into a state: its name, and how its value, nested so deep,
changes the state. -/
structure RecordField (σ : Type) where
  name : String
  read : Nat → σ → Reader σ

/-- Read fields by position until the list ends. -/
def readPositions {σ : Type} (depth : Nat) : List (RecordField σ) → Bool → σ → Reader σ
  | [], _, state => return state
  | field :: rest, first, state => do
    if ← nextElement first then
      readPositions depth rest false (← field.read depth state)
    else return state

/-- Read fields by name until the object ends, with at most `fuel` members. `seen` holds the names
that have occurred. -/
def readNamed {σ : Type} (depth : Nat) (fields : List (RecordField σ)) :
    Nat → Bool → List String → σ → Reader σ
  | 0, _, _, _ => throw .endInObject
  | fuel + 1, first, seen, state => do
    match ← nextName first with
    | none => return state
    | some name =>
      match fields.find? (·.name == name) with
      | some field =>
        if seen.contains name then throw (.duplicateField name)
        colon
        readNamed depth fields fuel false (name :: seen) (← field.read depth state)
      | none =>
        colon
        skipValue
        readNamed depth fields fuel false seen state

/-- A record, from an object that names its fields or from an array that gives them in order. -/
def readRecord {σ : Type} (type : String) (fields : List (RecordField σ)) (depth : Nat)
    (start : σ) : Reader σ := do
  match ← peekValue with
  | '[' =>
    let depth ← descend depth
    eat
    let state ← readPositions depth fields true start
    endList
    return state
  | '\x7b' =>
    let depth ← descend depth
    eat
    let state ← readNamed depth fields (← get).length.succ true [] start
    eat
    return state
  | _ => refuse ("struct " ++ type)

/-! ## Documents -/

/-- Read a text that holds one value and nothing else but blanks. -/
def readDocument {α : Type} (r : Reader α) (text : String) : Except Fault α := do
  let (a, rest) ← r text.toList
  match skipBlanks rest with
  | [] => return a
  | _ :: _ => throw .trailingCharacters

end Reader

/-- The value that a text holds. -/
def parse (text : String) : Except Fault Json :=
  Reader.readDocument (Reader.readValue (text.length + 2)) text

/-- What a value is, for a message about its type. -/
def found : Json → Found
  | .null => .null
  | .bool b => .bool b
  | .string s => .string s
  | .array _ => .sequence
  | .object _ => .map
  | .number text =>
    match Reader.number text.toList with
    | .ok (n, _) => .number n
    | .error _ => .number (.natural 0)

end CodeHints.Json
