import CodeHints.Json.Fault

/-!
# Blanks, names, strings and numbers of JSON

The smallest pieces of a document, each read from the front of a list of characters. A reader
returns what it read and the characters that follow.

Strings and numbers come in two strengths. A value that is wanted is decoded, so its surrogate
escapes must pair up and its number must fit. A value that is passed over only has to be well
formed: `skipString` does not pair surrogates and `skipNumber` does not look at sizes.
-/

namespace CodeHints.Json

/-- The four characters that may stand between tokens. -/
def isBlank (c : Char) : Bool := c == ' ' || c == '\n' || c == '\t' || c == '\r'

/-- The text from its first character that is no blank. -/
def skipBlanks (s : List Char) : List Char := s.dropWhile isBlank

/-- Read exactly the characters of `name`. -/
def readIdent : List Char → List Char → Except Fault (List Char)
  | [], rest => .ok rest
  | _ :: _, [] => .error .endInValue
  | c :: name, d :: rest => if c = d then readIdent name rest else .error .expectedIdent

/-! ## Strings -/

/-- The value of a hexadecimal digit of either case. -/
def hexValue? (c : Char) : Option Nat :=
  if '0' ≤ c ∧ c ≤ '9' then some (c.toNat - 48)
  else if 'a' ≤ c ∧ c ≤ 'f' then some (c.toNat - 87)
  else if 'A' ≤ c ∧ c ≤ 'F' then some (c.toNat - 55)
  else none

/-- The value of four hexadecimal digits. -/
def hex4? (a b c d : Char) : Option Nat := do
  let a ← hexValue? a
  let b ← hexValue? b
  let c ← hexValue? c
  let d ← hexValue? d
  return ((a * 16 + b) * 16 + c) * 16 + d

/-- The fault of a text with fewer than four characters left for a hexadecimal escape: it ends too
early, unless characters of several bytes fill the place of the four digits. -/
def shortHex (rest : List Char) : Fault :=
  if (String.ofList rest).utf8ByteSize < 4 then .endInString else .invalidEscape

/-- The character behind a backslash other than `u`. -/
def simpleEscape? (c : Char) : Option Char :=
  if c = '"' ∨ c = '\\' ∨ c = '/' then some c
  else if c = 'b' then some '\x08'
  else if c = 'f' then some '\x0c'
  else if c = 'n' then some '\n'
  else if c = 'r' then some '\r'
  else if c = 't' then some '\t'
  else none

/-- The first half of a surrogate pair. -/
def isHighSurrogate (n : Nat) : Bool := 0xD800 ≤ n && n ≤ 0xDBFF

def isLowSurrogate (n : Nat) : Bool := 0xDC00 ≤ n && n ≤ 0xDFFF

/-- The character of a surrogate pair. -/
def surrogatePair (high low : Nat) : Char :=
  Char.ofNat (0x10000 + (high - 0xD800) * 0x400 + (low - 0xDC00))

/-- Put a character in front of a string that was read. -/
def consChar (c : Char) :
    Except Fault (List Char × List Char) → Except Fault (List Char × List Char)
  | .ok (cs, rest) => .ok (c :: cs, rest)
  | .error fault => .error fault

/-- Read a string up to its closing quotation mark and decode its escapes. -/
def readString : List Char → Except Fault (List Char × List Char)
  | [] => .error .endInString
  | c :: rest =>
    if c = '"' then .ok ([], rest)
    else if c = '\\' then
      match rest with
      | [] => .error .endInString
      | 'u' :: x₁ :: x₂ :: x₃ :: x₄ :: tail =>
        match hex4? x₁ x₂ x₃ x₄ with
        | none => .error .invalidEscape
        | some n =>
          if isLowSurrogate n then .error .loneLeadingSurrogate
          else if isHighSurrogate n then
            match tail with
            | [] => .error .endInString
            | '\\' :: 'u' :: y₁ :: y₂ :: y₃ :: y₄ :: tail' =>
              match hex4? y₁ y₂ y₃ y₄ with
              | none => .error .invalidEscape
              | some m =>
                if isLowSurrogate m then consChar (surrogatePair n m) (readString tail')
                else .error .loneLeadingSurrogate
            | '\\' :: 'u' :: short => .error (shortHex short)
            | ['\\'] => .error .endInString
            | _ :: _ => .error .unexpectedEndOfHexEscape
          else consChar (Char.ofNat n) (readString tail)
      | 'u' :: short => .error (shortHex short)
      | e :: tail =>
        match simpleEscape? e with
        | some c => consChar c (readString tail)
        | none => .error .invalidEscape
    else if c.toNat < 32 then .error .controlCharacter
    else consChar c (readString rest)

/-- Pass over a string up to its closing quotation mark. -/
def skipString : List Char → Except Fault (List Char)
  | [] => .error .endInString
  | c :: rest =>
    if c = '"' then .ok rest
    else if c = '\\' then
      match rest with
      | [] => .error .endInString
      | 'u' :: x₁ :: x₂ :: x₃ :: x₄ :: tail =>
        match hex4? x₁ x₂ x₃ x₄ with
        | none => .error .invalidEscape
        | some _ => skipString tail
      | 'u' :: short => .error (shortHex short)
      | e :: tail =>
        match simpleEscape? e with
        | some _ => skipString tail
        | none => .error .invalidEscape
    else if c.toNat < 32 then .error .controlCharacter
    else skipString rest

/-! ## Numbers -/

def isDigit (c : Char) : Bool := '0' ≤ c && c ≤ '9'

/-- The digits at the front of a text, and the rest. -/
def spanDigits (s : List Char) : List Char × List Char := (s.takeWhile isDigit, s.dropWhile isDigit)

/-- The written parts of a number without its sign. -/
structure NumberText where
  whole : List Char
  /-- The digits after the point, if there is one. -/
  fraction : Option (List Char)
  /-- The exponent, if there is one: whether it is negative, and its digits. -/
  exponent : Option (Bool × List Char)

/-- The fault of a place where a digit is missing: `atEnd` if the text ends there. -/
def missingDigit (atEnd : Fault) : List Char → Fault
  | [] => atEnd
  | _ :: _ => .invalidNumber

/-- Read the digits before the point: a zero alone, or a number without leading zeros. -/
def readWhole (atEnd : Fault) : List Char → Except Fault (List Char × List Char)
  | '0' :: rest =>
    match rest with
    | c :: _ => if isDigit c then .error .invalidNumber else .ok (['0'], rest)
    | [] => .ok (['0'], [])
  | s =>
    match spanDigits s with
    | ([], rest) => .error (missingDigit atEnd rest)
    | found => .ok found

def readFraction (atEnd : Fault) : List Char → Except Fault (Option (List Char) × List Char)
  | '.' :: rest =>
    match spanDigits rest with
    | ([], rest) => .error (missingDigit atEnd rest)
    | (digits, rest) => .ok (some digits, rest)
  | s => .ok (none, s)

/-- The optional sign of an exponent: whether it is negative, and the rest. -/
def exponentSign : List Char → Bool × List Char
  | '+' :: rest => (false, rest)
  | '-' :: rest => (true, rest)
  | s => (false, s)

def readExponent (atEnd : Fault) : List Char → Except Fault (Option (Bool × List Char) × List Char)
  | [] => .ok (none, [])
  | c :: rest =>
    if c = 'e' ∨ c = 'E' then
      let (negative, rest) := exponentSign rest
      match spanDigits rest with
      | ([], rest) => .error (missingDigit atEnd rest)
      | (digits, rest) => .ok (some (negative, digits), rest)
    else .ok (none, c :: rest)

/-- Read the parts of a number that follow its sign. `atEnd` is the fault of a text that ends
where a digit must stand. -/
def readNumberText (atEnd : Fault) (s : List Char) : Except Fault (NumberText × List Char) := do
  let (whole, s) ← readWhole atEnd s
  let (fraction, s) ← readFraction atEnd s
  let (exponent, s) ← readExponent atEnd s
  return (⟨whole, fraction, exponent⟩, s)

/-- Pass over the parts of a number that follow its sign. -/
def skipNumber (s : List Char) : Except Fault (List Char) :=
  (readNumberText .invalidNumber s).map (·.2)

/-- The largest number of 64 bits. -/
def maxWord : Nat := 0xffffffffffffffff

/-- The largest exponent that is told apart from infinity. -/
def maxExponent : Nat := 0x7fffffff

/-- Take up digits as long as the number fits in 64 bits: the number, and the digits that are left
over from the first one on that does not fit. -/
def absorb (n : Nat) : List Char → Nat × List Char
  | [] => (n, [])
  | c :: rest =>
    let next := n * 10 + (c.toNat - 48)
    if next ≤ maxWord then absorb next rest else (n, c :: rest)

/-- The power of ten `10 ^ k`, for `k` up to 308. -/
def tenTo (k : Nat) : Float := Float.ofScientific 1 false k

/-- `x · 10 ^ e`, computed by one multiplication or division where the power of ten is finite. An
overflow is a fault and an underflow gives zero. -/
def scale (fuel : Nat) (x : Float) (e : Int) : Except Fault Float :=
  if e.natAbs ≤ 308 then
    if 0 ≤ e then
      let y := x * tenTo e.natAbs
      if y.isInf then .error .numberOutOfRange else .ok y
    else .ok (x / tenTo e.natAbs)
  else if x == 0 then .ok x
  else if 0 ≤ e then .error .numberOutOfRange
  else
    match fuel with
    | 0 => .ok 0
    | fuel + 1 => scale fuel (x / tenTo 308) (e + 308)

def digitsValue (digits : List Char) : Nat := digits.foldl (fun n c ↦ n * 10 + (c.toNat - 48)) 0

/-- A whole number with its sign, if it fits in 64 bits; minus zero and larger numbers are
floating point. -/
def wholeNumber (negative : Bool) (n : Nat) : Number :=
  if negative then
    if n = 0 ∨ 0x8000000000000000 < n then .float (-Float.ofNat n) else .negative n
  else .natural n

/-- The value of a number. Digits beyond the first 64 bits only count as powers of ten before the
point and not at all after it. -/
def NumberText.value (t : NumberText) (negative : Bool) : Except Fault Number := do
  let (n, left) := absorb 0 t.whole
  if left.isEmpty && t.fraction.isNone && t.exponent.isNone then
    return wholeNumber negative n
  let fraction := t.fraction.getD []
  let (n, unused) := absorb n fraction
  let start : Int := (left.length : Int) - ((fraction.length : Int) - unused.length)
  let sign (x : Float) : Number := .float (if negative then -x else x)
  match t.exponent with
  | none => return sign (← scale 1000 (Float.ofNat n) start)
  | some (down, digits) =>
    let e := digitsValue digits
    if maxExponent < e then
      if n ≠ 0 ∧ !down then throw .numberOutOfRange
      return sign 0
    return sign (← scale 1000 (Float.ofNat n) (if down then start - e else start + e))

/-- Read the value of a number whose sign has been read. -/
def readNumber (negative : Bool) (s : List Char) : Except Fault (Number × List Char) := do
  let (t, rest) ← readNumberText .endInValue s
  return (← t.value negative, rest)

end CodeHints.Json
