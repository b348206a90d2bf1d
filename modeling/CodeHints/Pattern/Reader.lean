import CodeHints.Pattern.Regex

/-!
# Reading patterns

The written form of regular expressions: literals, classes, groups, repetitions, assertions and
inline flags. There is no look-around and no reference back to a group.

A pattern is read in one pass. Flags are part of the reading state: a flag item such as `(?i)` holds
until the end of the group it stands in, across the bars between alternatives. `compile` also
refuses patterns that are nested too deep or that would need too many states.

A text is a sequence of characters, so a pattern that has switched Unicode off must not be able to
match half of one: its sets may only hold ASCII characters.
-/

namespace CodeHints.Pattern

/-- Why a pattern is refused. -/
inductive Refusal where
  | groupUnclosed
  | groupUnopened
  | groupName
  | duplicateGroupName
  | lookAround
  | backReference
  | flag
  | emptyFlags
  | repetitionMissing
  | repetitionCount
  | classUnclosed
  | classRange
  | classEscape
  | escape
  | hexEscape
  | unknownClass
  | unicodeNotAllowed
  | invalidEncoding
  | tooDeep
  | tooLarge
  deriving DecidableEq, Repr

/-- The flags that are in force at a place of a pattern. -/
structure Flags where
  ignoreCase : Bool := false
  multiLine : Bool := false
  dotMatchesNewline : Bool := false
  unicode : Bool := true
  crlf : Bool := false
  /-- Blanks and comments between items do not count. -/
  verbose : Bool := false

/-- What is left to read, the flags in force, and the names of the groups so far. -/
structure Cursor where
  rest : List Char
  flags : Flags
  names : List (List Char)

/-- A computation that reads part of a pattern. -/
abbrev Reading (α : Type) := StateT Cursor (Except Refusal) α

structure Piece where
  regex : Regex
  height : Nat

/-- An item of a sequence: an expression, or a change of flags. -/
inductive Item where
  | piece (p : Piece)
  | flags

namespace Reading

/-! ## Moving along -/

/-- A blank in the sense of the character tables. -/
def isSpace (c : Char) : Bool := Unicode.Property.whiteSpace.holds c

/-- Pass over blanks and comments. -/
def dropComments (inComment : Bool) : List Char → List Char
  | [] => []
  | c :: rest =>
    if inComment then dropComments (c != '\n') rest
    else if isSpace c then dropComments false rest
    else if c = '#' then dropComments true rest
    else c :: rest

/-- Pass over blanks and comments if they do not count. -/
def settle : Reading Unit :=
  modify fun s ↦ if s.flags.verbose then { s with rest := dropComments false s.rest } else s

def next? : Reading (Option Char) := return (← get).rest.head?

def bump : Reading Unit := modify fun s ↦ { s with rest := s.rest.tail }

/-- Take off the next character and the blanks after it that do not count. -/
def advance : Reading Unit := do bump; settle

/-- The next character, which must be there. -/
def require (refusal : Refusal) : Reading Char := do
  match ← next? with
  | some c => return c
  | none => throw refusal

/-- The character after the next one, over blanks that do not count. -/
def second? : Reading (Option Char) := do
  let s ← get
  let rest := s.rest.tail
  return (if s.flags.verbose then dropComments false rest else rest).head?

def takeText (text : List Char) : Reading Bool := do
  let s ← get
  if text.isPrefixOf s.rest then
    set { s with rest := s.rest.drop text.length }
    return true
  else return false

/-! ## Escapes -/

/-- What stands behind a backslash. -/
inductive Escape where
  /-- A character; `byte` if it was given by exactly two hexadecimal digits. -/
  | literal (c : Char) (byte : Bool)
  | perl (p : Perl) (negated : Bool)
  | named (n : Named) (negated : Bool)
  | look (kind : Look)

/-- Characters with a meaning of their own in patterns. -/
def isMeta (c : Char) : Bool := "\\.+*?()|[]\x7b\x7d^$#&-~".toList.contains c

/-- Characters that may have a backslash in front and still stand for themselves. -/
def isEscapable (c : Char) : Bool :=
  isMeta c || (c.toNat < 128 && !c.isAlphanum && c != '<' && c != '>')

def hexDigit? (c : Char) : Option Nat :=
  if '0' ≤ c ∧ c ≤ '9' then some (c.toNat - 48)
  else if 'a' ≤ c ∧ c ≤ 'f' then some (c.toNat - 87)
  else if 'A' ≤ c ∧ c ≤ 'F' then some (c.toNat - 55)
  else none

/-- The character with a number, if there is one. -/
def charOf (n : Nat) : Reading Char :=
  if h : n.isValidChar then return Char.ofNatAux n h else throw .hexEscape

/-- The value of so many hexadecimal digits; the first one comes next. -/
def hexDigits : Nat → Nat → Reading Nat
  | 0, n => return n
  | k + 1, n => do
    let c ← require .escape
    match hexDigit? c with
    | none => throw .hexEscape
    | some d => advance; hexDigits k (n * 16 + d)

/-- The value of hexadecimal digits up to a closing brace, if there are any. -/
def hexBraced : Nat → Option Nat → Reading Nat
  | 0, _ => throw .escape
  | fuel + 1, n => do
    let c ← require .escape
    if c = '\x7d' then
      advance
      match n with
      | some n => return n
      | none => throw .hexEscape
    else
      match hexDigit? c with
      | none => throw .hexEscape
      | some d => advance; hexBraced fuel (some (n.getD 0 * 16 + d))

/-- A character given by its number: `x`, `u` or `U` comes next. -/
def hexEscape (kind : Char) : Reading Escape := do
  advance
  if (← require .escape) = '\x7b' then
    advance
    let n ← hexBraced (← get).rest.length.succ none
    return .literal (← charOf n) false
  else
    let n ← hexDigits (if kind = 'x' then 2 else if kind = 'u' then 4 else 8) 0
    return .literal (← charOf n) (kind = 'x')

/-- The characters up to a closing brace, which is taken off as well. -/
def braced : Nat → Reading (List Char)
  | 0 => throw .escape
  | fuel + 1 => do
    let c ← require .escape
    if c = '\x7d' then
      bump
      return []
    else
      advance
      return c :: (← braced fuel)

/-- The text before and after the first occurrence of a separator. -/
def splitAt? (separator : List Char) : List Char → Option (List Char × List Char)
  | [] => none
  | c :: rest =>
    if separator.isPrefixOf (c :: rest) then some ([], (c :: rest).drop separator.length)
    else (splitAt? separator rest).map fun (a, b) ↦ (c :: a, b)

/-- The class that a name between braces stands for, and whether it is negated once more. -/
def braceName (name : List Char) : Option Named × Bool :=
  let byValue (parts : List Char × List Char) :=
    Named.byValue? (String.ofList parts.1) (String.ofList parts.2)
  match splitAt? ['!', '='] name with
  | some parts => (byValue parts, true)
  | none =>
    match splitAt? [':'] name with
    | some parts => (byValue parts, false)
    | none =>
      match splitAt? ['='] name with
      | some parts => (byValue parts, false)
      | none => (Named.alone? (String.ofList name), false)

/-- A class given by a property: `p` or `P` comes next. -/
def namedEscape (negated : Bool) : Reading Escape := do
  advance
  let c ← require .escape
  let (found, flipped) ← (if c = '\x7b' then do
      advance
      return braceName (← braced (← get).rest.length.succ)
    else if c = '\\' then throw .unknownClass
    else do
      advance
      return (Named.category? (Named.normalize (String.singleton c)), false))
  if !(← get).flags.unicode then throw .unicodeNotAllowed
  match found with
  | some n => return .named n (negated != flipped)
  | none => throw .unknownClass

/-- The kinds of word boundary that are named between braces. -/
def boundaryNames : List (List Char × Look) :=
  [("start".toList, .wordStart), ("end".toList, .wordEnd),
   ("start-half".toList, .wordStartHalf), ("end-half".toList, .wordEndHalf)]

/-- A character that can be part of the name of a word boundary. -/
def isBoundaryChar (c : Char) : Bool := c.isAlpha || c = '-'

/-- The name of a word boundary up to its closing brace. -/
def boundaryName : Nat → Reading (List Char)
  | 0 => throw .escape
  | fuel + 1 => do
    let c ← require .escape
    if isBoundaryChar c then
      advance
      return c :: (← boundaryName fuel)
    else if c = '\x7d' then
      bump
      return []
    else throw .escape

/-- A word boundary, the braces after which may name a special kind. A brace before anything else
than a name belongs to a repetition. -/
def wordBoundary : Reading Look := do
  let before ← get
  if (← next?) = some '\x7b' then
    advance
    if isBoundaryChar (← require .escape) then
      let name ← boundaryName (← get).rest.length.succ
      match boundaryNames.lookup name with
      | some kind => return kind
      | none => throw .escape
    else
      set before
      return .wordBoundary
  else return .wordBoundary

/-- An escape; the backslash comes next. -/
def escape : Reading Escape := do
  bump
  let c ← require .escape
  if c.isDigit then throw .backReference
  match c with
  | 'x' | 'u' | 'U' => hexEscape c
  | 'p' => namedEscape false
  | 'P' => namedEscape true
  | 'd' => bump; return .perl .digit false
  | 'D' => bump; return .perl .digit true
  | 's' => bump; return .perl .space false
  | 'S' => bump; return .perl .space true
  | 'w' => bump; return .perl .word false
  | 'W' => bump; return .perl .word true
  | _ =>
    bump
    if isEscapable c then return .literal c false
    match c with
    | 'a' => return .literal '\x07' false
    | 'f' => return .literal '\x0c' false
    | 't' => return .literal '\t' false
    | 'n' => return .literal '\n' false
    | 'r' => return .literal '\r' false
    | 'v' => return .literal '\x0b' false
    | 'A' => return .look .textStart
    | 'z' => return .look .textEnd
    | 'b' => return .look (← wordBoundary)
    | 'B' => return .look .noWordBoundary
    | '<' => return .look .wordStart
    | '>' => return .look .wordEnd
    | _ => throw .escape

/-! ## Sets -/

/-- Refuse a set that holds more than ASCII characters where Unicode is switched off. -/
def checked (s : CharSet) : Reading CharSet := do
  if !(← get).flags.unicode && (List.range 128).any fun i ↦ s.contains (128 + i) then
    throw .invalidEncoding
  return s

/-- A set together with its variants in case, if case does not matter here. -/
def caseFolded (s : CharSet) : Reading CharSet := do
  let flags := (← get).flags
  return if !flags.ignoreCase then s else if flags.unicode then .folded s else .asciiFolded s

def negateIf (negated : Bool) (s : CharSet) : CharSet := if negated then .compl s else s

def perlSet (p : Perl) (negated : Bool) : Reading CharSet := do
  let s := if (← get).flags.unicode then CharSet.perl p else .asciiOnly (.ascii (match p with
    | .digit => .digit
    | .space => .space
    | .word => .word))
  checked (negateIf negated s)

def namedSet (n : Named) (negated : Bool) : Reading CharSet := do
  return negateIf negated (← caseFolded (.named n))

/-- A character given by two hexadecimal digits must be ASCII where Unicode is switched off. -/
def checkedLiteral (c : Char) (byte : Bool) : Reading Char := do
  if byte && !(← get).flags.unicode && 128 ≤ c.toNat then throw .invalidEncoding
  return c

def asciiNames : List (List Char × Ascii) :=
  [("alnum".toList, .alnum), ("alpha".toList, .alpha), ("ascii".toList, .ascii),
   ("blank".toList, .blank), ("cntrl".toList, .cntrl), ("digit".toList, .digit),
   ("graph".toList, .graph), ("lower".toList, .lower), ("print".toList, .print),
   ("punct".toList, .punct), ("space".toList, .space), ("upper".toList, .upper),
   ("word".toList, .word), ("xdigit".toList, .xdigit)]

/-- A named ASCII class at the front of a text, and the text after it. -/
def asciiClass? (text : List Char) : Option (CharSet × List Char) :=
  match text with
  | '[' :: ':' :: rest =>
    let (negated, rest) := match rest with
      | '^' :: rest => (true, rest)
      | rest => (false, rest)
    let name := rest.takeWhile (· != ':')
    match rest.dropWhile (· != ':'), asciiNames.lookup name with
    | ':' :: ']' :: after, some a => some (negateIf negated (.ascii a), after)
    | _, _ => none
  | _ => none

/-- A single member of a set: a character that can begin a range, or a class. -/
inductive Member where
  | literal (c : Char)
  | set (s : CharSet)

def member : Reading Member := do
  let c ← require .classUnclosed
  if c = '\\' then
    match ← escape with
    | .literal c byte => return .literal (← checkedLiteral c byte)
    | .perl p negated => return .set (← perlSet p negated)
    | .named n negated => return .set (← namedSet n negated)
    | .look _ => throw .classEscape
  else
    bump
    return .literal c

/-- A character of a set; only ASCII ones are allowed where Unicode is switched off. -/
def setLiteral (c : Char) : Reading Nat := do
  if !(← get).flags.unicode && 128 ≤ c.toNat then throw .unicodeNotAllowed
  return c.toNat

/-- A member of a set or a range of characters. -/
def memberOrRange : Reading CharSet := do
  let first ← member
  settle
  let c ← require .classUnclosed
  let after ← second?
  if c != '-' || after == some ']' || after == some '-' then
    match first with
    | .literal c => return .one (← setLiteral c)
    | .set s => return s
  else
    advance
    let _ ← require .classUnclosed
    match first, ← member with
    | .literal a, .literal b =>
      if b.toNat < a.toNat then throw .classRange
      return .range (← setLiteral a) (← setLiteral b)
    | _, _ => throw .classRange

inductive SetOp where
  | inter
  | diff
  | symmDiff

/-- A set with the number of levels that its written form is nested. -/
structure SetPiece where
  set : CharSet
  height : Nat

/-- The union of the members read so far, the last one first. -/
def unionOf : List SetPiece → SetPiece
  | [] => ⟨.empty, 0⟩
  | [p] => p
  | p :: rest =>
    rest.foldl (fun acc q ↦ ⟨.union acc.set q.set, max acc.height (q.height + 1)⟩)
      ⟨p.set, p.height + 1⟩

/-- Apply the pending operation between sets. -/
def combine (pending : Option (SetPiece × SetOp)) (right : SetPiece) : Reading SetPiece := do
  match pending with
  | none => return right
  | some (left, op) =>
    let a ← caseFolded left.set
    let b ← caseFolded right.set
    let s := match op with
      | .inter => CharSet.inter a b
      | .diff => .diff a b
      | .symmDiff => .symmDiff a b
    return ⟨s, max left.height right.height + 1⟩

/-- The operator between sets that comes next, if one does. -/
def setOp? : Reading (Option SetOp) := do
  if ← takeText ['&', '&'] then return some .inter
  if ← takeText ['-', '-'] then return some .diff
  if ← takeText ['~', '~'] then return some .symmDiff
  return none

/-- The hyphens that stand for themselves at the front of a set. -/
def leadingHyphens : Nat → Reading (List SetPiece)
  | 0 => throw .classUnclosed
  | fuel + 1 => do
    if (← require .classUnclosed) = '-' then
      advance
      return ⟨.one '-'.toNat, 0⟩ :: (← leadingHyphens fuel)
    else return []

mutual

/-- A set between brackets; the opening one comes next. -/
def bracketed : Nat → Reading SetPiece
  | 0 => throw .classUnclosed
  | fuel + 1 => do
    advance
    let negated := (← require .classUnclosed) = '^'
    if negated then advance
    let _ ← require .classUnclosed
    let hyphens ← leadingHyphens (← get).rest.length.succ
    let start ← (if hyphens.isEmpty && (← next?) == some ']' then do
        advance
        let _ ← require .classUnclosed
        return [⟨.one ']'.toNat, 0⟩]
      else return hyphens)
    let content ← members fuel none start
    let s ← caseFolded content.set
    return ⟨← checked (negateIf negated s), content.height + 1⟩

/-- The members of a set up to its closing bracket. -/
def members : Nat → Option (SetPiece × SetOp) → List SetPiece → Reading SetPiece
  | 0, _, _ => throw .classUnclosed
  | fuel + 1, pending, acc => do
    settle
    match ← require .classUnclosed with
    | ']' =>
      bump
      combine pending (unionOf acc)
    | '[' =>
      match asciiClass? (← get).rest with
      | some (s, rest) =>
        modify fun cursor ↦ { cursor with rest := rest }
        members fuel pending (⟨s, 0⟩ :: acc)
      | none =>
        let inner ← bracketed fuel
        members fuel pending (inner :: acc)
    | _ =>
      match ← setOp? with
      | some op => members fuel (some (← combine pending (unionOf acc), op)) []
      | none =>
        let s ← memberOrRange
        members fuel pending (⟨s, 0⟩ :: acc)

end

/-! ## Repetitions -/

def dropSpaces : Reading Unit := modify fun s ↦ { s with rest := s.rest.dropWhile isSpace }

/-- A decimal number, which may stand between blanks. -/
def decimal? : Reading (Option Nat) := do
  dropSpaces
  let digits : List Char := (← get).rest.takeWhile Char.isDigit
  modify fun s ↦ { s with rest := s.rest.drop digits.length }
  settle
  dropSpaces
  if digits.isEmpty then return none
  let n : Nat := digits.foldl (fun n c ↦ n * 10 + (c.toNat - 48)) 0
  if 0x100000000 ≤ n then throw .repetitionCount
  return some n

/-- Take off the question mark that makes a repetition prefer fewer rounds. -/
def lazyMark : Reading Unit := do
  if (← next?) = some '?' then bump

/-- The bounds of a counted repetition; the opening brace comes next. -/
def bounds : Reading (Nat × Option Nat) := do
  advance
  let _ ← require .repetitionCount
  let least ← decimal?
  let c ← require .repetitionCount
  let found ← (if c = ',' then do
      advance
      if (← require .repetitionCount) = '\x7d' then
        match least with
        | some n => return (n, none)
        | none => throw .repetitionCount
      else
        match least, ← decimal? with
        | some n, some m => return (n, some m)
        | _, _ => throw .repetitionCount
    else
      match least with
      | some n => return (n, some n)
      | none => throw .repetitionCount)
  if (← require .repetitionCount) != '\x7d' then throw .repetitionCount
  advance
  lazyMark
  match found with
  | (n, some m) => if m < n then throw .repetitionCount else return found
  | _ => return found

/-- The items of a sequence with the last one repeated. -/
def repeatLast (least : Nat) (most : Option Nat) : List Item → Reading (List Item)
  | .piece p :: rest => return .piece ⟨.rep p.regex least most, p.height + 1⟩ :: rest
  | _ => throw .repetitionMissing

/-! ## Groups -/

def isNameChar (first : Bool) (c : Char) : Bool :=
  c = '_' || Unicode.Property.alphabetic.holds c ||
    (!first && (c = '.' || c = '[' || c = ']' || (Unicode.Category.of c).isNumber))

/-- The name of a group up to its closing angle bracket. -/
def groupName : Nat → Bool → Reading (List Char)
  | 0, _ => throw .groupName
  | fuel + 1, first => do
    let c ← require .groupName
    bump
    if c = '>' then return []
    if !isNameChar first c then throw .groupName
    return c :: (← groupName fuel false)

/-- Note the name of a group, which must be new. -/
def addName (name : List Char) : Reading Unit := do
  if name.isEmpty then throw .groupName
  let s ← get
  if s.names.contains name then throw .duplicateGroupName
  set { s with names := name :: s.names }

def setFlag (c : Char) (on : Bool) (f : Flags) : Option Flags :=
  match c with
  | 'i' => some { f with ignoreCase := on }
  | 'm' => some { f with multiLine := on }
  | 's' => some { f with dotMatchesNewline := on }
  | 'u' => some { f with unicode := on }
  | 'R' => some { f with crlf := on }
  | 'x' => some { f with verbose := on }
  | 'U' => some f
  | _ => none

/-- The flags up to a colon or a closing parenthesis, which is left to read. `seen` holds the flags
that have occurred, a hyphen among them. -/
def flagItems : Nat → List Char → Bool → Flags → Reading (List Char × Flags)
  | 0, _, _, _ => throw .flag
  | fuel + 1, seen, dangling, flags => do
    let c ← require .flag
    if c = ':' ∨ c = ')' then
      if dangling then throw .flag
      return (seen, flags)
    else
      if seen.contains c then throw .flag
      bump
      if c = '-' then flagItems fuel (c :: seen) true flags
      else
        match setFlag c (!seen.contains '-') flags with
        | none => throw .flag
        | some flags => flagItems fuel (c :: seen) false flags

/-- Whether look-around comes next. -/
def isLookAround (text : List Char) : Bool :=
  [['?', '='], ['?', '!'], ['?', '<', '='], ['?', '<', '!']].any (·.isPrefixOf text)

/-! ## Expressions -/

/-- A sequence of items, the last one first. -/
def sequenceOf (items : List Item) : Piece :=
  let pieces := items.reverse.filterMap fun
    | .piece p => some p
    | .flags => none
  let regex := pieces.foldr (fun p acc ↦ match acc with
    | .empty => p.regex
    | r => .seq p.regex r) .empty
  let height := pieces.foldl (fun h p ↦ max h p.height) 0
  ⟨regex, if items.length ≤ 1 then height else height + 1⟩

/-- Several alternatives, or the only one. -/
def alternativesOf : List Piece → Piece
  | [] => ⟨.empty, 0⟩
  | [p] => p
  | p :: rest =>
    rest.foldl (fun acc q ↦ ⟨.alt acc.regex q.regex, max acc.height (q.height + 1)⟩)
      ⟨p.regex, p.height + 1⟩

def setPiece (s : CharSet) : Item := .piece ⟨.set s, 0⟩

def literalPiece (c : Char) (byte : Bool) : Reading Item := do
  let c ← checkedLiteral c byte
  return setPiece (← caseFolded (.one c.toNat))

/-- The expression for a demand on the position. -/
def lookPiece (kind : Look) : Reading Item := do
  return .piece ⟨.look kind (← get).flags.unicode, 0⟩

/-- The set that a dot stands for. -/
def dotSet : Reading CharSet := do
  let flags := (← get).flags
  if !flags.unicode then throw .invalidEncoding
  return if flags.dotMatchesNewline then .named .any
    else if flags.crlf then .compl (.union (.one 10) (.one 13))
    else .compl (.one 10)

/-- An expression of one character or escape. -/
def primitive (c : Char) : Reading Item := do
  match c with
  | '\\' =>
    match ← escape with
    | .literal c byte => literalPiece c byte
    | .perl p negated => return setPiece (← perlSet p negated)
    | .named n negated => return setPiece (← namedSet n negated)
    | .look kind => lookPiece kind
  | '.' =>
    bump
    return setPiece (← dotSet)
  | '^' =>
    bump
    let flags := (← get).flags
    lookPiece (if !flags.multiLine then .textStart
      else if flags.crlf then .lineStartCrlf else .lineStart)
  | '$' =>
    bump
    let flags := (← get).flags
    lookPiece (if !flags.multiLine then .textEnd
      else if flags.crlf then .lineEndCrlf else .lineEnd)
  | c =>
    bump
    literalPiece c false

mutual

/-- A group or a change of flags; the opening parenthesis comes next. -/
def group : Nat → Reading Item
  | 0 => throw .groupUnclosed
  | fuel + 1 => do
    advance
    if isLookAround (← get).rest then throw .lookAround
    if (← takeText ['?', 'P', '<']) || (← takeText ['?', '<']) then
      addName (← groupName (← get).rest.length.succ true)
      enclosed fuel (← get).flags
    else if ← takeText ['?'] then
      let _ ← require .groupUnclosed
      let (seen, flags) ← flagItems (← get).rest.length.succ [] false (← get).flags
      let closing ← next?
      bump
      if closing = some ')' then
        if seen.isEmpty then throw .emptyFlags
        modify fun s ↦ { s with flags := flags }
        return .flags
      else enclosed fuel flags
    else enclosed fuel (← get).flags

/-- The inside of a group under some flags, and the closing parenthesis. -/
def enclosed : Nat → Flags → Reading Item
  | 0, _ => throw .groupUnclosed
  | fuel + 1, flags => do
    let outer := (← get).flags
    modify fun s ↦ { s with flags := flags }
    let inner ← body fuel [] []
    let _ ← require .groupUnclosed
    bump
    modify fun s ↦ { s with flags := outer }
    return .piece ⟨inner.regex, inner.height + 1⟩

/-- Alternatives up to the end of the pattern or of the group, which is left to read. -/
def body : Nat → List Piece → List Item → Reading Piece
  | 0, _, _ => throw .tooDeep
  | fuel + 1, branches, items => do
    settle
    match ← next? with
    | none | some ')' => return alternativesOf (branches ++ [sequenceOf items])
    | some '|' =>
      bump
      body fuel (branches ++ [sequenceOf items]) []
    | some '(' =>
      let item ← group fuel
      body fuel branches (item :: items)
    | some '[' =>
      let s ← bracketed (2 * (← get).rest.length + 2)
      body fuel branches (.piece ⟨.set s.set, s.height⟩ :: items)
    | some '?' =>
      bump
      lazyMark
      body fuel branches (← repeatLast 0 (some 1) items)
    | some '*' =>
      bump
      lazyMark
      body fuel branches (← repeatLast 0 none items)
    | some '+' =>
      bump
      lazyMark
      body fuel branches (← repeatLast 1 none items)
    | some '\x7b' =>
      if items.isEmpty then throw .repetitionMissing
      let (least, most) ← bounds
      body fuel branches (← repeatLast least most items)
    | some c =>
      let item ← primitive c
      body fuel branches (item :: items)

end

end Reading

/-! ## Limits -/

/-- The deepest nesting of a pattern. -/
def maxHeight : Nat := 250

/-- The most memory that the states of a pattern may take, in bytes. -/
def maxCost : Nat := 10 * 0x100000

/-- The memory of the states that accept a set of characters, roughly: a state of its own for each
byte of a single character, and a small automaton over bytes for a class. -/
def CharSet.cost : CharSet → Nat
  | .empty => 32
  | .one c => if c < 0x80 then 32 else if c < 0x800 then 64 else if c < 0x10000 then 96 else 128
  | .range first last => if last < 0x80 then 40 else if first < 0x80 then 300 else 200
  | .perl .digit => 5000
  | .perl .space => 600
  | .perl .word => 26000
  | .ascii _ => 60
  | .named _ => 12000
  | .union a b => a.cost + b.cost
  | .inter a _ => a.cost
  | .diff a _ => a.cost
  | .symmDiff a b => a.cost + b.cost
  | .compl a => a.cost + 300
  | .folded a => 2 * a.cost
  | .asciiFolded a => 2 * a.cost
  | .asciiOnly a => min a.cost 60

/-- The memory of the states of a regular expression, roughly. -/
def Regex.cost : Regex → Nat
  | .empty => 32
  | .set s => s.cost
  | .look .. => 32
  | .seq a b => a.cost + b.cost
  | .alt a b => a.cost + b.cost + 48
  | .rep r least most =>
    match most with
    | none => (max least 1) * r.cost + 64
    | some m => least * r.cost + (m - least) * (r.cost + 48)

/-- The regular expression that a pattern writes down. -/
def compile (pattern : String) : Except Refusal Regex := do
  let cs := pattern.toList
  let (piece, after) ← Reading.body (3 * cs.length + 3) [] [] ⟨cs, {}, []⟩
  if !after.rest.isEmpty then throw .groupUnopened
  if maxHeight < piece.height then throw .tooDeep
  if maxCost < piece.regex.cost then throw .tooLarge
  return piece.regex

end CodeHints.Pattern
