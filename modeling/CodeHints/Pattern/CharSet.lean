import CodeHints.Unicode.Category
import CodeHints.Unicode.Folding
import CodeHints.Unicode.Property
import CodeHints.Unicode.Script

/-!
# Sets of characters in patterns

A set of characters as a pattern describes it, built from single characters, ranges and named
classes by union, intersection, difference and complement, with `contains` as its meaning. Sets
are described, not listed: `contains` asks the description about one code point.
-/

namespace CodeHints.Pattern

/-- The classes with a one-letter escape. -/
inductive Perl where
  | digit
  | space
  | word
  deriving DecidableEq, Repr

/-- The classes that are named between `[:` and `:]`; all of them hold ASCII characters only. -/
inductive Ascii where
  | alnum | alpha | ascii | blank | cntrl | digit | graph | lower | print | punct | space | upper
  | word | xdigit
  deriving DecidableEq, Repr

/-- The characters that a Unicode class names. -/
inductive Named where
  | any
  | assigned
  | ascii
  /-- One or several general categories. -/
  | categories (accepts : Unicode.Category → Bool)
  | property (p : Unicode.Property)
  /-- A script, by its place in the list of names. -/
  | script (place : Nat)

/-- A description of a set of characters. -/
inductive CharSet where
  | empty
  | one (c : Nat)
  | range (first last : Nat)
  | perl (p : Perl)
  | ascii (a : Ascii)
  | named (n : Named)
  | union (a b : CharSet)
  | inter (a b : CharSet)
  | diff (a b : CharSet)
  | symmDiff (a b : CharSet)
  | compl (a : CharSet)
  /-- Everything that equals a member when case does not matter. -/
  | folded (a : CharSet)
  /-- Everything that equals a member when the case of ASCII letters does not matter. -/
  | asciiFolded (a : CharSet)
  /-- The members that are ASCII characters. -/
  | asciiOnly (a : CharSet)

/-- A code point lies between two others. -/
def within (first last c : Nat) : Bool := first ≤ c && c ≤ last

/-- A character that counts as part of a word: letters, marks, digits, connectors and joiners. -/
def isWordCode (c : Nat) : Bool :=
  let category := Unicode.Category.ofCode c
  Unicode.Property.alphabetic.holdsAt c || category.isMark || category == .decimalNumber
    || category == .connectorPunctuation || Unicode.Property.joinControl.holdsAt c

def Perl.contains : Perl → Nat → Bool
  | .digit, c => Unicode.Category.ofCode c == .decimalNumber
  | .space, c => Unicode.Property.whiteSpace.holdsAt c
  | .word, c => isWordCode c

def Ascii.contains : Ascii → Nat → Bool
  | .alnum, c => within 48 57 c || within 65 90 c || within 97 122 c
  | .alpha, c => within 65 90 c || within 97 122 c
  | .ascii, c => within 0 127 c
  | .blank, c => c == 9 || c == 32
  | .cntrl, c => within 0 31 c || c == 127
  | .digit, c => within 48 57 c
  | .graph, c => within 33 126 c
  | .lower, c => within 97 122 c
  | .print, c => within 32 126 c
  | .punct, c => within 33 47 c || within 58 64 c || within 91 96 c || within 123 126 c
  | .space, c => within 9 13 c || c == 32
  | .upper, c => within 65 90 c
  | .word, c => within 48 57 c || within 65 90 c || within 97 122 c || c == 95
  | .xdigit, c => within 48 57 c || within 65 70 c || within 97 102 c

def Named.contains : Named → Nat → Bool
  | .any, _ => true
  | .assigned, c => Unicode.Category.ofCode c != .unassigned
  | .ascii, c => within 0 127 c
  | .categories accepts, c => accepts (Unicode.Category.ofCode c)
  | .property p, c => p.holdsAt c
  | .script place, c => Unicode.Script.ofCode c == place

/-- The code points that differ from an ASCII letter in case only. -/
def asciiAlike (c : Nat) : List Nat :=
  if within 65 90 c then [c, c + 32] else if within 97 122 c then [c, c - 32] else [c]

/-- The meaning of a description: membership of a code point. -/
def CharSet.contains : CharSet → Nat → Bool
  | .empty, _ => false
  | .one d, c => c == d
  | .range first last, c => within first last c
  | .perl p, c => p.contains c
  | .ascii a, c => a.contains c
  | .named n, c => n.contains c
  | .union a b, c => a.contains c || b.contains c
  | .inter a b, c => a.contains c && b.contains c
  | .diff a b, c => a.contains c && !b.contains c
  | .symmDiff a b, c => a.contains c != b.contains c
  | .compl a, c => !a.contains c
  | .folded a, c => (Unicode.Folding.alike c).any a.contains || a.contains c
  | .asciiFolded a, c => (asciiAlike c).any a.contains
  | .asciiOnly a, c => within 0 127 c && a.contains c

namespace Named

/-! ## Looking up names -/

/-- The form in which names are compared: lower case, without blanks, hyphens and underscores, and
without `is` in front. -/
def normalize (name : String) : String :=
  let cs := (name.toList.filter fun c ↦ c.toNat < 128 && c != ' ' && c != '-' && c != '_').map
    Char.toLower
  match cs with
  | 'i' :: 's' :: 'c' :: [] => "isc"
  | 'i' :: 's' :: rest => String.ofList rest
  | cs => String.ofList cs

/-- The groups of general categories under their short and long names. -/
def categoryGroups : List (List String × (Unicode.Category → Bool)) :=
  [(["l", "letter"], Unicode.Category.isLetter),
   (["lc", "casedletter"], Unicode.Category.isCasedLetter),
   (["m", "mark", "combiningmark"], Unicode.Category.isMark),
   (["n", "number"], Unicode.Category.isNumber),
   (["p", "punctuation", "punct"], Unicode.Category.isPunctuation),
   (["s", "symbol"], Unicode.Category.isSymbol),
   (["z", "separator"], Unicode.Category.isSeparator),
   (["c", "other"], Unicode.Category.isOther)]

/-- The long names of single general categories. -/
def categoryNames : List (String × Unicode.Category) :=
  [("uppercaseletter", .uppercaseLetter), ("lowercaseletter", .lowercaseLetter),
   ("titlecaseletter", .titlecaseLetter), ("modifierletter", .modifierLetter),
   ("otherletter", .otherLetter), ("nonspacingmark", .nonspacingMark),
   ("spacingmark", .spacingMark), ("enclosingmark", .enclosingMark),
   ("decimalnumber", .decimalNumber), ("digit", .decimalNumber),
   ("letternumber", .letterNumber), ("othernumber", .otherNumber),
   ("connectorpunctuation", .connectorPunctuation), ("dashpunctuation", .dashPunctuation),
   ("openpunctuation", .openPunctuation), ("closepunctuation", .closePunctuation),
   ("initialpunctuation", .initialPunctuation), ("finalpunctuation", .finalPunctuation),
   ("otherpunctuation", .otherPunctuation), ("mathsymbol", .mathSymbol),
   ("currencysymbol", .currencySymbol), ("modifiersymbol", .modifierSymbol),
   ("othersymbol", .otherSymbol), ("spaceseparator", .spaceSeparator),
   ("lineseparator", .lineSeparator), ("paragraphseparator", .paragraphSeparator),
   ("control", .control), ("cntrl", .control), ("format", .format), ("surrogate", .surrogate),
   ("privateuse", .privateUse), ("unassigned", .unassigned)]

/-- Short names of yes-or-no properties. -/
def propertyAliases : List (String × Unicode.Property) :=
  [("alpha", .alphabetic), ("grext", .graphemeExtend), ("wspace", .whiteSpace),
   ("space", .whiteSpace), ("lower", .lowercase), ("upper", .uppercase), ("xids", .xidStart),
   ("xidc", .xidContinue), ("ids", .idStart), ("idc", .idContinue), ("hex", .hexDigit),
   ("ideo", .ideographic), ("ci", .caseIgnorable), ("dia", .diacritic), ("ext", .extender),
   ("epres", .emojiPresentation), ("extpict", .extendedPictographic),
   ("di", .defaultIgnorableCodePoint), ("qmark", .quotationMark), ("term", .terminalPunctuation),
   ("sterm", .sentenceTerminal), ("uideo", .unifiedIdeograph), ("patsyn", .patternSyntax),
   ("patws", .patternWhiteSpace), ("sd", .softDotted), ("vs", .variationSelector),
   ("joinc", .joinControl), ("grbase", .graphemeBase), ("bidim", .bidiMirrored),
   ("bidic", .bidiControl)]

/-- The general category, or group of them, with a normalized name. -/
def category? (name : String) : Option Named :=
  if name == "any" then some .any
  else if name == "assigned" then some .assigned
  else if name == "ascii" then some .ascii
  else match categoryGroups.find? (·.1.contains name) with
    | some (_, accepts) => some (.categories accepts)
    | none =>
      match Unicode.Category.labelled.find? (·.2.1 == name) with
      | some (_, _, category) => some (.categories (· == category))
      | none => (categoryNames.lookup name).map fun category ↦ .categories (· == category)

/-- The yes-or-no property with a normalized name. -/
def property? (name : String) : Option Named :=
  ((Unicode.Property.named.lookup name).or (propertyAliases.lookup name)).map .property

/-- The script with a normalized name. -/
def script? (name : String) : Option Named := (Unicode.Script.named? name).map .script

/-- The class that stands alone under a name. -/
def alone? (name : String) : Option Named :=
  let name := normalize name
  let property := if name == "cf" || name == "sc" || name == "lc" then none else property? name
  property.or ((category? name).or (script? name))

/-- The class given by the name of a property and one of its values. -/
def byValue? (property value : String) : Option Named :=
  let property := normalize property
  let value := normalize value
  if property == "generalcategory" || property == "gc" then category? value
  else if ["script", "sc", "scriptextensions", "scx"].contains property then script? value
  else none

end Named

end CodeHints.Pattern
