import CodeHints.Unicode.Category
import CodeHints.Unicode.Property

/-!
# Quoted text in messages

Messages that cite a piece of text show it between quotation marks and make everything visible
that a reader could not see: quotation marks, backslashes and the usual control characters get a
backslash, and any character that has no shape of its own is given by its number.
-/

namespace CodeHints.Text

/-- The lower-case hexadecimal digits of a number, without leading zeros. -/
def hexDigits (n : Nat) : List Char := Nat.toDigits 16 n

/-- Characters with a shape of their own: assigned, and neither control, format, private nor a
separator other than the plain blank. -/
def isVisible (c : Char) : Bool :=
  c == ' ' ||
    let category := Unicode.Category.of c
    !category.isOther && !category.isSeparator

/-- How one character stands inside a quoted text. -/
def escapeVisibly (c : Char) : List Char :=
  if c = '\x00' then ['\\', '0']
  else if c = '\t' then ['\\', 't']
  else if c = '\n' then ['\\', 'n']
  else if c = '\r' then ['\\', 'r']
  else if c = '"' then ['\\', '"']
  else if c = '\\' then ['\\', '\\']
  else if c.toNat < 127 ∧ 32 ≤ c.toNat then [c]
  else if Unicode.Property.graphemeExtend.holds c || !isVisible c then
    ['\\', 'u', '\x7b'] ++ hexDigits c.toNat ++ ['\x7d']
  else [c]

/-- A text between quotation marks with everything in it made visible. -/
def quoted (s : String) : String :=
  String.ofList ('"' :: (s.toList.flatMap escapeVisibly ++ ['"']))

end CodeHints.Text
