/-!
# The shortest decimal of a binary fraction

A finite number `m · 2 ^ q` that is kept in a floating point format stands for an interval of
reals: those that are rounded to it. `shortest` finds the decimal with the fewest digits in that
interval and, among those, the one nearest to the number itself. All arithmetic is exact.

On the grid of decimals with a given number of digits, if any point lies in the interval then so
does one of the two neighbours of the number, so only those two are tested.
-/

namespace CodeHints.Decimal

/-- A positive number `significand · 2 ^ exponent` with the width of its rounding interval. -/
structure Binary where
  significand : Nat
  exponent : Int
  /-- The number is the smallest with its exponent, so the gap below is half the gap above. -/
  narrowBelow : Bool

/-- A positive decimal `digits · 10 ^ exponent`. -/
structure Scaled where
  digits : Nat
  exponent : Int
  deriving DecidableEq, Repr

/-- A fraction of natural numbers, scaled by a power of ten. -/
structure Ratio where
  num : Nat
  den : Nat

def Ratio.ofBinary (n : Nat) (e : Int) : Ratio :=
  if 0 ≤ e then ⟨n * Nat.pow 2 e.toNat, 1⟩ else ⟨n, Nat.pow 2 (-e).toNat⟩

def Ratio.divPow (r : Ratio) (e : Int) : Ratio :=
  if 0 ≤ e then ⟨r.num, r.den * Nat.pow 10 e.toNat⟩
  else ⟨r.num * Nat.pow 10 (-e).toNat, r.den⟩

namespace Binary

/-- A quarter of the number's last place is the unit of the interval. -/
def value (b : Binary) : Ratio := .ofBinary (4 * b.significand) (b.exponent - 2)

def lower (b : Binary) : Ratio :=
  .ofBinary (4 * b.significand - if b.narrowBelow then 1 else 2) (b.exponent - 2)

def upper (b : Binary) : Ratio := .ofBinary (4 * b.significand + 2) (b.exponent - 2)

/-- Whether a decimal lies in the rounding interval; its ends belong to it if the significand is
even. -/
def covers (b : Binary) (d : Scaled) : Bool :=
  let lo := b.lower.divPow d.exponent
  let hi := b.upper.divPow d.exponent
  if b.significand % 2 == 0 then
    lo.num ≤ d.digits * lo.den && d.digits * hi.den ≤ hi.num
  else lo.num < d.digits * lo.den && d.digits * hi.den < hi.num

/-- The two neighbours of the number on the grid of multiples of `10 ^ e`, with the answer to
"is the lower one nearer, or as near and even?". -/
def neighbours (b : Binary) (e : Int) : Nat × Bool :=
  let r := b.value.divPow e
  let k := r.num / r.den
  let twice := 2 * (r.num - k * r.den)
  (k, twice < r.den || (twice == r.den && k % 2 == 0))

/-- The better neighbour that lies in the interval, if one does. -/
def onGrid? (b : Binary) (e : Int) : Option Scaled :=
  let (k, lowerNearer) := b.neighbours e
  let down : Scaled := ⟨k, e⟩
  let up : Scaled := ⟨k + 1, e⟩
  let downFits := k != 0 && b.covers down
  let upFits := b.covers up
  if downFits && (lowerNearer || !upFits) then some down
  else if upFits then some up
  else none

/-- The decimal exponent of the leading digit, from an estimate that may be one too high. -/
def leading (b : Binary) : Int :=
  let bits : Int := b.significand.log2 + b.exponent
  let guess : Int := bits * 30103 / 100000 + 1
  let r := b.value.divPow guess
  if r.den ≤ r.num then guess
  else
    let r := b.value.divPow (guess - 1)
    if r.den ≤ r.num then guess - 1 else guess - 2

/-- The first grid with a fitting decimal, from coarse to fine. -/
def search (b : Binary) (top : Int) : Nat → Nat → Scaled
  | 0, n => ⟨(b.neighbours (top - n)).1, top - n⟩
  | fuel + 1, n =>
    match b.onGrid? (top - n) with
    | some d => d
    | none => search b top fuel (n + 1)

def shortest (b : Binary) : Scaled := b.search b.leading 17 0

end Binary

/-- A finite double other than zero, without its sign. -/
def ofBits (bits : Nat) : Binary :=
  let fraction := bits % 0x10000000000000
  let biased : Nat := bits / 0x10000000000000 % 0x800
  if biased == 0 then ⟨fraction, -1074, false⟩
  else ⟨fraction + 0x10000000000000, (biased : Int) - 1075, fraction == 0 && biased != 1⟩

/-- Number of trailing zeros that can be cut, at most `fuel`. -/
def stripZeros : Nat → Scaled → Scaled
  | 0, d => d
  | fuel + 1, d => if d.digits % 10 == 0 && d.digits != 0 then
      stripZeros fuel ⟨d.digits / 10, d.exponent + 1⟩ else d

/-- How a floating point number is laid out: where positional notation ends, and the mark of the
exponent. -/
structure Layout where
  /-- Positional if the decimal point stands at most this many places after the first digit. -/
  maxPoint : Int
  /-- Positional if the decimal point stands more than this many places after the first digit. -/
  minPoint : Int
  /-- What is written between the digits and a positive exponent. -/
  positiveMark : String
  /-- What is written between the digits and a negative exponent. -/
  negativeMark : String

/-- Write a decimal: positional near one, with an exponent elsewhere; never without a point or an
exponent. -/
def Layout.write (l : Layout) (d : Scaled) : String :=
  let digits := Nat.toDigits 10 d.digits
  let point : Int := digits.length + d.exponent
  let chars : List Char :=
    if 0 ≤ d.exponent ∧ point ≤ l.maxPoint then
      digits ++ List.replicate d.exponent.toNat '0' ++ ['.', '0']
    else if 0 < point ∧ point ≤ l.maxPoint then
      digits.take point.toNat ++ '.' :: digits.drop point.toNat
    else if l.minPoint < point ∧ point ≤ 0 then
      '0' :: '.' :: (List.replicate (-point).toNat '0' ++ digits)
    else
      let mantissa := match digits with
        | first :: second :: rest => first :: '.' :: second :: rest
        | short => short
      let e := point - 1
      mantissa ++ (if e < 0 then l.negativeMark else l.positiveMark).toList
        ++ Nat.toDigits 10 e.natAbs
  String.ofList chars

end CodeHints.Decimal
