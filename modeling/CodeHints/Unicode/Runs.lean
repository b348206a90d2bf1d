/-!
# Runs of code points

The tables of character properties are kept as text: the lengths of the runs of code points over
which a property does not change, in base thirty-six, from code point zero on. This file turns
such a text into a list of boundaries and answers a look-up in it.

Two layouts are used. In a *toggled* table the lengths are separated by blanks and membership
starts out false and flips at every boundary. In a *labelled* table each length follows a label.
-/

namespace CodeHints.Unicode

/-- The value of a digit in base thirty-six, written in lower case. -/
def digit36? (c : Char) : Option Nat :=
  if '0' ≤ c ∧ c ≤ '9' then some (c.toNat - 48)
  else if 'a' ≤ c ∧ c ≤ 'z' then some (c.toNat - 87)
  else none

/-- The numbers written in base thirty-six, each ended by any character that is no digit. -/
def numbers36 : List Char → Nat → List Nat
  | [], n => [n]
  | c :: rest, n =>
    match digit36? c with
    | some d => numbers36 rest (n * 36 + d)
    | none => n :: numbers36 rest 0

/-- The sums of all non-empty initial stretches of a list, added to `start`. -/
def partialSums : List Nat → Nat → List Nat
  | [], _ => []
  | n :: rest, start => (start + n) :: partialSums rest (start + n)

/-- The points at which a property given by run lengths changes. -/
def boundaries (table : String) : List Nat :=
  partialSums (numbers36 table.toList 0) 0

/-- Whether `c` lies in a set given by the points at which membership flips. -/
def flipped (points : List Nat) (c : Nat) : Bool :=
  (points.takeWhile (· ≤ c)).length % 2 == 1

/-- The runs of a labelled table: label and first code point after the run. -/
def labelledRuns : List Char → Option (Char × Nat) → Nat → List (Char × Nat)
  | [], some (label, n), start => [(label, start + n)]
  | [], none, _ => []
  | c :: rest, current, start =>
    match digit36? c, current with
    | some d, some (label, n) => labelledRuns rest (some (label, n * 36 + d)) start
    | some _, none => labelledRuns rest none start
    | none, some (label, n) => (label, start + n) :: labelledRuns rest (some (c, 0)) (start + n)
    | none, none => labelledRuns rest (some (c, 0)) start

/-- The label of the run that holds `c`. -/
def labelAt? (runs : List (Char × Nat)) (c : Nat) : Option Char :=
  (runs.find? fun run ↦ c < run.2).map (·.1)

end CodeHints.Unicode
