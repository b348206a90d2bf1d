import CodeHints.Pattern.CharSet

/-!
# Regular expressions and where they match

A regular expression denotes a relation between positions of a text: `r.reach text starts` are the
positions at which a match of `r` can end that begins at one of `starts`. Which of several matches
is preferred plays no part, because only the existence of a match is asked for.

Main definition: `Regex.matchesStart`, whether some match begins at the first position.
-/

namespace CodeHints.Pattern

/-- What a pattern can demand of a position without taking a character. -/
inductive Look where
  | textStart
  | textEnd
  | lineStart
  | lineEnd
  /-- Line starts where a carriage return and a line feed make one line end. -/
  | lineStartCrlf
  /-- Line ends where a carriage return and a line feed make one line end. -/
  | lineEndCrlf
  | wordBoundary
  | noWordBoundary
  | wordStart
  | wordEnd
  | wordStartHalf
  | wordEndHalf
  deriving DecidableEq, Repr

/-- A regular expression. -/
inductive Regex where
  | empty
  | set (s : CharSet)
  /-- A demand on the position; `unicode` says which characters make words. -/
  | look (kind : Look) (unicode : Bool)
  | seq (a b : Regex)
  | alt (a b : Regex)
  /-- At least `least` times, and at most `most` times if that is given. -/
  | rep (r : Regex) (least : Nat) (most : Option Nat)

/-- Whether a character, if there is one, counts as part of a word. -/
def inWord (unicode : Bool) : Option Char → Bool
  | none => false
  | some c => if unicode then isWordCode c.toNat else Ascii.contains .word c.toNat

/-- Whether a demand holds between two characters; `none` beyond the ends of the text. -/
def Look.holds (kind : Look) (unicode : Bool) (before after : Option Char) : Bool :=
  let wordBefore := inWord unicode before
  let wordAfter := inWord unicode after
  match kind with
  | .textStart => before.isNone
  | .textEnd => after.isNone
  | .lineStart => before.isNone || before == some '\n'
  | .lineEnd => after.isNone || after == some '\n'
  | .lineStartCrlf =>
    before.isNone || before == some '\n' || (before == some '\r' && after != some '\n')
  | .lineEndCrlf =>
    after.isNone || after == some '\r' || (after == some '\n' && before != some '\r')
  | .wordBoundary => wordBefore != wordAfter
  | .noWordBoundary => wordBefore == wordAfter
  | .wordStart => !wordBefore && wordAfter
  | .wordEnd => wordBefore && !wordAfter
  | .wordStartHalf => !wordBefore
  | .wordEndHalf => !wordAfter

def charBefore (text : List Char) : Nat → Option Char
  | 0 => none
  | i + 1 => text[i]?

/-- Apply a step `n` times. -/
def times (step : List Nat → List Nat) : Nat → List Nat → List Nat
  | 0, xs => xs
  | n + 1, xs => times step n (step xs)

/-- Apply a step any number of times up to `n`. -/
def upTo (step : List Nat → List Nat) : Nat → List Nat → List Nat
  | 0, xs => xs
  | n + 1, xs => (xs ++ upTo step n (step xs)).eraseDups

/-- The positions at which a match can end that begins at one of the given positions. -/
def Regex.reach (text : List Char) : Regex → List Nat → List Nat
  | .empty, starts => starts
  | .set s, starts => starts.filterMap fun i ↦
      match text[i]? with
      | some c => if s.contains c.toNat then some (i + 1) else none
      | none => none
  | .look kind unicode, starts =>
      starts.filter fun i ↦ kind.holds unicode (charBefore text i) text[i]?
  | .seq a b, starts => b.reach text (a.reach text starts)
  | .alt a b, starts => (a.reach text starts ++ b.reach text starts).eraseDups
  | .rep r least most, starts =>
      let step := r.reach text
      let more := match most with
        | none => text.length
        | some m => min (m - least) text.length
      upTo step more (times step least starts)

/-- Whether a match begins at the start of the text. -/
def Regex.matchesStart (r : Regex) (text : String) : Bool := !(r.reach text.toList [0]).isEmpty

end CodeHints.Pattern
