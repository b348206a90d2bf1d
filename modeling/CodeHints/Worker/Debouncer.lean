/-!
# Delayed calls that are coalesced by key

A `Debouncer` holds at most one armed call for each key. Arming a call under a key takes the place
of the call that was armed there, and a call fires only while it is armed, so of several calls
inside one delay only the last one is ever made.

Every arming gets a number of its own, its generation. The timer of a call carries a `Ticket` with
that number. A timer cannot be taken back, but a timer whose ticket is no longer in the table
changes nothing when it wakes.
-/

namespace CodeHints

/-- What the timer of an armed call knows. -/
structure Ticket (κ : Type) where
  key : κ
  generation : Nat
  deadline : Nat
  deriving DecidableEq, Repr

/-- An armed call. -/
structure ArmedCall (κ τ : Type) where
  ticket : Ticket κ
  task : τ

/-- Calls that wait for their deadlines, in the order in which they were armed. -/
structure Debouncer (κ τ : Type) where
  armed : List (ArmedCall κ τ)
  /-- How many calls have been armed so far. -/
  generation : Nat

namespace Debouncer

variable {κ τ : Type}

def empty : Debouncer κ τ := ⟨[], 0⟩

variable [DecidableEq κ]

/-- Arm a call that is due at `deadline`, in the place of any other call under its key. -/
def schedule (d : Debouncer κ τ) (key : κ) (deadline : Nat) (task : τ) :
    Ticket κ × Debouncer κ τ :=
  let ticket := ⟨key, d.generation + 1, deadline⟩
  (ticket,
    { armed := d.armed.filter (·.ticket.key ≠ key) ++ [⟨ticket, task⟩]
      generation := d.generation + 1 })

def find? (d : Debouncer κ τ) (key : κ) : Option (ArmedCall κ τ) :=
  d.armed.find? (·.ticket.key = key)

/-- Whether a call is armed under a key. -/
def isPending (d : Debouncer κ τ) (key : κ) : Bool := (d.find? key).isSome

/-- When the call under a key is due. -/
def deadline? (d : Debouncer κ τ) (key : κ) : Option Nat := (d.find? key).map (·.ticket.deadline)

def erase (d : Debouncer κ τ) (key : κ) : Debouncer κ τ :=
  { d with armed := d.armed.filter (·.ticket.key ≠ key) }

/-- Take back the call under a key. The result tells whether there was one. -/
def cancel (d : Debouncer κ τ) (key : κ) : Bool × Debouncer κ τ := (d.isPending key, d.erase key)

def cancelAll (d : Debouncer κ τ) : Debouncer κ τ := { d with armed := [] }

def count (d : Debouncer κ τ) : Nat := d.armed.length

/-- Let a timer wake at the time `now`. Its call leaves the table and is to be made if it is still
the one that the timer was started for and is due. -/
def wake (d : Debouncer κ τ) (now : Nat) (ticket : Ticket κ) : Option τ × Debouncer κ τ :=
  match d.find? ticket.key with
  | some call =>
    if call.ticket.generation = ticket.generation ∧ ticket.deadline ≤ now then
      (some call.task, d.erase ticket.key)
    else (none, d)
  | none => (none, d)

/-- The tickets of all armed calls, in the order of arming. -/
def tickets (d : Debouncer κ τ) : List (Ticket κ) := d.armed.map (·.ticket)

/-- The earliest deadline of an armed call. -/
def nextDeadline? (d : Debouncer κ τ) : Option Nat := (d.tickets.map (·.deadline)).min?

/-- The tickets of the calls that are due at a time, in the order of arming. -/
def due (d : Debouncer κ τ) (time : Nat) : List (Ticket κ) :=
  d.tickets.filter (·.deadline = time)

end Debouncer

end CodeHints
