import CodeHints.Json.Value
import CodeHints.Worker.Debouncer

/-!
# Scripted runs of a debouncer

A debouncer under a clock that only the script moves. Arming a call starts a timer, and a timer runs
as soon as the steps at hand are done. It fires if it is due, and otherwise it sleeps until the
clock reaches its deadline. Timers that are due at one moment run in the order of their arming.

A call that fires performs steps of its own. Every step of a script is performed at most once, so
the number of steps in a script bounds the number of timers, and the loops below take it as their
fuel.
-/

namespace CodeHints.Scenario.Debounce

inductive Step where
  /-- Arm a call that tells its label and performs the steps of its own. -/
  | schedule (key : String) (delay : Nat) (label : Json) (steps : List Step)
  | cancel (key : String)
  | cancelAll
  | isPending (key : String)
  | deadline (key : String)
  | count
  /-- Steps with nothing between them. -/
  | batch (steps : List Step)
  /-- Move the clock. -/
  | advance (delay : Nat)
  /-- A step that is none of these. -/
  | unknown
  deriving Inhabited

mutual

def Step.weight : Step → Nat
  | .schedule _ _ _ steps => weights steps + 1
  | .batch steps => weights steps + 1
  | _ => 1

def weights : List Step → Nat
  | [] => 0
  | step :: rest => step.weight + weights rest

end

inductive Reply where
  | nothing
  | badStep
  | flag (b : Bool)
  | count (n : Nat)
  /-- The deadline of a call, if there is one. -/
  | time (t : Option Nat)
  | all (replies : List Reply)
  deriving Inhabited

inductive Event where
  /-- A call fires; `armed` tells whether another one is armed under its key. -/
  | fired (key : String) (label : Json) (time : Nat) (armed : Bool)
  /-- A step inside a call was performed. -/
  | nested (reply : Reply)

/-- What a call does. -/
structure Task where
  label : Json
  steps : List Step

/-- The state of a run. -/
structure State where
  clock : Nat
  debouncer : Debouncer String Task
  /-- The timers that run next. -/
  ready : List (Ticket String)
  /-- What has happened, the oldest first. -/
  events : List Event

namespace State

def start : State := ⟨0, .empty, [], []⟩

/-- The latest time that is reported. -/
def lastTime : Nat := 0xffffffffffffffff

def note (s : State) (e : Event) : State := { s with events := s.events ++ [e] }

mutual

/-- Perform a step; nothing else runs in between. -/
def perform (s : State) : Step → Reply × State
  | .schedule key delay label steps =>
    let (ticket, debouncer) := s.debouncer.schedule key (s.clock + delay) ⟨label, steps⟩
    (.nothing, { s with debouncer := debouncer, ready := s.ready ++ [ticket] })
  | .cancel key =>
    let (found, debouncer) := s.debouncer.cancel key
    (.flag found, { s with debouncer := debouncer })
  | .cancelAll => (.nothing, { s with debouncer := s.debouncer.cancelAll })
  | .isPending key => (.flag (s.debouncer.isPending key), s)
  | .deadline key => (.time ((s.debouncer.deadline? key).map (min · lastTime)), s)
  | .count => (.count s.debouncer.count, s)
  | .batch steps =>
    let (replies, s) := s.performAll steps
    (.all replies, s)
  | .advance _ | .unknown => (.badStep, s)

def performAll (s : State) : List Step → List Reply × State
  | [] => ([], s)
  | step :: rest =>
    let (reply, s) := s.perform step
    let (replies, s) := s.performAll rest
    (reply :: replies, s)

end

/-- Let a call perform its steps. -/
def performNested (s : State) (steps : List Step) : State :=
  steps.foldl (fun s step ↦
    let (reply, s) := s.perform step
    s.note (.nested reply)) s

/-- Let a timer wake. -/
def wake (s : State) (ticket : Ticket String) : State :=
  match s.debouncer.wake s.clock ticket with
  | (some task, debouncer) =>
    let s := { s with debouncer := debouncer }
    let s := s.note (.fired ticket.key task.label s.clock (debouncer.isPending ticket.key))
    s.performNested task.steps
  | (none, _) => s

/-- Run everything that can run without moving the clock. -/
def settle : Nat → State → State
  | 0, s => s
  | fuel + 1, s =>
    match s.ready with
    | [] => s
    | ticket :: rest => settle fuel (wake { s with ready := rest } ticket)

/-- Move the clock to `stop`, with a halt at every deadline on the way. -/
def advance (fuel stop : Nat) : Nat → State → State
  | 0, s => { s with clock := stop }
  | halts + 1, s =>
    match s.debouncer.nextDeadline? with
    | some deadline =>
      if deadline ≤ stop then
        let s := { s with clock := deadline, ready := s.debouncer.due deadline }
        advance fuel stop halts (settle fuel s)
      else { s with clock := stop }
    | none => { s with clock := stop }

/-- Perform a step of the script, and then everything that can run. -/
def step (fuel : Nat) (s : State) : Step → Reply × State
  | .advance delay => (.nothing, advance fuel (s.clock + delay) fuel s)
  | other =>
    let (reply, s) := s.perform other
    (reply, settle fuel s)

end State

/-- The result of a step of the script, what happened during it, and the state after it. -/
structure Report where
  reply : Reply
  events : List Event
  clock : Nat
  pending : Nat

def reports (fuel : Nat) : State → List Step → List Report
  | _, [] => []
  | s, step :: rest =>
    let (reply, s) := { s with events := [] }.step fuel step
    ⟨reply, s.events, s.clock, s.debouncer.count⟩ :: reports fuel s rest

def run (steps : List Step) : List Report := reports (weights steps) .start steps

end CodeHints.Scenario.Debounce
