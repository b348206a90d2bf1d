import CodeHints.Completion.State

/-!
# Scripted runs of the bookkeeping of completions
-/

namespace CodeHints.Scenario.Completion

/-- One step, at a place in the text. -/
inductive Step where
  | mark (location : Nat)
  | expects (location : Nat)
  | inFlight (location : Nat)
  | consume (location : Nat)
  | result (location : Nat) (entries : List Entry) (popupVisible : Bool)
  /-- A step that is none of these. -/
  | unknown

inductive Reply where
  | nothing
  | badStep
  | flag (b : Bool)
  | entries (found : Option (List Entry))
  | action (a : ReconcileAction)

def step (s : CompletionState) : Step → Reply × CompletionState
  | .mark location => (.nothing, s.markRequested location)
  | .expects location => (.flag (s.expects location), s)
  | .inFlight location => (.flag (s.isInFlight location), s)
  | .consume location =>
    let (found, s) := s.consume location
    (.entries found, s)
  | .result location entries popupVisible =>
    let (action, s) := s.onNewResult location entries popupVisible
    (.action action, s)
  | .unknown => (.badStep, s)

end CodeHints.Scenario.Completion
