import CodeHints.Analysis.Request
import CodeHints.Editor.Command

/-!
# The bookkeeping of completions

The editor asks for completions twice: once to start a request, and once more at the same place
when the answer has arrived and the popup is shown again. `CompletionState` remembers for which
place a request is outstanding and for which place the current list was computed.

A visible popup is narrowed by the editor itself, so a new list of which every text is already
shown needs no new popup.
-/

namespace CodeHints

/-- What happens to the popup when a list arrives. -/
inductive ReconcileAction where
  /-- The popup stays as it is. -/
  | suppress
  /-- The popup is hidden and shown again. -/
  | replaceAndShow
  deriving DecidableEq, Repr

/-- Whether every text that `new` inserts is also inserted by `previous`. -/
def isSubset (new previous : List Entry) : Bool :=
  new.all fun e ↦ previous.any (·.insertText == e.insertText)

/-- The lists and places that one listener remembers. -/
structure CompletionState where
  current : List Entry
  /-- The list before the current one. -/
  previous : List Entry
  /-- Where a request is outstanding whose list has not been handed out. -/
  lastRequest : Option Nat
  /-- Where the current list was computed. -/
  deliveredAt : Option Nat
  deriving DecidableEq, Repr

namespace CompletionState

/-- Nothing has been asked or delivered. -/
def empty : CompletionState := ⟨[], [], none, none⟩

/-- Note that a request was issued at a place. A list delivered there before is no answer to it. -/
def markRequested (s : CompletionState) (location : Nat) : CompletionState :=
  { s with
    lastRequest := some location
    deliveredAt := if s.deliveredAt = some location then none else s.deliveredAt }

/-- Whether a list for a place is still wanted. -/
def expects (s : CompletionState) (location : Nat) : Bool := s.lastRequest = some location

/-- Whether the request at a place has not been answered yet. -/
def isInFlight (s : CompletionState) (location : Nat) : Bool :=
  s.expects location && s.deliveredAt ≠ some location

/-- Hand out the list for a place to a second query. The request counts as served even if the list
is empty, in which case nothing is handed out. -/
def consume (s : CompletionState) (location : Nat) : Option (List Entry) × CompletionState :=
  if s.expects location && s.deliveredAt = some location then
    (if s.current.isEmpty then none else some s.current, { s with lastRequest := none })
  else (none, s)

/-- Take up the list that was computed for a place, and decide what happens to the popup. -/
def onNewResult (s : CompletionState) (location : Nat) (new : List Entry) (popupVisible : Bool) :
    ReconcileAction × CompletionState :=
  let action :=
    if new.isEmpty then .suppress
    else if !popupVisible || !isSubset new s.current then .replaceAndShow
    else .suppress
  (action, { s with current := new, previous := s.current, deliveredAt := some location })

end CompletionState

/-- The commands that carry out what was decided about the popup. -/
def ReconcileAction.commands (action : ReconcileAction) (visibility : Visibility) :
    List UiCommand :=
  match action with
  | .suppress => []
  | .replaceAndShow => showCommands visibility

end CodeHints
