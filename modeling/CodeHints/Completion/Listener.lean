import CodeHints.Completion.State
import CodeHints.Editor.View

/-!
# Answering the editor's queries

The editor queries for completions and wants an answer at once, while the analyzer takes its time. A
query at a new place therefore starts a request and shows nothing. When the answer arrives, the
popup may be shown again, which makes the editor query a second time at the same place, and this
query is given the list.
-/

namespace CodeHints

/-- The answer to a query. -/
inductive QueryResponse where
  /-- The editor is to use its own completions. -/
  | decline
  /-- Nothing is shown until the answer arrives. -/
  | pending
  | completions (entries : List Entry)
  deriving DecidableEq, Repr

/-- What a query leads to. -/
structure QueryOutcome where
  response : QueryResponse
  state : CompletionState
  /-- The place at which a request is to be made, if one is to be made. -/
  request : Option Nat
  deriving DecidableEq, Repr

/-- Whether completions are offered in a view: it is being edited, consoles are allowed if it is
one, and its first cursor is in the configured scope. -/
def View.isEnabled (v : View) (settings : Settings) : Bool :=
  v.isActive && (!v.isRepl || settings.enableInRepl) &&
    match v.selections with
    | [] => false
    | first :: _ => v.scope.matchesAt first.start settings.commandsScope

/-- Whether the character before a place lets completions begin there. -/
def View.isTriggeredAt (v : View) (settings : Settings) (location : Nat) : Bool :=
  match settings.triggerPattern with
  | some pattern => pattern.matchesStart (((v.charBefore? location).map String.singleton).getD "")
  | none => true

namespace CompletionState

/-- Answer a query at several places, of which the first one counts. -/
def query (s : CompletionState) (settings : Settings) (view : View) (locations : List Nat) :
    QueryOutcome :=
  match locations with
  | [] => ⟨.decline, s, none⟩
  | location :: _ =>
    if !view.isEnabled settings then ⟨.decline, s, none⟩
    else if !view.isTriggeredAt settings location then ⟨.decline, s, none⟩
    else if !s.expects location then ⟨.pending, s.markRequested location, some location⟩
    else if s.isInFlight location then ⟨.pending, s, none⟩
    else
      match s.consume location with
      | (some entries, s) => ⟨.completions entries, s, none⟩
      | (none, s) => ⟨.decline, s, none⟩

/-- Take up the answer to the request that was made at a place. An answer that is not waited for any
more changes nothing. -/
def receive (s : CompletionState) (visibility : Visibility) (location : Nat) (answer : Answer)
    (popupVisible : Bool) : List UiCommand × CompletionState :=
  match answer with
  | .completions entries =>
    if s.expects location then
      let (action, s) := s.onNewResult location entries popupVisible
      (action.commands visibility, s)
    else ([], s)
  | .template _ => ([], s)

end CompletionState

end CodeHints
