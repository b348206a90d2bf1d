import CodeHints.Editor.View

/-!
# What is asked about a view

An `Ask` is the snapshot of a view that a request is made about. It is taken when the request is
made, so nothing that happens to the view afterwards changes the answer.
-/

namespace CodeHints

/-- The identity of something that makes requests, such as a listener or a command. -/
structure InstanceId where
  val : Nat
  deriving DecidableEq, Repr

/-- Requests of one kind that are made by one instance take each other's place. -/
structure DebounceKey where
  requester : InstanceId
  kind : RequestKind
  deriving DecidableEq, Repr

/-- A request together with what it is about. -/
structure Ask where
  window : WindowKey
  requester : InstanceId
  vars : Variables
  context : RequestContext
  deriving DecidableEq, Repr

namespace Ask

/-- A request about a view at a place, or at the start of its first selection. A view without a
window, or without a place to ask about, cannot be asked about. -/
def ofView? (view : View) (requester : InstanceId) (location : Option Nat) (request : Request) :
    Option Ask := do
  let window ← view.window
  let location ← location <|> view.selections.head?.map (·.start)
  let (line, column) := view.lineAndColumn location
  return ⟨window, requester, view.vars, ⟨view.file, view.text, line, column, request⟩⟩

def key (a : Ask) : DebounceKey := ⟨a.requester, a.context.request.kind⟩

end Ask

end CodeHints
