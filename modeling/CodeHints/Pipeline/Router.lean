import CodeHints.Analysis.Request

/-!
# Delivery to windows

Answers are delivered to windows, not to the views they were asked for. Attaching a window opens an
inbox, and what is delivered to the window from then on goes to this inbox, until the window is
detached or attached again. An inbox keeps what it has accepted, also when its window has gone. When
the holder of an inbox drops it, its window counts as gone.
-/

namespace CodeHints

/-- The identity of an inbox. -/
structure InboxId where
  index : Nat
  deriving DecidableEq, Repr

/-- Deliveries that wait to be taken. -/
structure Inbox (δ : Type) where
  queue : List δ
  /-- Whether somebody still holds the inbox. -/
  isHeld : Bool

/-- All inboxes that were ever opened, and where each window's deliveries go. -/
structure Router (δ : Type) where
  inboxes : List (Inbox δ)
  windows : List (WindowKey × InboxId)

namespace Router

variable {δ : Type}

def empty : Router δ := ⟨[], []⟩

def inbox? (r : Router δ) (id : InboxId) : Option (Inbox δ) := r.inboxes[id.index]?

def modify (r : Router δ) (id : InboxId) (f : Inbox δ → Inbox δ) : Router δ :=
  { r with inboxes := r.inboxes.modify id.index f }

def detach (r : Router δ) (window : WindowKey) : Router δ :=
  { r with windows := r.windows.filter (·.1 ≠ window) }

/-- Open an inbox for a window, in the place of the one it had. -/
def attach (r : Router δ) (window : WindowKey) : InboxId × Router δ :=
  let id := ⟨r.inboxes.length⟩
  (id,
    { inboxes := r.inboxes ++ [⟨[], true⟩]
      windows := (r.detach window).windows ++ [(window, id)] })

def clear (r : Router δ) : Router δ := { r with windows := [] }

/-- Whether somebody holds an inbox. -/
def isHeld (r : Router δ) (id : InboxId) : Bool := ((r.inbox? id).map (·.isHeld)).getD false

/-- Where deliveries to a window go, unless it is gone. -/
def target? (r : Router δ) (window : WindowKey) : Option InboxId :=
  (r.windows.lookup window).filter r.isHeld

/-- Whether a window is there. -/
def isAttached (r : Router δ) (window : WindowKey) : Bool := (r.target? window).isSome

/-- Deliver something to a window. The result tells whether it was accepted. -/
def deliver (r : Router δ) (window : WindowKey) (delivery : δ) : Bool × Router δ :=
  match r.target? window with
  | some id => (true, r.modify id fun box ↦ { box with queue := box.queue ++ [delivery] })
  | none => (false, r)

/-- What waits in an inbox, the oldest first. -/
def queued (r : Router δ) (id : InboxId) : List δ := ((r.inbox? id).map (·.queue)).getD []

/-- Take the oldest delivery out of an inbox. -/
def take? (r : Router δ) (id : InboxId) : Option (δ × Router δ) :=
  match r.queued id with
  | first :: rest => some (first, r.modify id fun box ↦ { box with queue := rest })
  | [] => none

def takeAll (r : Router δ) (id : InboxId) : List δ × Router δ :=
  (r.queued id, r.modify id fun box ↦ { box with queue := [] })

/-- Whether nothing can come out of an inbox any more. -/
def isFinished (r : Router δ) (id : InboxId) : Bool :=
  (r.queued id).isEmpty && !r.windows.any (·.2 = id)

/-- Give an inbox up. What is in it is lost. -/
def drop (r : Router δ) (id : InboxId) : Router δ := r.modify id fun _ ↦ ⟨[], false⟩

end Router

end CodeHints
