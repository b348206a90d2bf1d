import CodeHints.Worker.Task

/-!
# Values that jobs leave behind

Whoever submits a job may want to have the value that it yields. The job leaves its value in a
`Promise`, from which it is taken once. A job that breaks down, or is dropped before it begins,
closes its promise without a value.
-/

namespace CodeHints

/-- What is in the place where a job leaves its value. -/
inductive Promise (β : Type) where
  /-- The job has not ended. -/
  | pending
  | value (b : β)
  /-- There will be no value, or it has been taken. -/
  | closed
  deriving DecidableEq, Repr

/-- The promise of a job that has ended. -/
def Promise.ofEnd {β : Type} : TaskEnd β → Promise β
  | .value b => .value b
  | .broken _ | .cancelled => .closed

/-- The identity of a promise. -/
structure PromiseId where
  index : Nat
  deriving DecidableEq, Repr

/-- All promises that were ever made. -/
structure Promises (β : Type) where
  all : List (Promise β)

namespace Promises

variable {β : Type}

def empty : Promises β := ⟨[]⟩

def next (p : Promises β) : PromiseId := ⟨p.all.length⟩

def make (p : Promises β) : Promises β := ⟨p.all ++ [.pending]⟩

def get (p : Promises β) (id : PromiseId) : Promise β := p.all[id.index]?.getD .closed

def settle (p : Promises β) (id : PromiseId) (result : TaskEnd β) : Promises β :=
  ⟨p.all.set id.index (.ofEnd result)⟩

/-- Look at a promise. A value is taken by the look. -/
def take (p : Promises β) (id : PromiseId) : Promise β × Promises β :=
  match p.get id with
  | .pending => (.pending, p)
  | found => (found, ⟨p.all.set id.index .closed⟩)

end Promises

end CodeHints
