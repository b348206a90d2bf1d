import CodeHints.Analysis.Answering
import CodeHints.Worker.Pool

/-!
# The environments and workers of the windows

A `Registry` keeps for each window the environment that was resolved for it and the worker that runs
its jobs. Both are made when they are first needed.

Resolving an environment takes a while, so it happens between two looks at the registry: `lookup`
finds what is there or tells the generation of the registry, and `insert` takes up what was
resolved.
Every invalidation starts a new generation, and an environment that was resolved in an older one is
not kept. Of two resolutions in one generation the first one wins.

An invalidation lets the workers go. Each of them keeps its jobs, and gets a last one that fires a
signal; the next worker of the window waits for that signal before it takes a job.
-/

namespace CodeHints

/-- An environment with a number that tells it from all others, even from equal ones. -/
structure Resolution where
  serial : Nat
  daemon : Daemon
  deriving DecidableEq, Repr

/-- The environments and workers of the windows. -/
structure Registry where
  daemons : List (WindowKey × Resolution)
  workers : List (WindowKey × WorkerId)
  /-- The signals that the next workers of windows will have to wait for. -/
  retiring : List (WindowKey × SignalId)
  /-- How many times the registry was invalidated. -/
  generation : Nat
  /-- How many environments were resolved. -/
  resolved : Nat

/-- What a look into the registry finds. -/
inductive Lookup where
  | cached (found : Resolution)
  /-- There is no environment yet, and the registry is in this generation. -/
  | missing (generation : Nat)

namespace Registry

def empty : Registry := ⟨[], [], [], 0, 0⟩

/-- Entries without the one of a window. -/
def without {β : Type} (entries : List (WindowKey × β)) (window : WindowKey) :
    List (WindowKey × β) :=
  entries.filter (·.1 ≠ window)

/-! ## Environments -/

def daemon? (r : Registry) (window : WindowKey) : Option Resolution := r.daemons.lookup window

/-- Look for the environment of a window. -/
def lookup (r : Registry) (window : WindowKey) : Lookup :=
  match r.daemon? window with
  | some found => .cached found
  | none => .missing r.generation

/-- Take up an environment that was resolved for a window after a look that found the registry in a
generation. The result is the environment to use: the one that is kept, if there is one by now. -/
def insert (r : Registry) (window : WindowKey) (generation : Nat) (daemon : Daemon) :
    Resolution × Registry :=
  let fresh := ⟨r.resolved, daemon⟩
  let r := { r with resolved := r.resolved + 1 }
  if r.generation ≠ generation then (fresh, r)
  else
    match r.daemon? window with
    | some first => (first, r)
    | none => (fresh, { r with daemons := r.daemons ++ [(window, fresh)] })

/-! ## Workers -/

variable {α : Type}

/-- The name of the worker of a window. -/
def workerName (window : WindowKey) : String := "pyhint-window-" ++ toString window.val

/-- The worker of a window, which is started if there is none. -/
def worker (r : Registry) (pool : WorkerPool α) (window : WindowKey) :
    WorkerId × Registry × WorkerPool α :=
  match r.workers.lookup window with
  | some id => (id, r, pool)
  | none =>
    let (id, pool) := pool.start (workerName window) (r.retiring.lookup window)
    (id,
      { r with
        workers := r.workers ++ [(window, id)]
        retiring := without r.retiring window },
      pool)

/-- Let the worker of a window go once it has drained. -/
def retire (r : Registry) (pool : WorkerPool α) (window : WindowKey) (id : WorkerId) :
    Registry × WorkerPool α :=
  let (signal, pool) := pool.drained id
  ({ r with retiring := without r.retiring window ++ [(window, signal)] }, pool.release id)

/-- The order in which workers are let go: the youngest first. -/
def retirementOrder (r : Registry) : List (WindowKey × WorkerId) := r.workers.reverse

/-- Forget every environment, and let every worker go. -/
def invalidateAll (r : Registry) (pool : WorkerPool α) : Registry × WorkerPool α :=
  let (r, pool) := r.retirementOrder.foldl
    (fun (r, pool) (window, id) ↦ r.retire pool window id) (r, pool)
  ({ r with daemons := [], workers := [], generation := r.generation + 1 }, pool)

def stopWorker (pool : WorkerPool α) (id : WorkerId) : WorkerPool α := (pool.shutdown id).release id

/-- Forget a window and stop its worker. -/
def removeWindow (r : Registry) (pool : WorkerPool α) (window : WindowKey) :
    Registry × WorkerPool α :=
  ({ r with
      daemons := without r.daemons window
      workers := without r.workers window
      retiring := without r.retiring window },
    match r.workers.lookup window with
    | some id => stopWorker pool id
    | none => pool)

/-- Forget everything and stop every worker. -/
def shutdown (r : Registry) (pool : WorkerPool α) : Registry × WorkerPool α :=
  ({ r with daemons := [], workers := [], retiring := [], generation := r.generation + 1 },
    r.workers.foldl (fun pool (_, id) ↦ stopWorker pool id) pool)

end Registry

end CodeHints
