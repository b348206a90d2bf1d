import CodeHints.Pipeline.Ask
import CodeHints.Pipeline.Registry
import CodeHints.Pipeline.Router
import CodeHints.Settings.Store
import CodeHints.Worker.Debouncer

/-!
# The pipeline

A request is held back by the debouncer, submitted to the worker of its window when its timer fires,
answered there in the environment of the window, and delivered to the window's inbox if there is an
answer. Changes of the settings reach the registry and the log through two observers of the store.

Everything that happens is one of the small steps below, each of which runs without interruption.
Answering is a sequence of such steps with calls of the analyzer between them, and anything may
happen during a call. It is written for any monad that has `Access` to the pipeline.

The parameter `κ` stands for what is known about the one who takes an answer.

## What is left out

Time passes only where a step is given a time, and nothing is said about how long a call takes.
Numbers that are counted up, such as generations, have no bound. What is written to the log is left
out; its level is not.
-/

namespace CodeHints

/-- Access from a monad to a state that others change as well, one uninterrupted step at a time. -/
structure Access (σ : Type) (m : Type → Type) where
  step {β : Type} : (σ → β × σ) → m β

/-- A request and the one who takes its answer. -/
structure Inquiry (κ : Type) where
  ask : Ask
  receiver : κ

/-- An answer on its way to the one who takes it. -/
structure Delivery (κ : Type) where
  receiver : κ
  answer : Answer

/-- The state of the pipeline. -/
structure Pipeline (κ : Type) where
  store : SettingsStore
  registry : Registry
  pool : WorkerPool (Inquiry κ)
  router : Router (Delivery κ)
  debouncer : Debouncer DebounceKey (Inquiry κ)
  /-- Which change the registry takes up next, unless it observes no more. -/
  registryObserver : Option Nat
  /-- Which change the log takes up next, unless it observes no more. -/
  logObserver : Option Nat
  /-- The level of the log, if there is a log. -/
  log : Option LogLevel
  isShutDown : Bool

namespace Pipeline

variable {κ : Type}

def start (settings : Settings) (hasLog : Bool) : Pipeline κ where
  store := .new settings
  registry := .empty
  pool := .empty
  router := .empty
  debouncer := .empty
  registryObserver := some 0
  logObserver := if hasLog then some 0 else none
  log := if hasLog then some settings.loggingLevel else none
  isShutDown := false

/-! ## The registry -/

/-- Forget every environment, and let every worker go. -/
def invalidateAll (p : Pipeline κ) : Pipeline κ :=
  let (registry, pool) := p.registry.invalidateAll p.pool
  { p with registry := registry, pool := pool }

/-- Invalidate if the change of some settings calls for it. The result tells whether it does. -/
def settingsChanged (p : Pipeline κ) (change : SettingsChange) : Bool × Pipeline κ :=
  if change.touchesEnvironment then (true, p.invalidateAll) else (false, p)

/-- Forget a window and stop its worker. -/
def removeWindow (p : Pipeline κ) (window : WindowKey) : Pipeline κ :=
  let (registry, pool) := p.registry.removeWindow p.pool window
  { p with registry := registry, pool := pool }

/-- Forget every window and stop every worker. -/
def shutdownRegistry (p : Pipeline κ) : Pipeline κ :=
  let (registry, pool) := p.registry.shutdown p.pool
  { p with registry := registry, pool := pool }

def worker (p : Pipeline κ) (window : WindowKey) : WorkerId × Pipeline κ :=
  let (id, registry, pool) := p.registry.worker p.pool window
  (id, { p with registry := registry, pool := pool })

/-! ## Requests on their way to a worker -/

/-- Hold a request back for as long as the settings say. It takes the place of one that is held back
under the same key. -/
def ask (p : Pipeline κ) (now : Nat) (inquiry : Inquiry κ) : Ticket DebounceKey × Pipeline κ :=
  let (ticket, debouncer) :=
    p.debouncer.schedule inquiry.ask.key (now + p.store.current.completionTimeout) inquiry
  (ticket, { p with debouncer := debouncer })

/-- Submit a request to the worker of its window. A request that the worker refuses is gone. -/
def submit (p : Pipeline κ) (inquiry : Inquiry κ) : Pipeline κ :=
  let (id, p) := p.worker inquiry.ask.window
  match p.pool.submit id (.task inquiry) with
  | .ok pool => { p with pool := pool }
  | .error _ => p

/-- Let the timer of a request wake, and submit the request if it was still held back. -/
def wake (p : Pipeline κ) (now : Nat) (ticket : Ticket DebounceKey) : Pipeline κ :=
  match p.debouncer.wake now ticket with
  | (some inquiry, debouncer) => { p with debouncer := debouncer }.submit inquiry
  | (none, _) => p

/-! ## Answering -/

section Answering

variable {m : Type → Type} [Monad m]

/-- The environment of a window, which is resolved if there is none. -/
def getOrCreate (access : Access (Pipeline κ) m) (engine : Engine m) (window : WindowKey)
    (vars : Variables) (settings : Settings) : m (Outcome DaemonError Resolution) := do
  match ← access.step fun p ↦ (p.registry.lookup window, p) with
  | .cached found => return .value found
  | .missing generation =>
    match ← Daemon.create engine window vars settings with
    | .value daemon =>
      let found ← access.step fun p ↦
        let (found, registry) := p.registry.insert window generation daemon
        (found, { p with registry := registry })
      return .value found
    | .failed e => return .failed e
    | .broken payload => return .broken payload

def askSync (access : Access (Pipeline κ) m) (engine : Engine m) (ask : Ask) :
    m (Outcome DaemonError (Option Answer)) := do
  let settings ← access.step fun p ↦ (p.store.current, p)
  match ← getOrCreate access engine ask.window ask.vars settings with
  | .value found => return .value (← found.daemon.request engine ask.context)
  | .failed e => return .failed e
  | .broken payload => return .broken payload

def deliver (access : Access (Pipeline κ) m) (inquiry : Inquiry κ) :
    Outcome DaemonError (Option Answer) → m Unit
  | .value (some answer) =>
    access.step fun p ↦
      ((), { p with
        router := (p.router.deliver inquiry.ask.window ⟨inquiry.receiver, answer⟩).2 })
  | _ => return

/-- Do what a job of a worker is there for. A job that only fires a signal has nothing else to
do. -/
def runJob (access : Access (Pipeline κ) m) (engine : Engine m) : Job (Inquiry κ) → m Unit
  | .signal _ => return
  | .task inquiry => do deliver access inquiry (← askSync access engine inquiry.ask)

end Answering

/-! ## Turns of workers, and inboxes -/

/-- Give the consumer of a worker its turn. The result holds the jobs that it drops. -/
def poll (p : Pipeline κ) (id : WorkerId) : List (Job (Inquiry κ)) × Pipeline κ :=
  let (dropped, pool) := p.pool.poll id
  (dropped, { p with pool := pool })

/-- Let the job begin that a worker has handed over. -/
def begin? (p : Pipeline κ) (id : WorkerId) : Option (Job (Inquiry κ) × Pipeline κ) :=
  match p.pool.begin? id with
  | some (job, pool) => some (job, { p with pool := pool })
  | none => none

def finish (p : Pipeline κ) (id : WorkerId) : Pipeline κ := { p with pool := p.pool.finish id }

/-- Take the oldest answer out of an inbox. -/
def take? (p : Pipeline κ) (inbox : InboxId) : Option (Delivery κ × Pipeline κ) :=
  match p.router.take? inbox with
  | some (delivery, router) => some (delivery, { p with router := router })
  | none => none

/-- Give an inbox up. What is in it is lost. -/
def drop (p : Pipeline κ) (inbox : InboxId) : Pipeline κ :=
  { p with router := p.router.drop inbox }

/-! ## Observers of the settings -/

/-- Let the registry take up one change. Lost changes count as one that calls for an
invalidation. -/
def observeForRegistry (p : Pipeline κ) : Pipeline κ :=
  match p.registryObserver with
  | none => p
  | some next =>
    if p.isShutDown then { p with registryObserver := none }
    else
      let (received, next) := p.store.changes.receive next
      let p := { p with registryObserver := some next }
      match received with
      | .event change => (p.settingsChanged change).2
      | .lagged _ => p.invalidateAll
      | .nothing => p

/-- The registry takes up a change by an invalidation, or the change does not matter to it. -/
theorem observeForRegistry_cases (p : Pipeline κ) : ∃ observer,
    p.observeForRegistry = { p with registryObserver := observer } ∨
      p.observeForRegistry = { p with registryObserver := observer }.invalidateAll := by
  unfold observeForRegistry
  split
  · exact ⟨p.registryObserver, .inl rfl⟩
  · split
    · exact ⟨none, .inl rfl⟩
    · dsimp only
      split
      · unfold settingsChanged
        split
        · exact ⟨_, .inr rfl⟩
        · exact ⟨_, .inl rfl⟩
      · exact ⟨_, .inr rfl⟩
      · exact ⟨_, .inl rfl⟩

/-- Let the log take up one change. After lost changes it takes the level that is now in effect. -/
def observeForLog (p : Pipeline κ) : Pipeline κ :=
  match p.logObserver with
  | none => p
  | some next =>
    if p.isShutDown then { p with logObserver := none }
    else
      let (received, next) := p.store.changes.receive next
      let p := { p with logObserver := some next }
      match received with
      | .event change =>
        if change.hasChanged .loggingLevel then { p with log := some change.settings.loggingLevel }
        else p
      | .lagged _ => { p with log := some p.store.current.loggingLevel }
      | .nothing => p

/-- Taking up a change for the log concerns the log alone. -/
theorem observeForLog_cases (p : Pipeline κ) :
    ∃ observer log, p.observeForLog = { p with logObserver := observer, log := log } := by
  unfold observeForLog
  split
  · exact ⟨p.logObserver, p.log, rfl⟩
  · split
    · exact ⟨none, p.log, rfl⟩
    · dsimp only
      split
      · split
        · exact ⟨_, _, rfl⟩
        · exact ⟨_, p.log, rfl⟩
      · exact ⟨_, _, rfl⟩
      · exact ⟨_, p.log, rfl⟩

/-- Whether an observer that reads at a position has something to do. -/
def hasNews (p : Pipeline κ) : Option Nat → Bool
  | some next => p.isShutDown || next < p.store.changes.position
  | none => false

def observerCount (p : Pipeline κ) : Nat :=
  [p.registryObserver, p.logObserver].countP (·.isSome)

/-! ## Windows, settings and the end -/

/-- Open an inbox for a window. -/
def attachWindow (p : Pipeline κ) (window : WindowKey) : InboxId × Pipeline κ :=
  let (id, router) := p.router.attach window
  (id, { p with router := router })

/-- Drop what is delivered to a window from now on, and stop its worker. -/
def detachWindow (p : Pipeline κ) (window : WindowKey) : Pipeline κ :=
  { p with router := p.router.detach window }.removeWindow window

/-- Go on to the next level of logging. -/
def toggleLog (p : Pipeline κ) : LogLevel × Pipeline κ :=
  let level := p.store.current.loggingLevel.next
  (level, { p with store := (p.store.update ({ · with loggingLevel := level })).2 })

/-- Drop the requests that are held back, stop every worker and detach every window. -/
def shutdownRequests (p : Pipeline κ) : Pipeline κ :=
  let p := { p with debouncer := p.debouncer.cancelAll }.shutdownRegistry
  { p with router := p.router.clear }

/-- Stop everything. Only the first time matters. -/
def shutdown (p : Pipeline κ) : Pipeline κ :=
  if p.isShutDown then p else { p with isShutDown := true }.shutdownRequests

end Pipeline

end CodeHints
