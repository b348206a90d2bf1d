import CodeHints.Scenario.Session.Step

/-!
# The world of a script

The pipeline, everything that a script has named, and the main thread.

The main thread has a queue of tasks: timers that have been started or are due, observers with a
change to take up, consumers of workers with something to do, and the wait for a delivery. A timer
joins the queue when it is started and when the clock reaches its deadline. Everything else joins it
as soon as there is something to do and stays away from it otherwise, which is why every change of
the pipeline is followed by `World.refresh`.
-/

namespace CodeHints.Scenario.Session

inductive MainTask where
  | timer (ticket : Ticket DebounceKey)
  | registryObserver
  | logObserver
  | consumer (id : WorkerId)
  /-- The wait for a delivery. -/
  | reception
  deriving DecidableEq

/-- A listener that the script has made. -/
structure Listener where
  requester : InstanceId
  /-- Which bookkeeping is its own. -/
  index : Nat

/-- A wait for one delivery to a view. -/
structure Waiting where
  inbox : InboxId
  view : String
  /-- How the wait has ended. -/
  result : Option Reception

/-- The state of a run. -/
structure World where
  clock : Nat
  pipeline : Pipeline Receiver
  engine : EngineScript
  /-- The steps to be performed during calls of the engine. -/
  hooks : List (String × List Step)
  /-- Whether the steps at hand are performed inside a job. -/
  isInJob : Bool
  views : List (String × View)
  requesters : List (String × InstanceId)
  /-- How many instances there are. -/
  requesterCount : Nat
  listeners : List (String × Listener)
  bookkeeping : List CompletionState
  commands : List (String × InstanceId)
  inboxes : List (String × InboxId)
  daemons : List (String × Resolution)
  workers : List (String × WorkerId)
  waiting : Option Waiting
  /-- The tasks of the main thread, the next one first. -/
  ready : List MainTask
  /-- What has happened, the oldest first. -/
  events : List Event
  /-- A bound on the number of tasks that run before the main thread is idle. -/
  patience : Nat

/-- Bind a name, in the place of what it named before. -/
def bind {α : Type} (names : List (String × α)) (name : String) (a : α) : List (String × α) :=
  names.filter (·.1 ≠ name) ++ [(name, a)]

namespace World

def note (w : World) (e : Event) : World := { w with events := w.events ++ [e] }

/-! ## The queue of the main thread -/

/-- Whether a wait for a delivery can end. -/
def canReceive (w : World) : Bool :=
  match w.waiting with
  | some ⟨inbox, _, none⟩ =>
    !(w.pipeline.router.queued inbox).isEmpty || w.pipeline.router.isFinished inbox
  | _ => false

/-- The consumers with something to do, those of the youngest workers first. -/
def runnableConsumers (w : World) : List WorkerId :=
  ((List.range w.pipeline.pool.workers.length).reverse.map WorkerId.mk).filter
    w.pipeline.pool.isRunnable

/-- The tasks with something to do, timers excepted. -/
def runnable (w : World) : List MainTask :=
  (if w.pipeline.hasNews w.pipeline.registryObserver then [.registryObserver] else []) ++
  (if w.pipeline.hasNews w.pipeline.logObserver then [.logObserver] else []) ++
  w.runnableConsumers.map .consumer ++
  (if w.canReceive then [.reception] else [])

/-- Let every task join the queue that has something to do. -/
def refresh (w : World) : World :=
  { w with ready := w.ready ++ w.runnable.filter (!w.ready.contains ·) }

/-- Put timers into the queue. -/
def startTimers (w : World) (tickets : List (Ticket DebounceKey)) : World :=
  { w with ready := w.ready ++ tickets.map .timer }

/-- Move the clock, and start the timers that are due then. -/
def moveClock (w : World) (time : Nat) : World :=
  { w with clock := time }.startTimers (w.pipeline.debouncer.due time)

/-- Change the pipeline. -/
def step {β : Type} (w : World) (f : Pipeline Receiver → β × Pipeline Receiver) :
    β × World :=
  let (b, p) := f w.pipeline
  (b, { w with pipeline := p }.refresh)

def change (w : World) (f : Pipeline Receiver → Pipeline Receiver) : World :=
  { w with pipeline := f w.pipeline }.refresh

/-! ## Views and deliveries -/

/-- Let a view run a command. -/
def runCommand (w : World) (view : String) (command : UiCommand) : World :=
  match w.views.lookup view with
  | some v => { w with views := bind w.views view (v.run command) }.note (.command view command)
  | none => w

def runCommands (w : World) (view : String) (commands : List UiCommand) : World :=
  commands.foldl (·.runCommand view ·) w

/-- Hand a delivery to its receiver, with a view to work on. -/
def runDelivery (w : World) (view : String) (delivery : Delivery Receiver) : World :=
  match w.views.lookup view with
  | none => w
  | some v =>
    match delivery.receiver with
    | .listener index location =>
      let state := w.bookkeeping[index]?.getD .empty
      let (commands, state) := state.receive w.pipeline.store.current.visibility location
        delivery.answer v.isPopupVisible
      { w with bookkeeping := w.bookkeeping.set index state }.runCommands view commands
    | .command => w.runCommands view (Parameters.receive delivery.answer)
    | .script tag => w.note (.answer delivery.answer tag v.id)
    | .stamp =>
      match delivery.answer with
      | .template text => w.runCommand view (.insertSnippet (text ++ "@" ++ toString v.id))
      | .completions _ => w

/-- End a wait for a delivery if that is possible. -/
def receive (w : World) : World :=
  match w.waiting with
  | some ⟨inbox, view, none⟩ =>
    match w.pipeline.take? inbox with
    | some (delivery, p) =>
      { w with
        pipeline := p
        waiting := some ⟨inbox, view, some .delivered⟩ }.runDelivery view delivery
    | none =>
      if w.pipeline.router.isFinished inbox then
        { w with waiting := some ⟨inbox, view, some .closed⟩ }
      else w
  | _ => w

/-! ## Running the main thread -/

/-- Let an observer take up changes, one after another. -/
def catchUp (observe : Pipeline Receiver → Pipeline Receiver) :
    Nat → World → World
  | 0, w => w
  | n + 1, w => catchUp observe n (w.change observe)

def runTask (w : World) : MainTask → World
  | .timer ticket => w.change (·.wake w.clock ticket)
  | .registryObserver => catchUp (·.observeForRegistry) (w.pipeline.store.changes.position + 1) w
  | .logObserver => catchUp (·.observeForLog) (w.pipeline.store.changes.position + 1) w
  | .consumer id => w.change fun p ↦ (p.poll id).2
  | .reception => w.receive

/-- Run so many tasks, or until there are none. -/
def runTasks : Nat → World → World
  | 0, w => w
  | n + 1, w =>
    match w.ready with
    | [] => w
    | task :: rest => runTasks n ({ w with ready := rest }.runTask task)

/-- Run the main thread until it is idle. -/
def runMain (w : World) : World := runTasks w.patience w

end World

end CodeHints.Scenario.Session
