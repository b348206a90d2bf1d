import CodeHints.Json.Value
import CodeHints.Worker.Pool
import CodeHints.Worker.Promise

/-!
# Scripted runs of serial workers

Named workers on two threads. The main thread gives the consumers their turns, in the order in which
they were woken. The other thread runs the jobs, one at a time and in the order in which they were
handed over, and it goes on only when the main thread has nothing to do: a job performs steps, and
after each of them the main thread runs until it is idle.

Every step of a script is performed at most once, and it submits at most one job and wakes at most
three consumers, so the number of steps in a script bounds the loops below.
-/

namespace CodeHints.Scenario.Worker

inductive Step where
  /-- Start a worker under a name of the script. -/
  | new (id name : String)
  /-- Start a worker that waits until another one has drained. -/
  | after (id name predecessor : String)
  /-- Start a worker that waits for a signal of the script. -/
  | afterSignal (id name signal : String)
  | fire (signal : String)
  /-- Make sure that a signal is never fired. -/
  | dropSignal (signal : String)
  | submit (id : String) (label value : Json) (breaks : Bool) (steps : List Step)
  /-- Submit a job, and keep its value under a name. -/
  | call (id result : String) (label value : Json) (breaks : Bool) (steps : List Step)
  /-- Look at the value of a job. -/
  | result (result : String)
  | drained (id result : String)
  | drainResult (result : String)
  | shutdown (id : String)
  | drop (id : String)
  | name (id : String)
  | backlog (id : String)
  | isClosed (id : String)
  /-- Steps with nothing between them. -/
  | batch (steps : List Step)
  | advance
  /-- A step that is none of these, about a worker. -/
  | unknown (id : String)
  deriving Inhabited

mutual

def Step.weight : Step → Nat
  | .submit _ _ _ _ steps | .call _ _ _ _ _ steps | .batch steps => weights steps + 1
  | _ => 1

def weights : List Step → Nat
  | [] => 0
  | step :: rest => step.weight + weights rest

end

inductive Reply where
  | nothing
  | ok
  | badStep
  | noWorker
  | refused (e : SubmitError)
  | flag (b : Bool)
  | count (n : Nat)
  | text (s : String)
  | promise (p : Promise Json)
  | drain (s : SignalState)
  | all (replies : List Reply)
  deriving Inhabited

inductive Event where
  /-- A job begins. -/
  | ran (label : Json)
  /-- A step inside a job was performed. -/
  | nested (reply : Reply)

/-- What a job does. -/
structure Task where
  label : Json
  value : Json
  /-- Whether the job breaks down at its end. -/
  breaks : Bool
  steps : List Step
  /-- Where the value of the job goes. -/
  promise : Option PromiseId

/-- How a job ends. -/
def Task.result (t : Task) : TaskEnd Json :=
  if t.breaks then .broken .unreadable else .value t.value

/-- The state of a run. -/
structure State where
  pool : WorkerPool Task
  /-- The names of the workers that have a handle. -/
  handles : List (String × WorkerId)
  /-- The signals that the script can fire. -/
  signals : List (String × SignalId)
  /-- The names of signals that workers fire when they have drained. -/
  drains : List (String × SignalId)
  /-- The names of promises. -/
  results : List (String × PromiseId)
  promises : Promises Json
  /-- The consumers that get their turns next. -/
  ready : List WorkerId
  /-- What has happened, the oldest first. -/
  events : List Event

/-- Bind a name, in the place of what it named before. -/
def bind {α : Type} (names : List (String × α)) (name : String) (a : α) : List (String × α) :=
  names.filter (·.1 ≠ name) ++ [(name, a)]

/-- Take back a name. -/
def unbind {α : Type} (names : List (String × α)) (name : String) : List (String × α) :=
  names.filter (·.1 ≠ name)

namespace State

def start : State := ⟨.empty, [], [], [], [], .empty, [], []⟩

def note (s : State) (e : Event) : State := { s with events := s.events ++ [e] }

/-- Let the consumer of a worker have a turn if it has something to do. -/
def wake (s : State) (id : WorkerId) : State :=
  if s.pool.isRunnable id && !s.ready.contains id then { s with ready := s.ready ++ [id] } else s

/-- Set what has become of a signal, and wake who waits for it. -/
def settleSignal (s : State) (signal : SignalId) (state : SignalState) : State :=
  { s with pool := s.pool.setSignal signal state } |> (s.pool.waitingFor signal).foldl wake

/-- Release the handle to a worker. -/
def releaseWorker (s : State) (id : WorkerId) : State :=
  { s with pool := s.pool.release id }.wake id

/-- Start a worker under a name. A worker that had this name is released. -/
def startWorker (s : State) (id name : String) (predecessor : Option SignalId) : State :=
  let (w, pool) := s.pool.start name predecessor
  let s' := { s with pool := pool, handles := bind s.handles id w, ready := s.ready ++ [w] }
  match s.handles.lookup id with
  | some old => s'.releaseWorker old
  | none => s'

/-- A signal for the moment at which a worker has drained. -/
def drainWorker (s : State) (w : WorkerId) : SignalId × State :=
  let (signal, pool) := s.pool.drained w
  (signal, { s with pool := pool }.wake w)

def submitTask (s : State) (w : WorkerId) (task : Task) : Except SubmitError State :=
  match s.pool.submit w (.task task) with
  | .ok pool => .ok ({ s with pool := pool }.wake w)
  | .error e => .error e

def withWorker (s : State) (id : String) (f : WorkerId → SerialWorker Task → Reply × State) :
    Reply × State :=
  match s.handles.lookup id with
  | some w =>
    match s.pool.worker? w with
    | some worker => f w worker
    | none => (.noWorker, s)
  | none => (.noWorker, s)

/-- Keep the promise of a job, or close it. -/
def settlePromise (s : State) (task : Task) (result : TaskEnd Json) : State :=
  match task.promise with
  | some id => { s with promises := s.promises.settle id result }
  | none => s

/-- Look at the value of a job. A value is taken by the first look. -/
def takeResult (s : State) (name : String) : Reply × State :=
  match s.results.lookup name with
  | some id =>
    let (found, promises) := s.promises.take id
    (.promise found, { s with promises := promises })
  | none => (.nothing, s)

/-- Look whether a worker has drained. That it has is told once. -/
def lookAtDrain (s : State) (name : String) : Reply × State :=
  match s.drains.lookup name with
  | some signal =>
    match s.pool.signal signal with
    | .fired => (.drain .fired, { s with pool := s.pool.setSignal signal .lost })
    | found => (.drain found, s)
  | none => (.nothing, s)

/-- Fire a signal of the script. The result tells whether somebody still waited for it. -/
def fireSignal (s : State) (name : String) : Reply × State :=
  match s.signals.lookup name with
  | some signal =>
    let awaited := !(s.pool.waitingFor signal).isEmpty
    let s := s.settleSignal signal .fired
    (.flag awaited, { s with signals := unbind s.signals name })
  | none => (.nothing, s)

/-- Take back a signal of the script. -/
def dropSignal (s : State) (name : String) : Bool × State :=
  match s.signals.lookup name with
  | some signal =>
    let s := s.settleSignal signal .lost
    (true, { s with signals := unbind s.signals name })
  | none => (false, s)

mutual

def perform (s : State) : Step → Reply × State
  | .new id name => (.nothing, s.startWorker id name none)
  | .after id name predecessor => s.withWorker predecessor fun w _ ↦
    let (signal, s) := s.drainWorker w
    (.nothing, s.startWorker id name (some signal))
  | .afterSignal id name signal =>
    let s := (s.dropSignal signal).2
    let (fresh, pool) := s.pool.newSignal
    let s := { s with pool := pool, signals := bind s.signals signal fresh }
    (.nothing, s.startWorker id name (some fresh))
  | .fire signal => s.fireSignal signal
  | .dropSignal signal =>
    let (found, s) := s.dropSignal signal
    (.flag found, s)
  | .submit id label value breaks steps => s.withWorker id fun w _ ↦
    match s.submitTask w ⟨label, value, breaks, steps, none⟩ with
    | .ok s => (.ok, s)
    | .error e => (.refused e, s)
  | .call id result label value breaks steps => s.withWorker id fun w _ ↦
    let id := s.promises.next
    match s.submitTask w ⟨label, value, breaks, steps, some id⟩ with
    | .ok s =>
      (.ok, { s with promises := s.promises.make, results := bind s.results result id })
    | .error e => (.refused e, s)
  | .result result => s.takeResult result
  | .drained id result => s.withWorker id fun w _ ↦
    let (signal, s) := s.drainWorker w
    (.nothing, { s with drains := bind s.drains result signal })
  | .drainResult result => s.lookAtDrain result
  | .shutdown id => s.withWorker id fun w _ ↦
    (.nothing, { s with pool := s.pool.shutdown w }.wake w)
  | .drop id =>
    match s.handles.lookup id with
    | some w => (.flag true, { s with handles := unbind s.handles id }.releaseWorker w)
    | none => (.flag false, s)
  | .name id => s.withWorker id fun _ worker ↦ (.text worker.name, s)
  | .backlog id => s.withWorker id fun _ worker ↦ (.count worker.backlog, s)
  | .isClosed id => s.withWorker id fun _ worker ↦ (.flag worker.isClosed, s)
  | .batch steps =>
    let (replies, s) := s.performAll steps
    (.all replies, s)
  | .advance => (.badStep, s)
  | .unknown id => s.withWorker id fun _ _ ↦ (.badStep, s)

def performAll (s : State) : List Step → List Reply × State
  | [] => ([], s)
  | step :: rest =>
    let (reply, s) := s.perform step
    let (replies, s) := s.performAll rest
    (reply :: replies, s)

end

/-- Give a consumer its turn. Jobs that it drops yield no value, and who waits for a signal that it
drops need not wait any longer. -/
def poll (s : State) (id : WorkerId) : State :=
  let (dropped, pool) := s.pool.poll id
  let s := { s with pool := pool }
  dropped.foldl (fun s job ↦
    match job with
    | .signal signal => s.settleSignal signal .lost
    | .task task => s.settlePromise task .cancelled) s

/-- Run the main thread until it is idle. -/
def runMain : Nat → State → State
  | 0, s => s
  | fuel + 1, s =>
    match s.ready with
    | [] => s
    | id :: rest => runMain fuel (poll { s with ready := rest } id)

def runJob (fuel : Nat) (s : State) : Job Task → State
  | .signal signal => s.settleSignal signal .fired
  | .task task =>
    let s := task.steps.foldl (fun s step ↦
      let (reply, s) := s.perform step
      runMain fuel (s.note (.nested reply))) (s.note (.ran task.label))
    s.settlePromise task task.result

/-- Run both threads until they are idle. -/
def settle (fuel : Nat) : Nat → State → State
  | 0, s => runMain fuel s
  | jobs + 1, s =>
    let s := runMain fuel s
    match s.pool.handed with
    | [] => s
    | (id, _) :: _ =>
      match s.pool.begin? id with
      | some (job, pool) =>
        let s := runJob fuel { s with pool := pool } job
        settle fuel jobs ({ s with pool := s.pool.finish id }.wake id)
      | none => s

/-- Perform a step of the script, and then everything that can run. -/
def step (fuel : Nat) (s : State) (step : Step) : Reply × State :=
  let (reply, s) := match step with
    | .advance => (.nothing, s)
    | other => s.perform other
  (reply, settle fuel fuel s)

/-- The workers that have a handle, with their backlogs. -/
def overview (s : State) : List (String × Nat × Bool) :=
  s.handles.filterMap fun (name, id) ↦
    (s.pool.worker? id).map fun w ↦ (name, w.backlog, w.isClosed)

end State

/-- The result of a step of the script, what happened during it, and the workers after it. -/
structure Report where
  reply : Reply
  events : List Event
  workers : List (String × Nat × Bool)

def reports (fuel : Nat) : State → List Step → List Report
  | _, [] => []
  | s, step :: rest =>
    let (reply, s) := { s with events := [] }.step fuel step
    ⟨reply, s.events, s.overview⟩ :: reports fuel s rest

def run (steps : List Step) : List Report := reports (8 * weights steps + 8) .start steps

end CodeHints.Scenario.Worker
