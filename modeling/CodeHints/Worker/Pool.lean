import CodeHints.Worker.Serial

/-!
# All workers together

A `WorkerPool` holds every worker that was ever started, the signals between them, and the jobs that
their consumers have handed over. A job that has been handed over may begin at any moment, and it
runs until it ends, whatever happens to its worker meanwhile.

The pool does not decide what happens next. Its operations are the single steps of the workers:
`poll` gives the consumer of one worker its turn, `begin` lets a job start that was handed over, and
`finish` lets it end. Which of them happens when is up to a schedule.
-/

namespace CodeHints

/-- The identity of a worker. -/
structure WorkerId where
  index : Nat
  deriving DecidableEq, Repr

/-- What has become of a signal. -/
inductive SignalState where
  | pending
  | fired
  /-- It will never be fired. -/
  | lost
  deriving DecidableEq, Repr

/-- The workers, their signals and their jobs. -/
structure WorkerPool (α : Type) where
  workers : List (SerialWorker α)
  signals : List SignalState
  /-- The jobs that were handed over and have not begun, the oldest first. -/
  handed : List (WorkerId × Job α)
  /-- The jobs that are being run. -/
  running : List (WorkerId × Job α)

namespace WorkerPool

variable {α : Type}

def empty : WorkerPool α := ⟨[], [], [], []⟩

def worker? (p : WorkerPool α) (id : WorkerId) : Option (SerialWorker α) := p.workers[id.index]?

def modify (p : WorkerPool α) (id : WorkerId) (f : SerialWorker α → SerialWorker α) :
    WorkerPool α :=
  { p with workers := p.workers.modify id.index f }

/-! ## Signals -/

/-- What has become of a signal. -/
def signal (p : WorkerPool α) (id : SignalId) : SignalState := p.signals[id.index]?.getD .lost

/-- Whether a signal need not be waited for any more. -/
def isResolved (p : WorkerPool α) (id : SignalId) : Bool := p.signal id != .pending

def newSignal (p : WorkerPool α) : SignalId × WorkerPool α :=
  (⟨p.signals.length⟩, { p with signals := p.signals ++ [.pending] })

def setSignal (p : WorkerPool α) (id : SignalId) (state : SignalState) : WorkerPool α :=
  { p with signals := p.signals.set id.index state }

/-- The workers that wait for a signal before they take their first job. -/
def waitingFor (p : WorkerPool α) (id : SignalId) : List WorkerId :=
  (p.workers.zipIdx.filter (·.1.consumer = .waiting id)).map (⟨·.2⟩)

def signalsOf (jobs : List (Job α)) : List SignalId :=
  jobs.filterMap fun
    | .signal id => some id
    | .task _ => none

def tasksOf (jobs : List (Job α)) : List α :=
  jobs.filterMap fun
    | .task a => some a
    | .signal _ => none

/-! ## Handles -/

/-- Start a worker, which may have to wait for a signal. -/
def start (p : WorkerPool α) (name : String) (predecessor : Option SignalId) :
    WorkerId × WorkerPool α :=
  (⟨p.workers.length⟩, { p with workers := p.workers ++ [.start name predecessor] })

/-- Submit a job to a worker. A refused job changes nothing. -/
def submit (p : WorkerPool α) (id : WorkerId) (job : Job α) :
    Except SubmitError (WorkerPool α) :=
  match p.worker? id with
  | some w =>
    match w.submit job with
    | .ok w => .ok (p.modify id fun _ ↦ w)
    | .error e => .error e
  | none => .error .closed

/-- A signal for the moment at which every job submitted so far has ended. A worker that takes no
more jobs never fires it. -/
def drained (p : WorkerPool α) (id : WorkerId) : SignalId × WorkerPool α :=
  let (signal, p) := p.newSignal
  match p.submit id (.signal signal) with
  | .ok p => (signal, p)
  | .error _ => (signal, p.setSignal signal .lost)

/-- Shut a worker down. -/
def shutdown (p : WorkerPool α) (id : WorkerId) : WorkerPool α := p.modify id .shutdown

def retain (p : WorkerPool α) (id : WorkerId) : WorkerPool α := p.modify id .retain

def release (p : WorkerPool α) (id : WorkerId) : WorkerPool α := p.modify id .release

/-! ## Steps of the workers -/

/-- Whether the consumer of a worker would do something in its turn. -/
def isRunnable (p : WorkerPool α) (id : WorkerId) : Bool :=
  match p.worker? id with
  | some w => w.isRunnable p.isResolved
  | none => false

/-- Give the consumer of a worker its turn. The result holds the jobs that it drops; their signals
will never be fired. -/
def poll (p : WorkerPool α) (id : WorkerId) : List (Job α) × WorkerPool α :=
  match p.worker? id with
  | some w =>
    let (turn, w) := w.turn p.isResolved
    let p := p.modify id fun _ ↦ w
    match turn with
    | .rest => ([], p)
    | .take job => ([], { p with handed := p.handed ++ [(id, job)] })
    | .stop dropped =>
      (dropped, (signalsOf dropped).foldl (fun p signal ↦ p.setSignal signal .lost) p)
  | none => ([], p)

/-- Let the job begin that a worker has handed over. A signal is fired at once. -/
def begin? (p : WorkerPool α) (id : WorkerId) : Option (Job α × WorkerPool α) :=
  match p.handed.find? (·.1 = id) with
  | some (_, job) =>
    let p := { p with
      handed := p.handed.filter (·.1 ≠ id)
      running := p.running ++ [(id, job)] }
    match job with
    | .signal signal => some (job, p.setSignal signal .fired)
    | .task _ => some (job, p)
  | none => none

def finish (p : WorkerPool α) (id : WorkerId) : WorkerPool α :=
  if p.running.any (·.1 = id) then
    { p with running := p.running.filter (·.1 ≠ id) }.modify id .finish
  else p

end WorkerPool

end CodeHints
