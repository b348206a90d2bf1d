/-!
# Workers that take one job at a time

A `SerialWorker` has a queue of jobs and a consumer. The consumer takes the first job of the queue,
hands it over to be run, and does not look at the queue again before that job has ended, so the jobs
of one worker never overlap and start in the order in which they were submitted.

A worker may be told to wait for a signal before it takes its first job. A signal is fired by a job
of the worker that is being replaced: such a job stands behind everything that was submitted before
it, so when it runs, all of that has ended.

There are two ways for a worker to end. When it is shut down, its consumer stops as soon as no job
of it is being run, and what is left in the queue is dropped. When the last handle to it is
released, the consumer stops once the queue is empty.

The backlog counts submissions and ended jobs. It is kept apart from the queue.
-/

namespace CodeHints

/-- The identity of a signal that is fired once. -/
structure SignalId where
  index : Nat
  deriving DecidableEq, Repr

/-- What stands in the queue of a worker. -/
inductive Job (α : Type) where
  | task (a : α)
  /-- Does nothing but fire a signal. -/
  | signal (id : SignalId)
  deriving DecidableEq, Repr

/-- What the consumer of a worker is doing. -/
inductive Consumer where
  /-- Waits for a signal before it takes its first job. -/
  | waiting (signal : SignalId)
  /-- Waits for a job. -/
  | idle
  /-- Has handed over a job that has not ended. -/
  | busy
  | stopped
  deriving DecidableEq, Repr

/-- Why a job is not accepted. -/
inductive SubmitError where
  /-- The worker has been shut down. -/
  | closed
  deriving DecidableEq, Repr

def SubmitError.message : SubmitError → String
  | .closed => "serial worker is closed"

/-- A worker. -/
structure SerialWorker (α : Type) where
  name : String
  /-- The jobs that have not been handed over, the next one first. -/
  queue : List (Job α)
  /-- The number of accepted jobs that are not known to have ended. -/
  backlog : Nat
  /-- Whether the worker has been shut down. -/
  isClosed : Bool
  /-- The number of handles through which jobs can be submitted. -/
  handles : Nat
  consumer : Consumer

/-- What the consumer of a worker does when it gets its turn. -/
inductive Turn (α : Type) where
  /-- Nothing, as there is nothing to do yet. -/
  | rest
  /-- Hand over a job. -/
  | take (job : Job α)
  /-- Stop, and drop the jobs that are left. -/
  | stop (dropped : List (Job α))

namespace SerialWorker

variable {α : Type}

def start (name : String) (predecessor : Option SignalId) : SerialWorker α where
  name := name
  queue := []
  backlog := 0
  isClosed := false
  handles := 1
  consumer := match predecessor with
    | some signal => .waiting signal
    | none => .idle

/-- Put a job behind all others. -/
def submit (w : SerialWorker α) (job : Job α) : Except SubmitError (SerialWorker α) :=
  if w.isClosed then .error .closed
  else .ok { w with queue := w.queue ++ [job], backlog := w.backlog + 1 }

def shutdown (w : SerialWorker α) : SerialWorker α := { w with isClosed := true }

def retain (w : SerialWorker α) : SerialWorker α := { w with handles := w.handles + 1 }

def release (w : SerialWorker α) : SerialWorker α := { w with handles := w.handles - 1 }

/-- Take the next job; without one stop if there will never be any. -/
def takeNext (w : SerialWorker α) : Turn α × SerialWorker α :=
  match w.queue with
  | job :: rest => (.take job, { w with queue := rest, consumer := .busy })
  | [] =>
    if w.handles = 0 then (.stop [], { w with consumer := .stopped })
    else (.rest, { w with consumer := .idle })

def stop (w : SerialWorker α) : Turn α × SerialWorker α :=
  (.stop w.queue, { w with queue := [], consumer := .stopped })

/-- The turn of the consumer; `isResolved` tells which signals need not be waited for any more. A
shutdown is noticed before anything else. -/
def turn (w : SerialWorker α) (isResolved : SignalId → Bool) : Turn α × SerialWorker α :=
  match w.consumer with
  | .waiting signal =>
    if w.isClosed then w.stop
    else if isResolved signal then w.takeNext
    else (.rest, w)
  | .idle => if w.isClosed then w.stop else w.takeNext
  | .busy | .stopped => (.rest, w)

/-- Whether the consumer would do something in its turn. -/
def isRunnable (w : SerialWorker α) (isResolved : SignalId → Bool) : Bool :=
  match w.consumer with
  | .waiting signal => w.isClosed || isResolved signal
  | .idle => w.isClosed || !w.queue.isEmpty || w.handles = 0
  | .busy | .stopped => false

/-- Note that the job that was handed over has ended. -/
def finish (w : SerialWorker α) : SerialWorker α :=
  { w with backlog := w.backlog - 1, consumer := .idle }

end SerialWorker

end CodeHints
