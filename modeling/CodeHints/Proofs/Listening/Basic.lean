import CodeHints.Completion.Listener
import CodeHints.Proofs.Jobs
import CodeHints.Proofs.Traffic

/-!
# A listener and its requests

A listener makes a request, and from then on it sees nothing of it but its answer, if there is one.
Its bookkeeping tells it what to reply to the editor meanwhile. A `Listening` is the state of one
listener and of the pipeline that its requests go through, together with the jobs that are being run
and the requests whose worker has been found and that are about to be submitted.

A run is a list of moves. Apart from the queries of the editor these are the small steps of the
pipeline, in any order: timers wake, workers take turns, jobs begin, go on and end, answers are
taken out of inboxes, and all the time others make requests, settings change, and windows and
workers come and go.

## Numbers and fates

The requests of the listener are numbered, and the number goes with the request. This is how a
request is found again, and it has no influence on anything. A request that comes to an end gets a
`Fate`, which is recorded where the program lets go of it. Likewise `Listening.awaited` keeps the
numbers of the requests that were outstanding for a place when the listener last began to wait
there.
-/

namespace CodeHints

/-- Who takes an answer. -/
inductive Recipient where
  /-- The listener, whose request has a number and was made for a place. -/
  | listener (number location : Nat)
  | other
  deriving DecidableEq, Repr

/-- The number and the place of a request of the listener. -/
def Recipient.entry? : Recipient → Option (Nat × Nat)
  | .listener number location => some (number, location)
  | .other => none

structure Issue where
  location : Nat
  ask : Ask

/-- How a request has ended. -/
inductive Fate where
  /-- Another request has taken its place before its timer fired. -/
  | superseded
  /-- Its timer was taken back. -/
  | cancelled
  /-- Its worker took no more jobs. -/
  | refused
  /-- Its worker was stopped and dropped its queue. -/
  | dropped
  /-- Its job has ended without an answer. -/
  | unanswered
  /-- There was an answer, but the window had no inbox. -/
  | undeliverable
  /-- The answer was in an inbox that was given up. -/
  | discarded
  /-- The answer has reached the listener. -/
  | received
  deriving DecidableEq, Repr

/-- Those who do not get the answer that a job delivers next, because their window has no inbox. -/
def JobState.refused {κ : Type} (p : Pipeline κ) : JobState κ → List κ
  | .answering inquiry (.done (.value (some answer))) =>
    if (p.router.deliver inquiry.ask.window ⟨inquiry.receiver, answer⟩).1 then []
    else [inquiry.receiver]
  | _ => []

/-! ## The state -/

/-- A listener, the pipeline, and what is on its way through it. -/
structure Listening where
  pipeline : Pipeline Recipient
  /-- The bookkeeping of the listener. -/
  state : CompletionState
  /-- The instance that the listener makes its requests as. -/
  requester : InstanceId
  /-- The requests that are about to be submitted, each with the worker that was found for it. -/
  held : List (Inquiry Recipient × WorkerId)
  /-- The jobs that are being run. -/
  jobs : List (WorkerId × JobState Recipient)
  /-- The requests that the listener has made, the oldest first. -/
  issued : List Issue
  /-- The requests of the listener that have ended. -/
  ended : List (Nat × Fate)
  /-- The requests that were outstanding for the place of the last query that began to wait, right
  after that query. -/
  awaited : List Nat

inductive ListeningMove (analyzer : Analyzer) where
  /-- The editor queries the listener. -/
  | query (now : Nat) (view : View) (locations : List Nat)
  /-- Somebody else makes a request. -/
  | ask (now : Nat) (ask : Ask)
  /-- A timer wakes, and the worker is found for its request. -/
  | wake (now : Nat) (ticket : Ticket DebounceKey)
  /-- One of the requests whose worker was found is submitted. -/
  | submit (index : Nat)
  | poll (id : WorkerId)
  | begin (id : WorkerId)
  /-- A job makes its next access to the pipeline. -/
  | act (index : Nat)
  | reply (index : Nat) (replies : analyzer.Replies)
  /-- A job ends, by itself or by a breakdown. -/
  | finish (index : Nat)
  /-- The oldest answer in an inbox is taken out and run on a view. -/
  | take (inbox : InboxId) (isPopupVisible : Bool)
  /-- An inbox is given up. -/
  | drop (inbox : InboxId)
  /-- Requests are stopped, with the timers of those that are held back. -/
  | shutdownRequests
  | shutdown
  | interfere (interference : Interference)

namespace Listening

/-! ## Where requests are -/

/-- The requests that have no answer yet. -/
def inquiries (s : Listening) : List (Inquiry Recipient) :=
  s.pipeline.debouncer.tasks ++ s.held.map (·.1) ++ s.pipeline.pool.pending ++
    s.jobs.filterMap (·.2.inquiry?)

def deliveries (s : Listening) : List (Delivery Recipient) := s.pipeline.router.waiting

/-- Those whose answers are still to come. -/
def recipients (s : Listening) : List Recipient :=
  s.inquiries.map (·.receiver) ++ s.deliveries.map (·.receiver)

/-- The requests of the listener that are outstanding, with their places. -/
def outstanding (s : Listening) : List (Nat × Nat) := s.recipients.filterMap Recipient.entry?

/-- The requests of the listener that are outstanding for a place. -/
def outstandingAt (s : Listening) (location : Nat) : List Nat :=
  (s.outstanding.filter (·.2 = location)).map (·.1)

/-- Record how requests have ended. -/
def conclude (s : Listening) (fate : Fate) (recipients : List Recipient) : Listening :=
  { s with ended := s.ended ++ (recipients.filterMap Recipient.entry?).map fun x ↦ (x.1, fate) }

/-! ## Moves -/

def ask (s : Listening) (now : Nat) (inquiry : Inquiry Recipient) : Listening :=
  conclude { s with pipeline := (s.pipeline.ask now inquiry).2 } .superseded
    ((s.pipeline.debouncer.under inquiry.ask.key).map (·.receiver))

/-- The listener makes a request for a place in a view, if the view has a window. -/
def request (s : Listening) (now : Nat) (view : View) (location : Nat) : Listening :=
  match Ask.ofView? view s.requester (some location)
      (.autocomplete s.pipeline.store.current.fuzzy) with
  | some ask =>
    let s' := s.ask now ⟨ask, .listener s.issued.length location⟩
    { s' with issued := s'.issued ++ [⟨location, ask⟩] }
  | none => s

def response (s : Listening) (view : View) (locations : List Nat) : QueryResponse :=
  (s.state.query s.pipeline.store.current view locations).response

def query (s : Listening) (now : Nat) (view : View) (locations : List Nat) : Listening :=
  let outcome := s.state.query s.pipeline.store.current view locations
  let s := { s with state := outcome.state }
  match outcome.request with
  | some location =>
    let s := s.request now view location
    { s with awaited := s.outstandingAt location }
  | none => s

def wake (s : Listening) (now : Nat) (ticket : Ticket DebounceKey) : Listening :=
  match s.pipeline.debouncer.wake now ticket with
  | (some inquiry, debouncer) =>
    let (id, p) := { s.pipeline with debouncer := debouncer }.worker inquiry.ask.window
    { s with
      pipeline := { p with pool := p.pool.retain id }
      held := s.held ++ [(inquiry, id)] }
  | (none, _) => s

def submit (s : Listening) (index : Nat) : Listening :=
  match s.held[index]? with
  | none => s
  | some (inquiry, id) =>
    match s.pipeline.pool.submit id (.task inquiry) with
    | .ok pool =>
      { s with
        pipeline := { s.pipeline with pool := pool.release id }
        held := s.held.eraseIdx index }
    | .error _ =>
      conclude { s with
        pipeline := { s.pipeline with pool := s.pipeline.pool.release id }
        held := s.held.eraseIdx index } .refused [inquiry.receiver]

def poll (s : Listening) (id : WorkerId) : Listening :=
  let (dropped, p) := s.pipeline.poll id
  conclude { s with pipeline := p } .dropped ((WorkerPool.tasksOf dropped).map (·.receiver))

def begin (s : Listening) (id : WorkerId) : Listening :=
  match s.pipeline.begin? id with
  | some (job, p) => { s with pipeline := p, jobs := s.jobs ++ [(id, .start job)] }
  | none => s

def act (s : Listening) (index : Nat) : Listening :=
  match s.jobs[index]? with
  | some (id, job) =>
    match job.act? s.pipeline with
    | some (p, job') =>
      conclude { s with pipeline := p, jobs := s.jobs.set index (id, job') } .undeliverable
        (job.refused s.pipeline)
    | none => s
  | none => s

def reply {analyzer : Analyzer} (s : Listening) (index : Nat) (replies : analyzer.Replies) :
    Listening :=
  match s.jobs[index]? with
  | some (id, job) =>
    match job.reply? fun question ↦ (replies question).1 with
    | some job' => { s with jobs := s.jobs.set index (id, job') }
    | none => s
  | none => s

/-- A job ends. If it has not delivered an answer, there will be none. -/
def finish (s : Listening) (index : Nat) : Listening :=
  match s.jobs[index]? with
  | some (id, job) =>
    conclude { s with
      pipeline := s.pipeline.finish id
      jobs := s.jobs.eraseIdx index } .unanswered (job.inquiry?.toList.map (·.receiver))
  | none => s

/-- The listener, or somebody else, takes up an answer. -/
def receive (s : Listening) (delivery : Delivery Recipient) (isPopupVisible : Bool) : Listening :=
  match delivery.receiver with
  | .listener _ location =>
    conclude { s with state := (s.state.receive s.pipeline.store.current.visibility location
      delivery.answer isPopupVisible).2 } .received [delivery.receiver]
  | .other => s

def take (s : Listening) (inbox : InboxId) (isPopupVisible : Bool) : Listening :=
  match s.pipeline.take? inbox with
  | some (delivery, p) => receive { s with pipeline := p } delivery isPopupVisible
  | none => s

def drop (s : Listening) (inbox : InboxId) : Listening :=
  conclude { s with pipeline := s.pipeline.drop inbox } .discarded
    ((s.pipeline.router.queued inbox).map (·.receiver))

def shutdownRequests (s : Listening) : Listening :=
  conclude { s with pipeline := s.pipeline.shutdownRequests } .cancelled
    (s.pipeline.debouncer.tasks.map (·.receiver))

def shutdown (s : Listening) : Listening :=
  if s.pipeline.isShutDown then s
  else shutdownRequests { s with pipeline := { s.pipeline with isShutDown := true } }

variable {analyzer : Analyzer}

def step (s : Listening) : ListeningMove analyzer → Listening
  | .query now view locations => s.query now view locations
  | .ask now ask => s.ask now ⟨ask, .other⟩
  | .wake now ticket => s.wake now ticket
  | .submit index => s.submit index
  | .poll id => s.poll id
  | .begin id => s.begin id
  | .act index => s.act index
  | .reply index replies => s.reply index replies
  | .finish index => s.finish index
  | .take inbox isPopupVisible => s.take inbox isPopupVisible
  | .drop inbox => s.drop inbox
  | .shutdownRequests => s.shutdownRequests
  | .shutdown => s.shutdown
  | .interfere interference => { s with pipeline := interference.apply s.pipeline }

def run (s : Listening) (moves : List (ListeningMove analyzer)) : Listening := moves.foldl step s

def start (settings : Settings) (hasLog : Bool) (requester : InstanceId) : Listening :=
  ⟨.start settings hasLog, .empty, requester, [], [], [], [], []⟩

/-! ## The moves are those of the pipeline -/

/-- The pipeline submits a request as soon as its timer has fired. -/
theorem wake_eq_run (s : Listening) (now : Nat) (ticket : Ticket DebounceKey) :
    (s.run ([.wake now ticket, .submit s.held.length] :
      List (ListeningMove analyzer))).pipeline = s.pipeline.wake now ticket := by
  change ((s.wake now ticket).submit s.held.length).pipeline = _
  cases hwake : s.pipeline.debouncer.wake now ticket with
  | mk found debouncer =>
    cases found with
    | none =>
      have hnone : s.held[s.held.length]? = none := List.getElem?_eq_none (Nat.le_refl _)
      simp only [wake, Pipeline.wake, hwake, submit, hnone]
    | some inquiry =>
      cases hworker : Pipeline.worker { s.pipeline with debouncer := debouncer }
          inquiry.ask.window with
      | mk id p =>
        have hheld : (s.held ++ [(inquiry, id)])[s.held.length]? = some (inquiry, id) :=
          List.getElem?_concat_length
        have hoffer := p.pool.offer_retained id (.task inquiry)
        simp only [wake, Pipeline.wake, Pipeline.submit, hwake, hworker, submit, hheld]
        cases hretained : (p.pool.retain id).submit id (.task inquiry) with
        | ok pool =>
          rw [WorkerPool.offer_of_ok hretained] at hoffer
          simp only [hoffer]
          cases hsubmit : p.pool.submit id (.task inquiry) with
          | ok pool' => rw [WorkerPool.offer_of_ok hsubmit]
          | error e => rw [WorkerPool.offer_of_error hsubmit]
        | error e =>
          rw [WorkerPool.offer_of_error hretained] at hoffer
          simp only [hoffer, conclude]
          cases hsubmit : p.pool.submit id (.task inquiry) with
          | ok pool' => rw [WorkerPool.offer_of_ok hsubmit]
          | error e => rw [WorkerPool.offer_of_error hsubmit]

section

variable {s : Listening} {index : Nat} {id : WorkerId} {job job' : JobState Recipient}
  {p : Pipeline Recipient}

theorem act_of_some (hjob : s.jobs[index]? = some (id, job))
    (hact : job.act? s.pipeline = some (p, job')) :
    s.act index = conclude { s with pipeline := p, jobs := s.jobs.set index (id, job') }
      .undeliverable (job.refused s.pipeline) := by
  simp only [act, hjob, hact]

theorem reply_of_some {replies : analyzer.Replies} (hjob : s.jobs[index]? = some (id, job))
    (hreply : (job.reply? fun question ↦ (replies question).1) = some job') :
    s.reply index replies = { s with jobs := s.jobs.set index (id, job') } := by
  simp only [reply, hjob, hreply]

/-- A job that acts does what is left of it. -/
theorem rest_act {rest : Resumption (Pipeline Recipient) Unit}
    (hjob : s.jobs[index]? = some (id, job)) (hrest : job.rest.act? s.pipeline = some (p, rest)) :
    (s.act index).pipeline = p ∧
      ∃ job', (s.act index).jobs[index]? = some (id, job') ∧ job'.rest = rest := by
  rw [← JobState.rest_act?] at hrest
  obtain ⟨⟨p', job'⟩, hact, heq⟩ := Option.map_eq_some_iff.mp hrest
  obtain ⟨rfl, rfl⟩ := Prod.mk.inj heq
  rw [act_of_some hjob hact]
  exact ⟨rfl, job', List.getElem?_set_self (List.getElem?_eq_some_iff.mp hjob).1, rfl⟩

/-- A job that gets a reply goes on as what is left of it does. -/
theorem rest_reply {replies : analyzer.Replies} {rest : Resumption (Pipeline Recipient) Unit}
    (hjob : s.jobs[index]? = some (id, job))
    (hrest : (job.rest.reply? fun question ↦ (replies question).1) = some rest) :
    (s.reply index replies).pipeline = s.pipeline ∧
      ∃ job', (s.reply index replies).jobs[index]? = some (id, job') ∧ job'.rest = rest := by
  rw [← JobState.rest_reply?] at hrest
  obtain ⟨job', hreply, rfl⟩ := Option.map_eq_some_iff.mp hrest
  rw [reply_of_some hjob hreply]
  exact ⟨rfl, job', List.getElem?_set_self (List.getElem?_eq_some_iff.mp hjob).1, rfl⟩

end

end Listening

end CodeHints
