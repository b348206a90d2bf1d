import CodeHints.Proofs.Pool.Station
import CodeHints.Worker.Promise

/-!
# A worker and those who use it

One worker, with everything that is known about the jobs that were ever submitted to it. Jobs are
submitted with or without somebody who waits for the value, the worker is shut down, handles to it
are taken and released, and the worker and its jobs go on, all of it in any order. An event that is
not possible changes nothing, so every list of events is a run. Nobody submits or shuts down without
a handle.

Jobs have to be told apart. A job that leaves a value is known by its promise, and a job that fires
a signal by the signal; all others have numbers.

## What a step may change

`Workbench.Change` lists what one event may do, in terms of the `Station` of the worker and of the
records. Whatever is preserved by these changes holds in every run.
-/

namespace CodeHints

/-- What is submitted as a task. -/
inductive Commission where
  /-- Nobody waits for the value. -/
  | plain (number : Nat)
  /-- The value goes to a promise that was made for it. -/
  | call (promise : PromiseId)
  deriving DecidableEq, Repr

inductive BenchEvent (β : Type) where
  | submit
  | call
  /-- Submit a job that fires a signal. -/
  | drained
  | shutdown
  | retain
  | release
  /-- Something becomes of the signal that the worker waits for at its start. -/
  | resolve (state : SignalState)
  /-- The consumer has its turn. -/
  | poll
  /-- The job that was handed over begins. -/
  | begin
  /-- The running job ends with a value, or breaks down. -/
  | finish (result : Except Payload β)

/-- A worker with the records of its jobs. -/
structure Workbench (β : Type) where
  pool : WorkerPool Commission
  promises : Promises β
  /-- The jobs that were accepted, in the order of their submissions. -/
  accepted : List (Job Commission)
  /-- The jobs that have begun, in this order. -/
  begun : List (Job Commission)
  /-- The jobs that have ended, and how. -/
  ended : List (Job Commission × Except Payload β)
  /-- The jobs that the consumer has dropped. -/
  dropped : List (Job Commission)

/-- How a task ends that has been run. -/
def TaskEnd.ofResult {β : Type} : Except Payload β → TaskEnd β
  | .ok b => .value b
  | .error payload => .broken payload

namespace Workbench

variable {β : Type}

/-- The only worker. -/
def worker : WorkerId := ⟨0⟩

/-- A worker that has just been started. It may have to wait for a signal. -/
def start (name : String) (waits : Bool) : Workbench β :=
  let (signal, pool) := WorkerPool.empty.newSignal
  ⟨(pool.start name (if waits then some signal else none)).2, .empty, [], [], [], []⟩

/-! ## The worker -/

abbrev station (s : Workbench β) : Station Commission := s.pool.station worker

def isClosed (s : Workbench β) : Bool := s.station.worker.any SerialWorker.isClosed

def isHeld (s : Workbench β) : Bool := s.station.worker.any (·.handles ≠ 0)

/-- The worker still waits for a signal before it takes its first job. -/
def IsHeldUp (s : Workbench β) : Prop :=
  ∃ signal, s.station.Awaits signal ∧ s.pool.isResolved signal = false

/-! ## Events -/

/-- Settle the promise of a job, if it has one. -/
def settle (promises : Promises β) (job : Job Commission) (result : TaskEnd β) : Promises β :=
  match job with
  | .task (.call id) => promises.settle id result
  | _ => promises

def submit (s : Workbench β) : Except SubmitError (Workbench β) :=
  let job := .task (.plain s.accepted.length)
  (s.pool.submit worker job).map fun pool ↦
    { s with pool := pool, accepted := s.accepted ++ [job] }

/-- Submit a job, and get the promise of its value. -/
def call (s : Workbench β) : Except SubmitError (PromiseId × Workbench β) :=
  let id := s.promises.next
  (s.pool.submit worker (.task (.call id))).map fun pool ↦
    (id, { s with
      pool := pool
      promises := s.promises.make
      accepted := s.accepted ++ [.task (.call id)] })

/-- Submit a job that fires a new signal. -/
def drained (s : Workbench β) : Workbench β :=
  let found := s.pool.drained worker
  if s.isClosed then { s with pool := found.2 }
  else { s with pool := found.2, accepted := s.accepted ++ [.signal found.1] }

def resolve (s : Workbench β) (state : SignalState) : Workbench β :=
  match s.station.worker.map SerialWorker.consumer with
  | some (.waiting signal) => { s with pool := s.pool.setSignal signal state }
  | _ => s

/-- Give the consumer its turn. The promises of jobs that it drops are closed. -/
def poll (s : Workbench β) : Workbench β :=
  let found := s.pool.poll worker
  { s with
    pool := found.2
    promises := found.1.foldl (settle · · .cancelled) s.promises
    dropped := s.dropped ++ found.1 }

def begin (s : Workbench β) : Workbench β :=
  match s.pool.begin? worker with
  | some (job, pool) => { s with pool := pool, begun := s.begun ++ [job] }
  | none => s

def finish (s : Workbench β) (result : Except Payload β) : Workbench β :=
  match s.station.running with
  | job :: _ =>
    { s with
      pool := s.pool.finish worker
      promises := settle s.promises job (.ofResult result)
      ended := s.ended ++ [(job, result)] }
  | [] => s

def withHandle (s : Workbench β) (s' : Workbench β) : Workbench β := if s.isHeld then s' else s

def step (s : Workbench β) : BenchEvent β → Workbench β
  | .submit => s.withHandle <| s.submit.toOption.getD s
  | .call => s.withHandle <| (s.call.toOption.map (·.2)).getD s
  | .drained => s.withHandle s.drained
  | .shutdown => s.withHandle { s with pool := s.pool.shutdown worker }
  | .retain => s.withHandle { s with pool := s.pool.retain worker }
  | .release => s.withHandle { s with pool := s.pool.release worker }
  | .resolve state => s.resolve state
  | .poll => s.poll
  | .begin => s.begin
  | .finish result => s.finish result

def run (s : Workbench β) (events : List (BenchEvent β)) : Workbench β := events.foldl step s

variable {s s' : Workbench β}

theorem run_append (s : Workbench β) (events more : List (BenchEvent β)) :
    s.run (events ++ more) = (s.run events).run more := List.foldl_append

/-! ## Seen through the worker -/

section Worker

variable {w : SerialWorker Commission}

theorem isClosed_eq (hw : s.station.worker = some w) : s.isClosed = w.isClosed := by
  rw [isClosed, hw]
  rfl

theorem isClosed_of_face (h : s'.station.face = s.station.face) : s'.isClosed = s.isClosed := by
  have hface (s : Workbench β) : s.isClosed = s.station.face.any (·.2.1) := by
    rw [isClosed, Station.face, Option.any_map]
  rw [hface, hface, h]

theorem station_finish (s : Workbench β) :
    (s.pool.finish worker).station worker = s.station.finished :=
  (s.pool.station_finish worker worker).trans (if_pos rfl)

theorem isHeld_iff (hw : s.station.worker = some w) : s.isHeld = true ↔ w.handles ≠ 0 := by
  rw [isHeld, hw]
  exact decide_eq_true_iff

end Worker

/-! ## Promises -/

theorem length_settle (promises : Promises β) (job : Job Commission) (result : TaskEnd β) :
    (settle promises job result).all.length = promises.all.length := by
  unfold settle
  split
  · exact List.length_set
  · rfl

theorem get_settle {promises : Promises β} {id : PromiseId} (h : id.index < promises.all.length)
    (job : Job Commission) (result : TaskEnd β) : (settle promises job result).get id =
      if job = .task (.call id) then .ofEnd result else promises.get id := by
  unfold settle
  split
  · next other =>
    rw [Promises.settle, Promises.get]
    by_cases hid : other = id
    · subst hid
      simp [h]
    · have hindex : other.index ≠ id.index := fun e ↦ hid (congrArg PromiseId.mk e)
      have hjob : Job.task (Commission.call other) ≠ .task (.call id) := by simp [hid]
      rw [if_neg hjob, List.getElem?_set_ne hindex, Promises.get]
  · next hjob => rw [if_neg fun e ↦ hjob id e]

theorem length_settleAll (promises : Promises β) (jobs : List (Job Commission))
    (result : TaskEnd β) :
    (jobs.foldl (settle · · result) promises).all.length = promises.all.length := by
  induction jobs generalizing promises with
  | nil => rfl
  | cons job jobs ih => rw [List.foldl_cons, ih, length_settle]

theorem get_settleAll {promises : Promises β} {id : PromiseId} (h : id.index < promises.all.length)
    (jobs : List (Job Commission)) (result : TaskEnd β) :
    (jobs.foldl (settle · · result) promises).get id =
      if .task (.call id) ∈ jobs then .ofEnd result else promises.get id := by
  induction jobs generalizing promises with
  | nil => rfl
  | cons job jobs ih =>
    have hlength : id.index < (settle promises job result).all.length := by rwa [length_settle]
    rw [List.foldl_cons, ih hlength, get_settle h]
    by_cases hrest : Job.task (Commission.call id) ∈ jobs
    · rw [if_pos hrest, if_pos (List.mem_cons_of_mem _ hrest)]
    · rw [if_neg hrest]
      by_cases hjob : job = .task (.call id)
      · rw [if_pos hjob, if_pos (hjob ▸ List.mem_cons_self)]
      · rw [if_neg hjob, if_neg fun hmem ↦ ?_]
        obtain heq | hmem := List.mem_cons.mp hmem
        · exact hjob heq.symm
        · exact hrest hmem

/-! ## What an event may change -/

/-- The job has been given a name. -/
def IsKnown (s : Workbench β) : Job Commission → Prop
  | .task (.plain number) => number < s.accepted.length
  | .task (.call id) => id.index < s.promises.all.length
  | .signal id => id.index < s.pool.signals.length

/-- A new job is put at the end of the queue. -/
def enqueued (job : Job Commission) (w : SerialWorker Commission) : SerialWorker Commission :=
  { w with queue := w.queue ++ [job], backlog := w.backlog + 1 }

/-- The consumer of a worker may have stopped. -/
def MayStop (w : SerialWorker Commission) : Prop :=
  w.isClosed = true ∨ (w.handles = 0 ∧ w.queue = [])

/-- Everything that one event may do. -/
inductive Change (s : Workbench β) : Workbench β → Prop where
  /-- Somebody does something to the worker that its consumer takes no part in. -/
  | handled (pool : WorkerPool Commission) (f : SerialWorker Commission → SerialWorker Commission)
      (hstation : pool.station worker = s.station.mapWorker f)
      (hsignals : s.pool.signals.length ≤ pool.signals.length)
      (hconsumer : ∀ w, (f w).consumer = w.consumer) (hqueue : ∀ w, (f w).queue = w.queue)
      (hclosed : ∀ w, w.isClosed = true → (f w).isClosed = true)
      (hstopped : ∀ w, s.station.worker = some w → MayStop w → MayStop (f w))
      (hbacklog : ∀ w, (f w).backlog = w.backlog) :
      Change s { s with pool := pool }
  /-- A job is accepted. -/
  | accepted (pool : WorkerPool Commission) (promises : Promises β) (job : Job Commission)
      (w : SerialWorker Commission) (hw : s.station.worker = some w) (hopen : w.isClosed = false)
      (hheld : w.handles ≠ 0)
      (hstation : pool.station worker = s.station.mapWorker (enqueued job))
      (hsignals : s.pool.signals.length ≤ pool.signals.length)
      (hlength : s.promises.all.length ≤ promises.all.length)
      (hget : ∀ id, promises.get id =
        if job = .task (.call id) then .pending else s.promises.get id)
      (hfresh : ¬s.IsKnown job)
      (hknown : IsKnown { s with
        pool := pool, promises := promises, accepted := s.accepted ++ [job] } job) :
      Change s { s with pool := pool, promises := promises, accepted := s.accepted ++ [job] }
  /-- The consumer has had its turn. -/
  | polled (pool : WorkerPool Commission) (dropped : List (Job Commission))
      (hpolled : Station.Polled s.pool.isResolved s.station dropped (pool.station worker))
      (hsignals : pool.signals.length = s.pool.signals.length) :
      Change s { s with
        pool := pool
        promises := dropped.foldl (settle · · .cancelled) s.promises
        dropped := s.dropped ++ dropped }
  /-- The job that was handed over has begun. -/
  | begun (pool : WorkerPool Commission) (job : Job Commission)
      (hhead : s.station.handed.head? = some job)
      (hstation : pool.station worker =
        { s.station with handed := [], running := s.station.running ++ [job] })
      (hsignals : pool.signals.length = s.pool.signals.length) :
      Change s { s with pool := pool, begun := s.begun ++ [job] }
  /-- The running job has ended. -/
  | finished (job : Job Commission) (rest : List (Job Commission)) (result : Except Payload β)
      (hrunning : s.station.running = job :: rest) :
      Change s { s with
        pool := s.pool.finish worker
        promises := settle s.promises job (.ofResult result)
        ended := s.ended ++ [(job, result)] }

theorem Change.quiet (s : Workbench β) (pool : WorkerPool Commission)
    (hstation : pool.station worker = s.station)
    (hsignals : s.pool.signals.length ≤ pool.signals.length) :
    Change s { s with pool := pool } := by
  have hsame : s.station.mapWorker id = s.station := by
    rw [Station.mapWorker, Option.map_id]
    rfl
  exact .handled pool id (hstation.trans hsame.symm) hsignals (fun _ ↦ rfl) (fun _ ↦ rfl)
    (fun _ ↦ id) (fun _ _ ↦ id) fun _ ↦ rfl

theorem Change.refl (s : Workbench β) : Change s s := .quiet s s.pool rfl (Nat.le_refl _)

/-! ## Every event is a change -/

theorem change_withHandle (h : s.isHeld = true → Change s s') : Change s (s.withHandle s') := by
  rw [withHandle]
  split
  · next hheld => exact h hheld
  · exact .refl s

theorem exists_of_isHeld (h : s.isHeld = true) :
    ∃ w, s.station.worker = some w ∧ w.handles ≠ 0 := by
  rw [isHeld, Option.any_eq_true] at h
  obtain ⟨w, hw, hheld⟩ := h
  exact ⟨w, hw, of_decide_eq_true hheld⟩

private theorem change_modify (s : Workbench β)
    (f : SerialWorker Commission → SerialWorker Commission)
    (hconsumer : ∀ w, (f w).consumer = w.consumer) (hqueue : ∀ w, (f w).queue = w.queue)
    (hclosed : ∀ w, w.isClosed = true → (f w).isClosed = true)
    (hstopped : ∀ w, s.station.worker = some w → MayStop w → MayStop (f w))
    (hbacklog : ∀ w, (f w).backlog = w.backlog) :
    Change s { s with pool := s.pool.modify worker f } :=
  .handled _ f ((s.pool.station_modify worker worker f).trans (if_pos rfl)) (Nat.le_refl _)
    hconsumer hqueue hclosed hstopped hbacklog

/-- A submission is accepted by a worker that is not shut down, and refused by all others. -/
theorem submit_spec {w : SerialWorker Commission} (hw : s.station.worker = some w)
    (job : Job Commission) :
    (w.isClosed = true ∧ s.pool.submit worker job = .error .closed) ∨
      w.isClosed = false ∧ ∃ pool, s.pool.submit worker job = .ok pool ∧
        pool.signals = s.pool.signals ∧
        pool.station worker = s.station.mapWorker (enqueued job) := by
  have hworker : s.pool.worker? worker = some w := hw
  cases hclosed : w.isClosed with
  | true => exact .inl ⟨rfl, by simp [WorkerPool.submit, hworker, SerialWorker.submit, hclosed]⟩
  | false =>
    obtain ⟨pool, hpool⟩ := WorkerPool.submit_of_open hworker hclosed job
    obtain ⟨-, -, -, hsignals, hstation⟩ := WorkerPool.station_submit hpool
    exact .inr ⟨rfl, pool, hpool, hsignals, (hstation worker).trans (if_pos rfl)⟩

theorem change_submit (hheld : s.isHeld = true) : Change s (s.submit.toOption.getD s) := by
  obtain ⟨w, hw, hhandles⟩ := exists_of_isHeld hheld
  rw [submit]
  obtain ⟨-, hrefused⟩ | ⟨hopen, pool, hpool, hsignals, hstation⟩ :=
    submit_spec hw (.task (.plain s.accepted.length))
  · rw [hrefused]
    exact .refl s
  · rw [hpool]
    refine .accepted pool s.promises _ w hw hopen hhandles hstation
      (Nat.le_of_eq (congrArg List.length hsignals.symm)) (Nat.le_refl _)
      (fun id ↦ (if_neg nofun).symm) (Nat.lt_irrefl _) ?_
    change s.accepted.length < (s.accepted ++ [_]).length
    rw [List.length_append]
    exact Nat.lt_succ_self _

theorem get_make (promises : Promises β) (id : PromiseId) : promises.make.get id =
    if Job.task (Commission.call promises.next) = .task (.call id) then .pending
    else promises.get id := by
  rw [Promises.get, Promises.make, Promises.next, Promises.get]
  by_cases hid : id.index = promises.all.length
  · have hnext : PromiseId.mk promises.all.length = id := congrArg PromiseId.mk hid.symm
    rw [hid, if_pos (by rw [hnext]), List.getElem?_concat_length]
    rfl
  · have hnext : ¬Job.task (Commission.call ⟨promises.all.length⟩) = .task (.call id) :=
      fun e ↦ hid (congrArg PromiseId.index (Commission.call.inj (Job.task.inj e))).symm
    rw [if_neg hnext, List.getElem?_append]
    split
    · rfl
    · next hge =>
      rw [List.getElem?_eq_none (Nat.not_lt.mp hge), List.getElem?_eq_none]
      exact Nat.sub_pos_of_lt (Nat.lt_of_le_of_ne (Nat.not_lt.mp hge) (Ne.symm hid))

theorem change_call (hheld : s.isHeld = true) :
    Change s ((s.call.toOption.map (·.2)).getD s) := by
  obtain ⟨w, hw, hhandles⟩ := exists_of_isHeld hheld
  have hlength : s.promises.make.all.length = s.promises.all.length + 1 := List.length_append
  rw [call]
  obtain ⟨-, hrefused⟩ | ⟨hopen, pool, hpool, hsignals, hstation⟩ :=
    submit_spec hw (.task (.call s.promises.next))
  · rw [hrefused]
    exact .refl s
  · rw [hpool]
    refine .accepted pool s.promises.make _ w hw hopen hhandles hstation
      (Nat.le_of_eq (congrArg List.length hsignals.symm)) ?_ (get_make s.promises)
      (Nat.lt_irrefl _) ?_
    · rw [hlength]
      exact Nat.le_succ _
    · change s.promises.all.length < s.promises.make.all.length
      rw [hlength]
      exact Nat.lt_succ_self _

theorem change_drained (hheld : s.isHeld = true) : Change s s.drained := by
  obtain ⟨w, hw, hhandles⟩ := exists_of_isHeld hheld
  have hworker : s.pool.worker? worker = some w := hw
  have hlength : s.pool.newSignal.2.signals.length = s.pool.signals.length + 1 :=
    List.length_append
  rw [drained, isClosed_eq hw]
  cases hclosed : w.isClosed with
  | true =>
    rw [WorkerPool.drained_of_closed hworker hclosed, if_pos rfl]
    refine .quiet s _ rfl ?_
    change _ ≤ (s.pool.newSignal.2.signals.set _ _).length
    rw [List.length_set, hlength]
    exact Nat.le_succ _
  | false =>
    obtain ⟨pool, hpool, hdrained⟩ := WorkerPool.drained_of_open hworker hclosed
    obtain ⟨-, -, -, hsignals, hstation⟩ := WorkerPool.station_submit hpool
    have hlength' := (congrArg List.length hsignals).trans hlength
    rw [hdrained, if_neg Bool.false_ne_true]
    refine .accepted pool s.promises _ w hw hclosed hhandles ((hstation worker).trans (if_pos rfl))
      ?_ (Nat.le_refl _) (fun id ↦ (if_neg nofun).symm) (Nat.lt_irrefl _) ?_
    · rw [hlength']
      exact Nat.le_succ _
    · change s.pool.signals.length < pool.signals.length
      rw [hlength']
      exact Nat.lt_succ_self _

theorem change_resolve (s : Workbench β) (state : SignalState) : Change s (s.resolve state) := by
  rw [resolve]
  split
  · exact .quiet s _ rfl (Nat.le_of_eq List.length_set.symm)
  · exact .refl s

theorem change_poll (s : Workbench β) : Change s s.poll := by
  have hstation : (s.pool.poll worker).2.station worker =
      (s.station.polled s.pool.isResolved).2 := (s.pool.station_poll _ _).trans (if_pos rfl)
  refine .polled _ _ ?_ (by rw [WorkerPool.signals_poll, WorkerPool.length_lose])
  rw [hstation, WorkerPool.poll_dropped]
  exact s.station.polled_spec _

theorem change_begin (s : Workbench β) : Change s s.begin := by
  rw [begin]
  split
  · next job pool hbegin =>
    obtain ⟨hhead, hstation, hsignals⟩ := WorkerPool.begin?_spec hbegin
    refine .begun pool job hhead ((hstation worker).trans (if_pos rfl)) ?_
    rw [hsignals]
    split
    · exact List.length_set
    · rfl
  · exact .refl s

theorem change_finish (s : Workbench β) (result : Except Payload β) :
    Change s (s.finish result) := by
  rw [finish]
  split
  · next job rest hrunning => exact .finished job rest result hrunning
  · exact .refl s

theorem change_step (s : Workbench β) (e : BenchEvent β) : Change s (s.step e) := by
  cases e with
  | submit => exact change_withHandle change_submit
  | call => exact change_withHandle change_call
  | drained => exact change_withHandle change_drained
  | shutdown =>
    exact change_withHandle fun _ ↦ change_modify s _ (fun _ ↦ rfl) (fun _ ↦ rfl) (fun _ _ ↦ rfl)
      (fun _ _ _ ↦ .inl rfl) fun _ ↦ rfl
  | retain =>
    refine change_withHandle fun hheld ↦ change_modify s _ (fun _ ↦ rfl) (fun _ ↦ rfl) (fun _ ↦ id)
      (fun w hw hstopped ↦ .inl (hstopped.resolve_right fun hleft ↦ ?_)) fun _ ↦ rfl
    exact (isHeld_iff hw).mp hheld hleft.1
  | release =>
    refine change_withHandle fun _ ↦ change_modify s _ (fun _ ↦ rfl) (fun _ ↦ rfl) (fun _ ↦ id)
      (fun w _ hstopped ↦ hstopped.imp_right fun hleft ↦ ⟨?_, hleft.2⟩) fun _ ↦ rfl
    change w.handles - 1 = 0
    rw [hleft.1]
  | resolve state => exact change_resolve s state
  | poll => exact change_poll s
  | begin => exact change_begin s
  | finish result => exact change_finish s result

end Workbench

end CodeHints
