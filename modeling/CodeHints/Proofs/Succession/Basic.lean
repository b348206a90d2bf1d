import CodeHints.Proofs.Pool.Links
import CodeHints.Proofs.Pool.Queue

/-!
# Workers that take the place of one another

A `Succession` is a chain of workers. Each one but the first was started to take the place of the
one before it, and waits for a signal that stands behind everything that was submitted to its
predecessor. Jobs go to the last worker only. All else may happen at any time: workers are shut
down, handles to them are taken and released, and the workers and their jobs go on.

Calling for a signal and starting the successor is one move. The successor does nothing before its
first turn, so it makes no difference how long its start is put off.

A move that is not possible changes nothing, so every list of moves is a run. Nobody submits or
shuts down without a handle.

## Signals that are lost

A signal is lost when its worker drops the queue in which it stands, and a worker that was shut down
loses it at once. Who waits for it waits no more, whether it was fired or lost.
-/

namespace CodeHints

theorem WorkerId.eq_of_index_eq {a b : WorkerId} (h : a.index = b.index) : a = b := by
  cases a
  cases b
  exact congrArg _ h

/-- A chain of workers, in the order in which they were started. -/
structure Succession (α : Type) where
  pool : WorkerPool α

namespace Succession

variable {α : Type} {s s' s'' : Succession α} {id : WorkerId}

inductive Move (α : Type) where
  /-- Submit a task to the last worker. -/
  | submit (a : α)
  /-- Call for a signal from the last worker for which no worker waits. -/
  | mark
  /-- Start a worker that takes the place of the last one. -/
  | succeed (name : String)
  | shutdown (id : WorkerId)
  | retain (id : WorkerId)
  | release (id : WorkerId)
  /-- The signal that the first worker may have to wait for is fired, or lost. -/
  | resolve (fired : Bool)
  /-- Give the consumer of a worker its turn. -/
  | poll (id : WorkerId)
  /-- Begin the job that a worker has handed over. -/
  | begin (id : WorkerId)
  /-- The job of a worker ends, by itself or by a breakdown. -/
  | finish (id : WorkerId)

/-- The first worker has been started. It may have to wait for a signal. -/
def start (name : String) (waits : Bool) : Succession α :=
  let (signal, pool) := WorkerPool.empty.newSignal
  ⟨(pool.start name (if waits then some signal else none)).2⟩

def last (s : Succession α) : WorkerId := ⟨s.pool.workers.length - 1⟩

@[simp] theorem last_index (s : Succession α) : s.last.index = s.pool.workers.length - 1 := rfl

abbrev station (s : Succession α) (id : WorkerId) : Station α := s.pool.station id

/-- Whether somebody has a handle to a worker. -/
def isHeld (s : Succession α) (id : WorkerId) : Bool := (s.station id).worker.any (·.handles ≠ 0)

def withHandle (s : Succession α) (id : WorkerId) (pool : WorkerPool α) : Succession α :=
  if s.isHeld id then ⟨pool⟩ else s

def succeed (s : Succession α) (name : String) : WorkerPool α :=
  ((s.pool.drained s.last).2.start name (some (s.pool.drained s.last).1)).2

def step (s : Succession α) : Move α → Succession α
  | .submit a => s.withHandle s.last (s.pool.offer s.last (.task a))
  | .mark => s.withHandle s.last (s.pool.drained s.last).2
  | .succeed name => s.withHandle s.last (s.succeed name)
  | .shutdown id => s.withHandle id (s.pool.shutdown id)
  | .retain id => s.withHandle id (s.pool.retain id)
  | .release id => s.withHandle id (s.pool.release id)
  | .resolve fired => ⟨s.pool.setSignal ⟨0⟩ (if fired then .fired else .lost)⟩
  | .poll id => ⟨(s.pool.poll id).2⟩
  | .begin id => ⟨((s.pool.begin? id).map (·.2)).getD s.pool⟩
  | .finish id => ⟨s.pool.finish id⟩

def run (s : Succession α) (moves : List (Move α)) : Succession α := moves.foldl step s

@[simp] theorem run_nil (s : Succession α) : s.run [] = s := rfl

@[simp] theorem run_cons (s : Succession α) (move : Move α) (moves : List (Move α)) :
    s.run (move :: moves) = (s.step move).run moves := rfl

theorem run_append (s : Succession α) (moves more : List (Move α)) :
    s.run (moves ++ more) = (s.run moves).run more := List.foldl_append

/-! ## What is to be seen of the workers -/

/-- The worker has a task that has not ended. -/
def HasTask (s : Succession α) (id : WorkerId) : Prop := ∃ a, .task a ∈ (s.station id).unfinished

def IsRunning (s : Succession α) (id : WorkerId) : Prop := ∃ a, .task a ∈ (s.station id).running

/-- No two workers run tasks at the same time. -/
def Alone (s : Succession α) : Prop := ∀ a b, s.IsRunning a → s.IsRunning b → a = b

/-- The worker still waits before it takes its first job. -/
def HeldUp (s : Succession α) (id : WorkerId) : Prop :=
  ∃ t, (s.station id).Awaits t ∧ s.pool.isResolved t = false

def IsOpen (s : Succession α) (id : WorkerId) : Prop :=
  ∃ w, (s.station id).worker = some w ∧ w.isClosed = false

/-- Tasks can still be submitted to the worker. -/
def Accepts (s : Succession α) (id : WorkerId) : Prop :=
  id.index + 1 = s.pool.workers.length ∧
    ∃ w, (s.station id).worker = some w ∧ w.isClosed = false ∧ w.handles ≠ 0

/-- The worker has a task to run, or may be given one. -/
def MayRun (s : Succession α) (id : WorkerId) : Prop := s.HasTask id ∨ s.Accepts id

theorem IsRunning.hasTask (h : s.IsRunning id) : s.HasTask id := by
  obtain ⟨a, ha⟩ := h
  exact ⟨a, List.mem_append_left _ ha⟩

theorem withHandle_of (P : Succession α → Prop) {pool : WorkerPool α} (h : P s)
    (hheld : s.isHeld id = true → P ⟨pool⟩) : P (s.withHandle id pool) := by
  rw [withHandle]
  split
  · next hid => exact hheld hid
  · exact h

theorem exists_of_isHeld (h : s.isHeld id = true) :
    ∃ w, (s.station id).worker = some w ∧ w.handles ≠ 0 := by
  rw [isHeld, Option.any_eq_true] at h
  obtain ⟨w, hw, hheld⟩ := h
  exact ⟨w, hw, of_decide_eq_true hheld⟩

theorem isHeld_of {w : SerialWorker α} (hw : (s.station id).worker = some w)
    (hheld : w.handles ≠ 0) : s.isHeld id = true := by
  rw [isHeld, hw]
  exact decide_eq_true hheld

theorem not_isOpen {w : SerialWorker α} (hw : (s.station id).worker = some w)
    (hclosed : w.isClosed = true) : ¬s.IsOpen id := by
  rintro ⟨v, hv, hopen⟩
  obtain rfl := Option.some.inj (hv.symm.trans hw)
  rw [hclosed] at hopen
  cases hopen

theorem index_lt {w : SerialWorker α} (hw : (s.station id).worker = some w) :
    id.index < s.pool.workers.length := (List.getElem?_eq_some_iff.mp hw).1

theorem accepts_of_isHeld (hheld : s.isHeld s.last = true) (hopen : s.IsOpen s.last) :
    s.Accepts s.last := by
  obtain ⟨w, hw, hopen⟩ := hopen
  obtain ⟨v, hv, hne⟩ := exists_of_isHeld hheld
  obtain rfl := Option.some.inj (hv.symm.trans hw)
  have hlt := index_lt hw
  rw [last_index] at hlt
  exact ⟨by rw [last_index]; omega, v, hw, hopen, hne⟩

/-! ## What a worker does by itself -/

/-- The worker that makes a move by itself. -/
def Move.actor? : Move α → Option WorkerId
  | .poll id | .begin id | .finish id => some id
  | _ => none

theorem station_poll (s : Succession α) (i : WorkerId) :
    (s.step (.poll i)).station i = ((s.station i).polled s.pool.isResolved).2 :=
  (WorkerPool.station_poll s.pool i i).trans (if_pos rfl)

theorem station_finish (s : Succession α) (i : WorkerId) :
    (s.step (.finish i)).station i = (s.station i).finished :=
  (WorkerPool.station_finish s.pool i i).trans (if_pos rfl)

theorem step_begin (s : Succession α) (i : WorkerId) : s.step (.begin i) = s ∨
    ∃ job, s.pool.begin? i = some (job, (s.step (.begin i)).pool) := by
  rw [step]
  cases s.pool.begin? i with
  | none => exact .inl rfl
  | some result => exact .inr ⟨result.1, rfl⟩

theorem station_of_ne {move : Move α} {i : WorkerId} (hactor : move.actor? = some i)
    (hid : id ≠ i) : (s.step move).station id = s.station id := by
  cases move with
  | poll i => cases hactor; exact (WorkerPool.station_poll s.pool i id).trans (if_neg hid)
  | begin i =>
    cases hactor
    obtain hsame | ⟨job, hbegin⟩ := s.step_begin i
    · rw [hsame]
    · obtain ⟨-, hstation, -⟩ := WorkerPool.begin?_spec hbegin
      exact (hstation id).trans (if_neg hid)
  | finish i => cases hactor; exact (WorkerPool.station_finish s.pool i id).trans (if_neg hid)
  | _ => cases hactor

theorem face_step {move : Move α} {i : WorkerId} (hactor : move.actor? = some i)
    (id : WorkerId) : ((s.step move).station id).face = (s.station id).face := by
  by_cases hid : id = i
  · subst hid
    cases move with
    | poll i =>
      cases hactor
      rw [station_poll]
      exact (Station.polled_spec s.pool.isResolved (s.station id)).face_eq
    | begin i =>
      cases hactor
      obtain hsame | ⟨job, hbegin⟩ := s.step_begin id
      · rw [hsame]
      · obtain ⟨-, hstation, -⟩ := WorkerPool.begin?_spec hbegin
        rw [station, hstation, if_pos rfl]
        rfl
    | finish i =>
      cases hactor
      rw [station_finish]
      exact Station.finished_face _
    | _ => cases hactor
  · rw [station_of_ne hactor hid]

theorem isOpen_congr (h : (s'.station id).face = (s.station id).face) :
    s'.IsOpen id ↔ s.IsOpen id := by
  have hmp {s s' : Succession α} (h : (s'.station id).face = (s.station id).face) :
      s.IsOpen id → s'.IsOpen id := by
    rintro ⟨w, hw, hopen⟩
    obtain ⟨v, hv, -, hclosed, -⟩ := Station.exists_of_face_eq h hw
    exact ⟨v, hv, hclosed.trans hopen⟩
  exact ⟨hmp h.symm, hmp h⟩

end Succession

/-! ## Stations that are not given more -/

namespace Station

variable {α : Type} {isResolved resolved' : SignalId → Bool} {st st' : Station α}

/-- A consumer that has stopped has left nothing in its queue. -/
def Emptied (st : Station α) : Prop :=
  ∀ w, st.worker = some w → w.consumer = .stopped → w.queue = []

theorem isSome_of_face_eq (h : st'.face = st.face) : st'.worker.isSome = st.worker.isSome := by
  have hsome := congrArg Option.isSome h
  rwa [face, face, Option.isSome_map, Option.isSome_map] at hsome

/-- What becomes of a station to which nothing is added. The signals of the jobs that it does not
hold any more need not be waited for. -/
structure Lessens (resolved' : SignalId → Bool) (st st' : Station α) : Prop where
  worker : st'.worker.isSome = st.worker.isSome
  sound : st'.Sound
  emptied : st'.Emptied
  store : ∃ gone, st.store = gone ++ st'.store ∧ ∀ t, .signal t ∈ gone → resolved' t = true
  unfinished : ∀ job ∈ st'.unfinished, job ∈ st.unfinished
  awaits : ∀ t, st'.Awaits t → st.Awaits t
  /-- A worker that is open and held was so before. -/
  face : ∀ w', st'.worker = some w' → w'.isClosed = false → w'.handles ≠ 0 →
    ∃ w, st.worker = some w ∧ w.isClosed = false ∧ w.handles ≠ 0

namespace Lessens

theorem refl (hsound : st.Sound) (hemptied : st.Emptied) : st.Lessens resolved' st :=
  ⟨rfl, hsound, hemptied, ⟨[], rfl, nofun⟩, fun _ h ↦ h, fun _ h ↦ h,
    fun w hw hopen hheld ↦ ⟨w, hw, hopen, hheld⟩⟩

theorem mapWorker (hsound : st.Sound) (hemptied : st.Emptied)
    (f : SerialWorker α → SerialWorker α)
    (hconsumer : ∀ w, (f w).consumer = w.consumer) (hqueue : ∀ w, (f w).queue = w.queue)
    (hopen : ∀ w, (f w).isClosed = false → w.isClosed = false)
    (hheld : ∀ w, st.worker = some w → (f w).handles ≠ 0 → w.handles ≠ 0)
    (hstopped : ∀ w, st.worker = some w → w.isClosed = true ∨ (w.handles = 0 ∧ w.queue = []) →
      (f w).isClosed = true ∨ ((f w).handles = 0 ∧ (f w).queue = [])) :
    st.Lessens resolved' (st.mapWorker f) := by
  have hworker {w' : SerialWorker α} (hw' : (st.mapWorker f).worker = some w') :
      ∃ w, st.worker = some w ∧ w' = f w := by
    obtain ⟨w, hw, rfl⟩ := Option.map_eq_some_iff.mp hw'
    exact ⟨w, hw, rfl⟩
  refine ⟨Option.isSome_map, hsound.mapWorker f hconsumer hstopped, fun w' hw' hc ↦ ?_,
    ⟨[], ?_, nofun⟩, fun job hjob ↦ ?_, fun t ↦ (awaits_mapWorker st f hconsumer t).mp,
    fun w' hw' hopen' hheld' ↦ ?_⟩
  · obtain ⟨w, hw, rfl⟩ := hworker hw'
    rw [hqueue]
    exact hemptied w hw ((hconsumer w).symm.trans hc)
  · rw [List.nil_append, Station.store, Station.store, queue_mapWorker st hqueue]
    rfl
  · obtain hrunning | hline := List.mem_append.mp hjob
    · exact List.mem_append_left _ hrunning
    · refine List.mem_append_right _ ?_
      obtain hhanded | hupcoming := List.mem_append.mp hline
      · exact List.mem_append_left _ hhanded
      · refine List.mem_append_right _ ?_
        cases hw : st.worker with
        | none => simp [Station.mapWorker, hw] at hupcoming
        | some w =>
          simp only [Station.mapWorker, hw, Option.map_some, Option.getD_some,
            SerialWorker.upcoming, hqueue] at hupcoming ⊢
          split at hupcoming
          · cases hupcoming
          · next hnot => rwa [if_neg (by simp [hopen w (Bool.not_eq_true _ ▸ hnot)])]
  · obtain ⟨w, hw, rfl⟩ := hworker hw'
    exact ⟨w, hw, hopen w hopen', hheld w hw hheld'⟩

theorem polled (hsound : st.Sound) (hemptied : st.Emptied) {dropped : List (Job α)}
    (h : Polled isResolved st dropped st') (hlost : ∀ t, .signal t ∈ dropped → resolved' t = true) :
    st.Lessens resolved' st' := by
  refine ⟨isSome_of_face_eq h.face_eq, hsound.polled h,
    fun w' hw' hc ↦ h.queue_of_stopped hemptied hw' hc,
    ⟨dropped, h.store_eq hsound.toOccupied, hlost⟩, fun job hjob ↦ ?_, fun t ↦ h.awaits,
    fun w' hw' hopen hheld ↦ ?_⟩
  · rw [Station.unfinished, h.running_eq, h.line_eq] at hjob
    exact hjob
  · obtain ⟨w, hw, -, hclosed, hhandles⟩ := exists_of_face_eq h.face_eq.symm hw'
    exact ⟨w, hw, hclosed.trans hopen, hhandles ▸ hheld⟩

/-- The job that was handed over begins; if it is a signal, it is fired. -/
theorem begun (hsound : st.Sound) (hemptied : st.Emptied) {job : Job α}
    (hhead : st.handed.head? = some job) (hfired : ∀ t, job = .signal t → resolved' t = true) :
    st.Lessens resolved' { st with handed := [], running := st.running ++ [job] } := by
  refine ⟨rfl, hsound.begun hhead, hemptied, ⟨[job], ?_, fun t ht ↦ ?_⟩, fun other hother ↦ ?_,
    fun t h ↦ h, fun w hw hopen hheld ↦ ⟨w, hw, hopen, hheld⟩⟩
  · rw [Station.store, (hsound.handed_eq hhead).1]
    rfl
  · exact hfired t (List.mem_singleton.mp ht).symm
  · rwa [hsound.unfinished_of_handed hhead] at hother

theorem finished (hsound : st.Sound) (hemptied : st.Emptied) :
    st.Lessens resolved' st.finished := by
  refine ⟨isSome_of_face_eq st.finished_face, hsound.finished, fun w' hw' hc ↦ ?_, ⟨[], ?_, nofun⟩,
    fun job hjob ↦ ?_, fun t ↦ finished_awaits, fun w' hw' hopen hheld ↦ ?_⟩
  · by_cases hrunning : st.running = []
    · rw [Station.finished, if_pos hrunning] at hw'
      exact hemptied w' hw' hc
    · rw [Station.finished, if_neg hrunning] at hw'
      obtain ⟨w, -, rfl⟩ := Option.map_eq_some_iff.mp hw'
      cases hc
  · rw [List.nil_append, Station.store, Station.store, queue_finished, handed_finished]
  · exact (Within.finished st).unfinished hjob
  · obtain ⟨w, hw, -, hclosed, hhandles⟩ := exists_of_face_eq st.finished_face.symm hw'
    exact ⟨w, hw, hclosed.trans hopen, hhandles ▸ hheld⟩

end Lessens

end Station

end CodeHints
