import CodeHints.Worker.Pool

/-!
# What concerns one worker of a pool

A `WorkerPool` keeps its workers in one list, and the jobs that were handed over or are being run in
two others, each job with the name of its worker. Every step of the pool touches one worker and the
jobs of that worker only, but this is not to be seen from the lists. The `Station` of a worker puts
together what the pool knows about it, so that each step becomes a change of one station.

## The line of a worker

The jobs that a worker may still begin are its `Station.line`: what it has handed over, and after it
the queue, which counts only as long as the worker is not shut down, since a worker that is shut
down drops its queue. Polling a worker moves jobs from the queue to those that are handed over, and
leaves the line as it is. Only a submission makes the line longer, and only a job that begins makes
it shorter at the front.

## Turns

`Station.Polled` lists what the turn of a consumer may come to. Later arguments split along its
constructors and do not open `SerialWorker.turn` any more.
-/

namespace CodeHints

/-- What a pool knows about one worker. -/
structure Station (α : Type) where
  worker : Option (SerialWorker α)
  /-- The jobs that were handed over and have not begun. -/
  handed : List (Job α)
  /-- The jobs that are being run. -/
  running : List (Job α)

namespace SerialWorker

variable {α : Type}

/-- The jobs that the consumer of a worker will still take. -/
def upcoming (w : SerialWorker α) : List (Job α) := if w.isClosed then [] else w.queue

theorem upcoming_of_open {w : SerialWorker α} (h : w.isClosed = false) : w.upcoming = w.queue := by
  simp [upcoming, h]

end SerialWorker

namespace Station

variable {α : Type}

def mapWorker (st : Station α) (f : SerialWorker α → SerialWorker α) : Station α :=
  { st with worker := st.worker.map f }

/-- The jobs that a worker may still begin, the next one first. -/
def line (st : Station α) : List (Job α) :=
  st.handed ++ (st.worker.map SerialWorker.upcoming).getD []

/-- The jobs that are not known to have ended. -/
def unfinished (st : Station α) : List (Job α) := st.running ++ st.line

/-- A station of which nothing will ever run again unless something is submitted. -/
def IsSpent (st : Station α) : Prop := st.unfinished = []

/-- The worker waits for a signal before it takes its first job. -/
def Awaits (st : Station α) (signal : SignalId) : Prop :=
  ∃ w, st.worker = some w ∧ w.consumer = .waiting signal

theorem awaits_mapWorker (st : Station α) (f : SerialWorker α → SerialWorker α)
    (hconsumer : ∀ w, (f w).consumer = w.consumer) (s : SignalId) :
    (st.mapWorker f).Awaits s ↔ st.Awaits s := by
  constructor
  · rintro ⟨v, hv, hc⟩
    obtain ⟨w, hw, rfl⟩ := Option.map_eq_some_iff.mp hv
    exact ⟨w, hw, (hconsumer w).symm.trans hc⟩
  · rintro ⟨w, hw, hc⟩
    exact ⟨f w, congrArg (Option.map f) hw, (hconsumer w).trans hc⟩

/-- What a submitter sees of a worker: its name, whether it was shut down, and its handles. -/
def face (st : Station α) : Option (String × Bool × Nat) :=
  st.worker.map fun w ↦ (w.name, w.isClosed, w.handles)

theorem exists_of_face_eq {st st' : Station α} (h : st'.face = st.face) {w : SerialWorker α}
    (hw : st.worker = some w) : ∃ v, st'.worker = some v ∧ v.name = w.name ∧
      v.isClosed = w.isClosed ∧ v.handles = w.handles := by
  rw [face, face, hw, Option.map_some, Option.map_eq_some_iff] at h
  obtain ⟨v, hv, heq⟩ := h
  simp only [Prod.mk.injEq] at heq
  exact ⟨v, hv, heq⟩

/-! ## Turns -/

/-- A worker that would take a job. -/
def IsReady (isResolved : SignalId → Bool) (w : SerialWorker α) : Prop :=
  w.isClosed = false ∧
    (w.consumer = .idle ∨ ∃ signal, w.consumer = .waiting signal ∧ isResolved signal = true)

/-- The jobs that the consumer drops in its turn, and the station after it. -/
def polled (isResolved : SignalId → Bool) (st : Station α) : List (Job α) × Station α :=
  match st.worker with
  | none => ([], st)
  | some w =>
    match w.turn isResolved with
    | (.rest, w) => ([], { st with worker := some w })
    | (.take job, w) => ([], { st with worker := some w, handed := st.handed ++ [job] })
    | (.stop dropped, w) => (dropped, { st with worker := some w })

/-- What the turn of a consumer comes to: the jobs that are dropped, and the station after it. -/
inductive Polled (isResolved : SignalId → Bool) (st : Station α) :
    List (Job α) → Station α → Prop where
  /-- There is nothing to do yet, or no such worker. -/
  | rested (h : ∀ w, st.worker = some w →
      w.consumer = .busy ∨ w.consumer = .stopped ∨
        ∃ signal, w.consumer = .waiting signal ∧ w.isClosed = false ∧ isResolved signal = false) :
      Polled isResolved st [] st
  /-- The consumer has found its queue empty, and waits for a job. -/
  | waited (w : SerialWorker α) (hw : st.worker = some w) (ready : IsReady isResolved w)
      (empty : w.queue = []) (held : w.handles ≠ 0) :
      Polled isResolved st [] { st with worker := some { w with consumer := .idle } }
  /-- The consumer has handed over the first job of its queue. -/
  | took (w : SerialWorker α) (hw : st.worker = some w) (ready : IsReady isResolved w)
      (job : Job α) (rest : List (Job α)) (hq : w.queue = job :: rest) :
      Polled isResolved st [] { st with
        worker := some { w with queue := rest, consumer := .busy }
        handed := st.handed ++ [job] }
  /-- The queue is empty and nobody can submit to it, so the consumer has stopped. -/
  | left (w : SerialWorker α) (hw : st.worker = some w) (ready : IsReady isResolved w)
      (empty : w.queue = []) (unheld : w.handles = 0) :
      Polled isResolved st [] { st with worker := some { w with consumer := .stopped } }
  /-- The worker was shut down, and the consumer has dropped the queue. -/
  | stopped (w : SerialWorker α) (hw : st.worker = some w) (closed : w.isClosed = true)
      (unoccupied : w.consumer ≠ .busy) :
      Polled isResolved st w.queue
        { st with worker := some { w with queue := [], consumer := .stopped } }

private theorem polled_takeNext {isResolved : SignalId → Bool} {st : Station α}
    {w : SerialWorker α} (hw : st.worker = some w) (ready : IsReady isResolved w)
    (hturn : w.turn isResolved = w.takeNext) :
    Polled isResolved st (st.polled isResolved).1 (st.polled isResolved).2 := by
  cases hq : w.queue with
  | cons job rest =>
    have hnext : w.takeNext = (.take job, { w with queue := rest, consumer := .busy }) := by
      simp only [SerialWorker.takeNext, hq]
    simp only [polled, hw, hturn, hnext]
    exact .took w hw ready job rest hq
  | nil =>
    by_cases h0 : w.handles = 0
    · have hnext : w.takeNext = (.stop [], { w with consumer := .stopped }) := by
        rw [SerialWorker.takeNext]
        simp [hq, h0]
      simp only [polled, hw, hturn, hnext]
      exact .left w hw ready hq h0
    · have hnext : w.takeNext = (.rest, { w with consumer := .idle }) := by
        rw [SerialWorker.takeNext]
        simp [hq, h0]
      simp only [polled, hw, hturn, hnext]
      exact .waited w hw ready hq h0

/-- The turn of a consumer comes to one of the listed changes. -/
theorem polled_spec (isResolved : SignalId → Bool) (st : Station α) :
    Polled isResolved st (st.polled isResolved).1 (st.polled isResolved).2 := by
  cases hw : st.worker with
  | none =>
    simp only [polled, hw]
    exact .rested fun w h ↦ by rw [hw] at h; cases h
  | some w =>
    have hrested (hturn : w.turn isResolved = (.rest, w))
        (h : w.consumer = .busy ∨ w.consumer = .stopped ∨
          ∃ signal, w.consumer = .waiting signal ∧ w.isClosed = false ∧ isResolved signal = false) :
        Polled isResolved st (st.polled isResolved).1 (st.polled isResolved).2 := by
      have hst : { st with worker := some w } = st := by rw [← hw]
      simp only [polled, hw, hturn, hst]
      refine .rested fun v hv ↦ ?_
      rw [hw] at hv
      obtain rfl := Option.some.inj hv
      exact h
    have hstopped (hturn : w.turn isResolved = w.stop) (closed : w.isClosed = true)
        (unoccupied : w.consumer ≠ .busy) :
        Polled isResolved st (st.polled isResolved).1 (st.polled isResolved).2 := by
      simp only [polled, hw, hturn, SerialWorker.stop]
      exact .stopped w hw closed unoccupied
    cases hc : w.consumer with
    | busy => exact hrested (by simp only [SerialWorker.turn, hc]) (.inl hc)
    | stopped => exact hrested (by simp only [SerialWorker.turn, hc]) (.inr (.inl hc))
    | idle =>
      by_cases hclosed : w.isClosed = true
      · exact hstopped (by simp only [SerialWorker.turn, hc, hclosed, if_true]) hclosed
          (by rw [hc]; simp)
      · rw [Bool.not_eq_true] at hclosed
        exact polled_takeNext hw ⟨hclosed, .inl hc⟩ (by simp [SerialWorker.turn, hc, hclosed])
    | waiting signal =>
      by_cases hclosed : w.isClosed = true
      · exact hstopped (by simp only [SerialWorker.turn, hc, hclosed, if_true]) hclosed
          (by rw [hc]; simp)
      · rw [Bool.not_eq_true] at hclosed
        by_cases hr : isResolved signal = true
        · exact polled_takeNext hw ⟨hclosed, .inr ⟨signal, hc, hr⟩⟩
            (by simp [SerialWorker.turn, hc, hclosed, hr])
        · rw [Bool.not_eq_true] at hr
          exact hrested (by simp [SerialWorker.turn, hc, hclosed, hr])
            (.inr (.inr ⟨signal, hc, hclosed, hr⟩))

/-- A turn moves jobs from the queue to those that are handed over, so it leaves the line as it
is. -/
theorem Polled.line_eq {isResolved : SignalId → Bool} {st st' : Station α} {dropped : List (Job α)}
    (h : Polled isResolved st dropped st') : st'.line = st.line := by
  cases h with
  | rested h => rfl
  | waited w hw ready empty held => simp [line, hw, SerialWorker.upcoming]
  | took w hw ready job rest hq => simp [line, hw, SerialWorker.upcoming, hq, ready.1]
  | left w hw ready empty unheld => simp [line, hw, SerialWorker.upcoming]
  | stopped w hw closed unoccupied => simp [line, hw, SerialWorker.upcoming, closed]

theorem Polled.running_eq {isResolved : SignalId → Bool} {st st' : Station α}
    {dropped : List (Job α)} (h : Polled isResolved st dropped st') : st'.running = st.running := by
  cases h <;> rfl

theorem Polled.face_eq {isResolved : SignalId → Bool} {st st' : Station α}
    {dropped : List (Job α)} (h : Polled isResolved st dropped st') : st'.face = st.face := by
  cases h with
  | rested h => rfl
  | waited w hw ready empty held => rw [face, face, hw]; rfl
  | took w hw ready job rest hq => rw [face, face, hw]; rfl
  | left w hw ready empty unheld => rw [face, face, hw]; rfl
  | stopped w hw closed unoccupied => rw [face, face, hw]; rfl

theorem Polled.queue_of_closed {isResolved : SignalId → Bool} {st st' : Station α}
    {dropped : List (Job α)} (h : Polled isResolved st dropped st') {v : SerialWorker α}
    (hv : st'.worker = some v) (hclosed : v.isClosed = true) :
    v.queue = [] ∨ ∃ w, st.worker = some w ∧ w.isClosed = true ∧ w.queue = v.queue := by
  cases h with
  | rested _ => exact .inr ⟨v, hv, hclosed, rfl⟩
  | waited w hw ready _ _ => cases hv; exact .inr ⟨w, hw, hclosed, rfl⟩
  | took w hw ready _ _ _ => cases hv; rw [ready.1] at hclosed; cases hclosed
  | left w hw ready _ _ => cases hv; exact .inr ⟨w, hw, hclosed, rfl⟩
  | stopped w hw _ _ => cases hv; exact .inl rfl

/-- After its turn a consumer waits for a signal only if it did so before. -/
theorem Polled.awaits {isResolved : SignalId → Bool} {st st' : Station α} {dropped : List (Job α)}
    (h : Polled isResolved st dropped st') {s : SignalId} (hs : st'.Awaits s) : st.Awaits s := by
  obtain ⟨v, hv, hc⟩ := hs
  cases h with
  | rested _ => exact ⟨v, hv, hc⟩
  | _ => cases hv; cases hc

/-- A consumer that waits for a pending signal does nothing, or stops for good. -/
theorem Polled.of_awaits {isResolved : SignalId → Bool} {st st' : Station α}
    {dropped : List (Job α)} (h : Polled isResolved st dropped st') {s : SignalId}
    (hs : st.Awaits s) (hpending : isResolved s = false) :
    st' = st ∨ ∃ w, st.worker = some w ∧ w.isClosed = true := by
  obtain ⟨v, hv, hc⟩ := hs
  have hready {w : SerialWorker α} (hw : st.worker = some w) (ready : IsReady isResolved w) :
      False := by
    obtain rfl := Option.some.inj (hv.symm.trans hw)
    obtain hidle | ⟨t, ht, hr⟩ := ready.2
    · rw [hc] at hidle; cases hidle
    · rw [hc] at ht
      cases ht
      rw [hpending] at hr
      cases hr
  cases h with
  | rested _ => exact .inl rfl
  | waited w hw ready _ _ => exact (hready hw ready).elim
  | took w hw ready _ _ _ => exact (hready hw ready).elim
  | left w hw ready _ _ => exact (hready hw ready).elim
  | stopped w hw closed _ => exact .inr ⟨w, hw, closed⟩

theorem Polled.handed_of_ready {isResolved : SignalId → Bool} {st st' : Station α}
    {dropped : List (Job α)} (h : Polled isResolved st dropped st') {w : SerialWorker α}
    (hw : st.worker = some w) (hready : IsReady isResolved w) {job : Job α} {rest : List (Job α)}
    (hqueue : w.queue = job :: rest) : st'.handed = st.handed ++ [job] := by
  have hsame {v : SerialWorker α} (hv : st.worker = some v) : v = w :=
    Option.some.inj (hv.symm.trans hw)
  cases h with
  | took v hv _ first more hq =>
    obtain rfl := hsame hv
    rw [hqueue, List.cons.injEq] at hq
    rw [hq.1]
  | rested h =>
    obtain hbusy | hstopped | ⟨t, hc, -, hpending⟩ := h w hw
    · obtain hc | ⟨t, hc, -⟩ := hready.2 <;> rw [hbusy] at hc <;> cases hc
    · obtain hc | ⟨t, hc, -⟩ := hready.2 <;> rw [hstopped] at hc <;> cases hc
    · obtain hc' | ⟨t', hc', hresolved⟩ := hready.2 <;> rw [hc] at hc' <;> cases hc'
      rw [hpending] at hresolved
      cases hresolved
  | waited v hv _ empty _ =>
    obtain rfl := hsame hv
    rw [hqueue] at empty
    cases empty
  | left v hv _ empty _ =>
    obtain rfl := hsame hv
    rw [hqueue] at empty
    cases empty
  | stopped v hv closed _ =>
    obtain rfl := hsame hv
    rw [hready.1] at closed
    cases closed

/-! ## Ends of jobs -/

/-- The station when its running job ends. -/
def finished (st : Station α) : Station α :=
  if st.running = [] then st else { st.mapWorker SerialWorker.finish with running := [] }

theorem finished_line (st : Station α) : st.finished.line = st.line := by
  unfold finished
  split
  · rfl
  · cases hw : st.worker <;> simp [line, mapWorker, hw, SerialWorker.upcoming, SerialWorker.finish]

theorem finished_face (st : Station α) : st.finished.face = st.face := by
  unfold finished
  split
  · rfl
  · cases hw : st.worker <;> simp [face, mapWorker, hw, SerialWorker.finish]

theorem finished_awaits {st : Station α} {s : SignalId} (h : st.finished.Awaits s) :
    st.Awaits s := by
  unfold finished at h
  split at h
  · exact h
  · obtain ⟨v, hv, hc⟩ := h
    rw [mapWorker, Option.map_eq_some_iff] at hv
    obtain ⟨w, -, rfl⟩ := hv
    cases hc

theorem finished_running (st : Station α) : st.finished.running = [] := by
  unfold finished
  split
  · next h => exact h
  · rfl

/-! ## Submitters

What a submitter does to a worker leaves the line as it is, makes it longer by one job, or cuts it
off behind what was handed over. -/

theorem line_mapWorker (st : Station α) (f : SerialWorker α → SerialWorker α)
    (h : ∀ w, (f w).upcoming = w.upcoming) : (st.mapWorker f).line = st.line := by
  cases hw : st.worker <;> simp [line, mapWorker, hw, h]

theorem line_submitted {st : Station α} {w : SerialWorker α} (hw : st.worker = some w)
    (hopen : w.isClosed = false) (f : SerialWorker α → SerialWorker α) {job : Job α}
    (hclosed : (f w).isClosed = w.isClosed) (hqueue : (f w).queue = w.queue ++ [job]) :
    (st.mapWorker f).line = st.line ++ [job] := by
  simp [line, mapWorker, hw, SerialWorker.upcoming, hclosed, hopen, hqueue]

theorem line_of_open {st : Station α} (hhanded : st.handed = []) {w : SerialWorker α}
    (hw : st.worker = some w) (hopen : w.isClosed = false) : st.line = w.queue := by
  rw [line, hhanded, hw, Option.map_some, Option.getD_some, SerialWorker.upcoming_of_open hopen,
    List.nil_append]

theorem line_closed {st : Station α} {w : SerialWorker α} (hw : st.worker = some w)
    (hclosed : w.isClosed = true) : st.line = st.handed := by
  simp [line, hw, SerialWorker.upcoming, hclosed]

/-! ## Stations that have nothing to do that another one has not

Most changes of a station leave its line as it is, and begin neither a job nor a wait. -/

/-- Whatever the first station has to do, the second one has to do as well, in the same line. -/
structure Within (st' st : Station α) : Prop where
  name : st'.worker.map SerialWorker.name = st.worker.map SerialWorker.name
  line : st'.line = st.line
  running : ∀ job ∈ st'.running, job ∈ st.running
  awaits : ∀ s, st'.Awaits s → st.Awaits s

namespace Within

variable {st st' : Station α}

theorem refl (st : Station α) : st.Within st := ⟨rfl, rfl, fun _ h ↦ h, fun _ h ↦ h⟩

theorem unfinished (h : st'.Within st) {job : Job α} (hjob : job ∈ st'.unfinished) :
    job ∈ st.unfinished := by
  rw [Station.unfinished, h.line, List.mem_append] at hjob
  exact List.mem_append.mpr (hjob.imp_left (h.running job))

theorem isSpent (h : st'.Within st) (hspent : st.IsSpent) : st'.IsSpent := by
  obtain ⟨hrunning, hline⟩ := List.append_eq_nil_iff.mp hspent
  rw [IsSpent, Station.unfinished, h.line, hline, List.append_nil, List.eq_nil_iff_forall_not_mem]
  intro job hjob
  have hmem := h.running job hjob
  rw [hrunning] at hmem
  cases hmem

theorem polled {isResolved : SignalId → Bool} {dropped : List (Job α)}
    (h : Polled isResolved st dropped st') : st'.Within st := by
  refine ⟨?_, h.line_eq, fun job hjob ↦ by rw [← h.running_eq]; exact hjob, fun s ↦ h.awaits⟩
  have hface := congrArg (Option.map (·.1)) h.face_eq
  rw [face, face, Option.map_map, Option.map_map] at hface
  exact hface

theorem finished (st : Station α) : st.finished.Within st := by
  refine ⟨?_, finished_line st, ?_, fun s ↦ finished_awaits⟩
  · have hface := congrArg (Option.map (·.1)) (finished_face st)
    rw [face, face, Option.map_map, Option.map_map] at hface
    exact hface
  · rw [finished_running]
    intro job hjob
    cases hjob

theorem mapWorker (st : Station α) (f : SerialWorker α → SerialWorker α)
    (hname : ∀ w, (f w).name = w.name) (hconsumer : ∀ w, (f w).consumer = w.consumer)
    (hupcoming : ∀ w, (f w).upcoming = w.upcoming) : (st.mapWorker f).Within st := by
  refine ⟨?_, line_mapWorker st f hupcoming, fun _ h ↦ h,
    fun s ↦ (awaits_mapWorker st f hconsumer s).mp⟩
  rw [Station.mapWorker, Option.map_map]
  exact Option.map_congr fun w _ ↦ hname w

end Within

/-! ## Jobs and the consumer

A consumer is busy exactly as long as one job of it is handed over or being run, and it stops only
when no more jobs can come. The first of these is true of every pool, and is `Occupied`; the second
needs that handles are counted right. -/

/-- Whether the consumer of a station has handed over a job that has not ended. -/
def isBusy (st : Station α) : Bool := st.worker.any (·.consumer = .busy)

/-- A consumer is busy exactly as long as a job of it is handed over or being run. -/
structure Occupied (st : Station α) : Prop where
  occupied : st.handed.length + st.running.length = if st.isBusy then 1 else 0

/-- What holds of a station in every state of a pool. -/
structure Sound (st : Station α) : Prop extends Occupied st where
  stopped : ∀ w, st.worker = some w → w.consumer = .stopped →
    w.isClosed = true ∨ (w.handles = 0 ∧ w.queue = [])

namespace Occupied

variable {st : Station α}

theorem running_le (h : st.Occupied) : st.running.length ≤ 1 := by
  have := h.occupied
  split at this <;> omega

/-- A job that was handed over is the only one, and none is being run. -/
theorem handed_eq (h : st.Occupied) {job : Job α} (hhead : st.handed.head? = some job) :
    st.handed = [job] ∧ st.running = [] := by
  have hocc := h.occupied
  cases hh : st.handed with
  | nil => simp [hh] at hhead
  | cons first rest =>
    simp only [hh, List.head?_cons, Option.some.injEq] at hhead
    subst hhead
    simp only [hh, List.length_cons] at hocc
    have hrest : rest.length = 0 := by split at hocc <;> omega
    have hrun : st.running.length = 0 := by split at hocc <;> omega
    rw [List.length_eq_zero_iff] at hrest hrun
    exact ⟨by rw [hrest], hrun⟩

theorem isBusy_of_ne_nil (h : st.Occupied) (hne : st.handed ≠ [] ∨ st.running ≠ []) :
    st.isBusy = true := by
  have hocc := h.occupied
  have hpos := hne.imp List.length_pos_iff.mpr List.length_pos_iff.mpr
  cases hb : st.isBusy with
  | true => rfl
  | false =>
    simp only [hb, Bool.false_eq_true, if_false] at hocc
    omega

theorem eq_nil_of_not_busy (h : st.Occupied) (hb : st.isBusy = false) :
    st.handed = [] ∧ st.running = [] := by
  have hocc := h.occupied
  rw [hb] at hocc
  simp only [Bool.false_eq_true, if_false, Nat.add_eq_zero_iff, List.length_eq_zero_iff] at hocc
  exact hocc

theorem line_of_handed (h : st.Occupied) {job : Job α} (hhead : st.handed.head? = some job) :
    st.line = job :: { st with handed := [], running := st.running ++ [job] }.line := by
  rw [line, (h.handed_eq hhead).1]
  rfl

/-- Beginning a job changes the order of nothing that has not ended. -/
theorem unfinished_of_handed (h : st.Occupied) {job : Job α} (hhead : st.handed.head? = some job) :
    { st with handed := [], running := st.running ++ [job] }.unfinished = st.unfinished := by
  rw [unfinished, unfinished, h.line_of_handed hhead, List.append_assoc]
  rfl

theorem eq_nil_of_awaits (h : st.Occupied) {s : SignalId} (hs : st.Awaits s) :
    st.handed = [] ∧ st.running = [] := by
  obtain ⟨w, hw, hc⟩ := hs
  exact h.eq_nil_of_not_busy (by simp [isBusy, hw, hc])

theorem eq_nil_of_ready (h : st.Occupied) {isResolved : SignalId → Bool} {w : SerialWorker α}
    (hw : st.worker = some w) (ready : IsReady isResolved w) :
    st.handed = [] ∧ st.running = [] := by
  refine h.eq_nil_of_not_busy ?_
  obtain hc | ⟨s, hc, -⟩ := ready.2 <;> simp [isBusy, hw, hc]

theorem polled (h : st.Occupied) {isResolved : SignalId → Bool} {dropped : List (Job α)}
    {st' : Station α} (hp : Polled isResolved st dropped st') : st'.Occupied := by
  cases hp with
  | rested _ => exact h
  | waited w hw ready empty held => exact ⟨by simp [h.eq_nil_of_ready hw ready, isBusy]⟩
  | took w hw ready job rest hq => exact ⟨by simp [h.eq_nil_of_ready hw ready, isBusy]⟩
  | left w hw ready empty unheld => exact ⟨by simp [h.eq_nil_of_ready hw ready, isBusy]⟩
  | stopped w hw closed unoccupied =>
    have hnil := h.eq_nil_of_not_busy (by simp [isBusy, hw, unoccupied])
    exact ⟨by simp [hnil, isBusy]⟩

theorem begun (h : st.Occupied) {job : Job α} (hhead : st.handed.head? = some job) :
    { st with handed := [], running := st.running ++ [job] }.Occupied := by
  have hone := h.handed_eq hhead
  have hbusy : st.isBusy = true := h.isBusy_of_ne_nil (.inl (by rw [hone.1]; simp))
  refine ⟨?_⟩
  change 0 + (st.running ++ [job]).length = if st.isBusy then 1 else 0
  rw [hone.2, hbusy]
  rfl

theorem finished (h : st.Occupied) : st.finished.Occupied := by
  unfold Station.finished
  split
  · exact h
  · next hne =>
    have hbusy := h.isBusy_of_ne_nil (.inr hne)
    have hocc := h.occupied
    have hpos := List.length_pos_iff.mpr hne
    have hhanded : st.handed = [] := by
      rw [hbusy, if_pos rfl] at hocc
      exact List.length_eq_zero_iff.mp (by omega)
    obtain ⟨w, hw, -⟩ := (Option.any_eq_true _ _).mp hbusy
    exact ⟨by simp [hhanded, isBusy, Station.mapWorker, hw, SerialWorker.finish]⟩

theorem mapWorker (h : st.Occupied) (f : SerialWorker α → SerialWorker α)
    (hconsumer : ∀ w, (f w).consumer = w.consumer) : (st.mapWorker f).Occupied := by
  have hbusy : (st.mapWorker f).isBusy = st.isBusy := by
    cases hw : st.worker <;> simp [isBusy, Station.mapWorker, hw, hconsumer]
  exact ⟨by rw [hbusy]; exact h.occupied⟩

end Occupied

namespace Sound

variable {st : Station α}

theorem started (name : String) (predecessor : Option SignalId) :
    (⟨some (.start name predecessor), [], []⟩ : Station α).Sound := by
  cases predecessor with
  | none =>
    refine ⟨⟨rfl⟩, ?_⟩
    rintro _ ⟨⟩ hc
    cases hc
  | some s =>
    refine ⟨⟨rfl⟩, ?_⟩
    rintro _ ⟨⟩ hc
    cases hc

theorem polled (h : st.Sound) {isResolved : SignalId → Bool} {dropped : List (Job α)}
    {st' : Station α} (hp : Polled isResolved st dropped st') : st'.Sound := by
  refine ⟨h.toOccupied.polled hp, ?_⟩
  cases hp with
  | rested _ => exact h.stopped
  | waited w hw ready empty held =>
    rintro _ ⟨⟩ hc
    cases hc
  | took w hw ready job rest hq =>
    rintro _ ⟨⟩ hc
    cases hc
  | left w hw ready empty unheld =>
    rintro _ ⟨⟩ _
    exact .inr ⟨unheld, empty⟩
  | stopped w hw closed unoccupied =>
    rintro _ ⟨⟩ _
    exact .inl closed

theorem begun (h : st.Sound) {job : Job α} (hhead : st.handed.head? = some job) :
    { st with handed := [], running := st.running ++ [job] }.Sound :=
  ⟨h.toOccupied.begun hhead, h.stopped⟩

theorem finished (h : st.Sound) : st.finished.Sound := by
  refine ⟨h.toOccupied.finished, ?_⟩
  unfold Station.finished
  split
  · exact h.stopped
  · intro v hv hc
    rw [Station.mapWorker, Option.map_eq_some_iff] at hv
    obtain ⟨w, -, rfl⟩ := hv
    cases hc

theorem mapWorker (h : st.Sound) (f : SerialWorker α → SerialWorker α)
    (hconsumer : ∀ w, (f w).consumer = w.consumer)
    (hstopped : ∀ w, st.worker = some w →
      w.isClosed = true ∨ (w.handles = 0 ∧ w.queue = []) →
      (f w).isClosed = true ∨ ((f w).handles = 0 ∧ (f w).queue = [])) :
    (st.mapWorker f).Sound := by
  refine ⟨h.toOccupied.mapWorker f hconsumer, ?_⟩
  intro v hv hc
  rw [Station.mapWorker, Option.map_eq_some_iff] at hv
  obtain ⟨w, hw, rfl⟩ := hv
  rw [hconsumer] at hc
  exact hstopped w hw (h.stopped w hw hc)

end Sound

end Station

namespace WorkerPool

variable {α : Type}

/-! ## Stations of a pool -/

/-- The jobs of one worker among jobs of all workers. -/
def jobsAt (jobs : List (WorkerId × Job α)) (id : WorkerId) : List (Job α) :=
  (jobs.filter (·.1 = id)).map (·.2)

def station (p : WorkerPool α) (id : WorkerId) : Station α :=
  ⟨p.worker? id, jobsAt p.handed id, jobsAt p.running id⟩

theorem mem_jobsAt {jobs : List (WorkerId × Job α)} {id : WorkerId} {job : Job α} :
    job ∈ jobsAt jobs id ↔ (id, job) ∈ jobs := by
  simp only [jobsAt, List.mem_map, List.mem_filter, decide_eq_true_eq]
  constructor
  · rintro ⟨⟨_, _⟩, ⟨hmem, rfl⟩, rfl⟩
    exact hmem
  · intro hmem
    exact ⟨(id, job), ⟨hmem, rfl⟩, rfl⟩

theorem jobsAt_append (jobs more : List (WorkerId × Job α)) (id : WorkerId) :
    jobsAt (jobs ++ more) id = jobsAt jobs id ++ jobsAt more id := by
  rw [jobsAt, List.filter_append, List.map_append, ← jobsAt, ← jobsAt]

theorem jobsAt_single (i id : WorkerId) (job : Job α) :
    jobsAt [(i, job)] id = if id = i then [job] else [] := by
  by_cases h : i = id
  · simp [jobsAt, h]
  · simp [jobsAt, h, Ne.symm h]

theorem jobsAt_filter_ne (jobs : List (WorkerId × Job α)) (i id : WorkerId) :
    jobsAt (jobs.filter (·.1 ≠ i)) id = if id = i then [] else jobsAt jobs id := by
  rw [jobsAt, List.filter_filter]
  split
  · next h =>
    subst h
    rw [List.map_eq_nil_iff, List.filter_eq_nil_iff]
    intro x _
    simp
  · next h =>
    rw [jobsAt]
    congr 1
    refine List.filter_congr fun x _ ↦ ?_
    by_cases hx : x.1 = id
    · simp [hx, h]
    · simp [hx]

theorem find?_handed (jobs : List (WorkerId × Job α)) (id : WorkerId) :
    (jobs.find? (·.1 = id)).map (·.2) = (jobsAt jobs id).head? := by
  rw [jobsAt, List.head?_map, List.head?_filter]

/-! ## What each step does to the stations

Each of these says what becomes of every station, so nothing else has to be said about the workers
that a step does not name. -/

theorem station_modify (p : WorkerPool α) (i id : WorkerId)
    (f : SerialWorker α → SerialWorker α) :
    (p.modify i f).station id = if id = i then (p.station id).mapWorker f else p.station id := by
  simp only [station, modify, worker?, Station.mapWorker, List.getElem?_modify]
  by_cases h : id = i
  · simp [h]
  · have hi : i.index ≠ id.index := fun e ↦ h (by cases id; cases i; simp_all)
    simp [h, hi]

@[simp] theorem modify_signals (p : WorkerPool α) (i : WorkerId)
    (f : SerialWorker α → SerialWorker α) : (p.modify i f).signals = p.signals := rfl

@[simp] theorem setSignal_station (p : WorkerPool α) (s : SignalId) (state : SignalState)
    (id : WorkerId) : (p.setSignal s state).station id = p.station id := rfl

theorem worker?_new (p : WorkerPool α) : p.worker? ⟨p.workers.length⟩ = none :=
  List.getElem?_eq_none (Nat.le_refl _)

theorem station_start (p : WorkerPool α) (name : String) (predecessor : Option SignalId)
    (id : WorkerId) :
    (p.start name predecessor).2.station id =
      if id = ⟨p.workers.length⟩ then
        { p.station id with worker := some (.start name predecessor) }
      else p.station id := by
  simp only [station, start, worker?]
  by_cases h : id = ⟨p.workers.length⟩
  · simp [h]
  · have hi : id.index ≠ p.workers.length := fun e ↦ h (by cases id; simp_all)
    rw [if_neg h]
    congr 1
    rcases Nat.lt_or_gt_of_ne hi with hlt | hgt
    · rw [List.getElem?_append_left hlt]
    · rw [List.getElem?_eq_none (by simp; omega), List.getElem?_eq_none (by omega)]

theorem eq_modify_of_submit {p p' : WorkerPool α} {i : WorkerId} {job : Job α}
    (h : p.submit i job = .ok p') :
    ∃ w, p.worker? i = some w ∧ w.isClosed = false ∧
      p' = p.modify i fun w ↦ { w with queue := w.queue ++ [job], backlog := w.backlog + 1 } := by
  unfold submit at h
  cases hw : p.worker? i with
  | none => simp [hw] at h
  | some w =>
    cases hclosed : w.isClosed with
    | true => simp [hw, SerialWorker.submit, hclosed] at h
    | false =>
      simp only [hw, SerialWorker.submit, hclosed, Bool.false_eq_true, if_false] at h
      obtain rfl := Except.ok.inj h
      refine ⟨w, rfl, hclosed, ?_⟩
      rw [modify, modify]
      congr 1
      refine List.ext_getElem? fun index ↦ ?_
      rw [List.getElem?_modify, List.getElem?_modify]
      split
      · next hindex =>
        have hw' : p.workers[index]? = some w := by rw [← hindex]; exact hw
        simp only [hw', Option.map_eq_map, Option.map_some, hclosed]
      · rfl

theorem modify_modify (p : WorkerPool α) (i : WorkerId) (f g : SerialWorker α → SerialWorker α) :
    (p.modify i f).modify i g = p.modify i (g ∘ f) := by
  simp only [modify, List.modify_modify_eq]

theorem release_retain (p : WorkerPool α) (i : WorkerId) : (p.retain i).release i = p := by
  have hid : SerialWorker.release ∘ SerialWorker.retain = (id : SerialWorker α → _) := by
    funext w
    simp [SerialWorker.release, SerialWorker.retain]
  rw [release, retain, modify_modify, hid, modify, List.modify_id]

theorem station_submit {p p' : WorkerPool α} {i : WorkerId} {job : Job α}
    (h : p.submit i job = .ok p') :
    ∃ w, p.worker? i = some w ∧ w.isClosed = false ∧ p'.signals = p.signals ∧
      ∀ id, p'.station id =
        if id = i then (p.station id).mapWorker fun w ↦
          { w with queue := w.queue ++ [job], backlog := w.backlog + 1 }
        else p.station id := by
  obtain ⟨w, hw, hopen, rfl⟩ := eq_modify_of_submit h
  exact ⟨w, hw, hopen, rfl, fun id ↦ station_modify p i id _⟩

theorem submit_of_open {p : WorkerPool α} {i : WorkerId} {w : SerialWorker α}
    (hw : p.worker? i = some w) (hopen : w.isClosed = false) (job : Job α) :
    ∃ p', p.submit i job = .ok p' := by
  simp [submit, hw, SerialWorker.submit, hopen]

/-- A refused job had no worker, or one that was shut down. -/
theorem submit_refused {p : WorkerPool α} {i : WorkerId} {job : Job α} {e : SubmitError}
    (h : p.submit i job = .error e) {w : SerialWorker α} (hw : p.worker? i = some w) :
    w.isClosed = true := by
  cases hclosed : w.isClosed with
  | true => rfl
  | false =>
    obtain ⟨p', hp'⟩ := submit_of_open hw hclosed job
    rw [h] at hp'
    cases hp'

theorem drained_of_open {p : WorkerPool α} {i : WorkerId} {w : SerialWorker α}
    (hw : p.worker? i = some w) (hopen : w.isClosed = false) :
    ∃ p', p.newSignal.2.submit i (.signal ⟨p.signals.length⟩) = .ok p' ∧
      p.drained i = (⟨p.signals.length⟩, p') := by
  obtain ⟨p', hsubmit⟩ := submit_of_open (p := p.newSignal.2) hw hopen (.signal ⟨p.signals.length⟩)
  refine ⟨p', hsubmit, ?_⟩
  rw [drained]
  simp only [newSignal] at hsubmit ⊢
  rw [hsubmit]

/-- A worker that was shut down does not take the new signal, which is lost at once. -/
theorem drained_of_closed {p : WorkerPool α} {i : WorkerId} {w : SerialWorker α}
    (hw : p.worker? i = some w) (hclosed : w.isClosed = true) : p.drained i =
      (⟨p.signals.length⟩, p.newSignal.2.setSignal ⟨p.signals.length⟩ .lost) := by
  have hrefused : p.newSignal.2.submit i (.signal ⟨p.signals.length⟩) = .error .closed := by
    have hw' : p.newSignal.2.worker? i = some w := hw
    simp [submit, hw', SerialWorker.submit, hclosed]
  rw [drained]
  simp only [newSignal] at hrefused ⊢
  rw [hrefused]

/-- Submit a job; if it is refused it is gone. -/
def offer (p : WorkerPool α) (i : WorkerId) (job : Job α) : WorkerPool α :=
  match p.submit i job with
  | .ok p' => p'
  | .error _ => p

theorem offer_of_ok {p p' : WorkerPool α} {i : WorkerId} {job : Job α}
    (h : p.submit i job = .ok p') : p.offer i job = p' := by simp only [offer, h]

theorem offer_of_error {p : WorkerPool α} {i : WorkerId} {job : Job α} {e : SubmitError}
    (h : p.submit i job = .error e) : p.offer i job = p := by simp only [offer, h]

/-- To hold a handle while a job is submitted makes no difference. -/
theorem offer_retained (p : WorkerPool α) (i : WorkerId) (job : Job α) :
    ((p.retain i).offer i job).release i = p.offer i job := by
  have hworker : (p.retain i).worker? i = (p.worker? i).map .retain :=
    (congrArg Station.worker (station_modify p i i _)).trans (by rw [if_pos rfl]; rfl)
  cases hsubmit : p.submit i job with
  | ok p' =>
    obtain ⟨w, hw, hopen, rfl⟩ := eq_modify_of_submit hsubmit
    obtain ⟨p', hp'⟩ := submit_of_open (p := p.retain i) (w := w.retain)
      (by rw [hworker, hw]; rfl) hopen job
    obtain ⟨-, -, -, rfl⟩ := eq_modify_of_submit hp'
    rw [offer_of_ok hp', offer_of_ok hsubmit, release, retain, modify_modify, modify_modify]
    congr 1
  | error e =>
    rw [offer_of_error hsubmit]
    cases hretained : (p.retain i).submit i job with
    | error e' => rw [offer_of_error hretained, release_retain]
    | ok p' =>
      obtain ⟨v, hv, hopen, -⟩ := eq_modify_of_submit hretained
      rw [hworker, Option.map_eq_some_iff] at hv
      obtain ⟨w, hw, rfl⟩ := hv
      have hclosed := submit_refused hsubmit hw
      rw [show w.isClosed = false from hopen] at hclosed
      cases hclosed

private theorem foldl_lost_station (signals : List SignalId) (p : WorkerPool α) (id : WorkerId) :
    (signals.foldl (fun p signal ↦ p.setSignal signal .lost) p).station id = p.station id := by
  induction signals generalizing p with
  | nil => rfl
  | cons s rest ih => rw [List.foldl_cons, ih, setSignal_station]

private theorem station_hand (p : WorkerPool α) (i id : WorkerId) (job : Job α) :
    { p with handed := p.handed ++ [(i, job)] }.station id =
      if id = i then { p.station id with handed := (p.station id).handed ++ [job] }
      else p.station id := by
  simp only [station, jobsAt_append, jobsAt_single]
  split
  · rfl
  · rw [List.append_nil]
    rfl

theorem station_poll (p : WorkerPool α) (i id : WorkerId) :
    (p.poll i).2.station id =
      if id = i then ((p.station id).polled p.isResolved).2 else p.station id := by
  unfold poll
  cases hw : p.worker? i with
  | none =>
    by_cases hid : id = i
    · subst hid
      simp [Station.polled, station, hw]
    · simp [hid]
  | some w =>
    have hmodify := station_modify p i id fun _ ↦ (w.turn p.isResolved).2
    cases hturn : w.turn p.isResolved with
    | mk turn w' =>
      rw [hturn] at hmodify
      cases turn <;> simp only [hturn, foldl_lost_station, station_hand, hmodify] <;>
        by_cases hid : id = i
      all_goals first
        | (simp only [hid, if_false]; done)
        | (subst hid
           simp [Station.polled, station, hw, hturn, Station.mapWorker])

theorem poll_dropped (p : WorkerPool α) (i : WorkerId) :
    (p.poll i).1 = ((p.station i).polled p.isResolved).1 := by
  unfold poll Station.polled station
  cases hw : p.worker? i with
  | none => rfl
  | some w =>
    cases hturn : w.turn p.isResolved with
    | mk turn w' => cases turn <;> simp only [hturn]

/-- Mark signals as lost. -/
def lose (states : List SignalState) (lost : List SignalId) : List SignalState :=
  lost.foldl (fun states signal ↦ states.set signal.index .lost) states

theorem length_lose (states : List SignalState) (lost : List SignalId) :
    (lose states lost).length = states.length := by
  induction lost generalizing states with
  | nil => rfl
  | cons signal rest ih => exact (ih _).trans List.length_set

private theorem foldl_lost_signals (lost : List SignalId) (p : WorkerPool α) :
    (lost.foldl (fun p signal ↦ p.setSignal signal .lost) p).signals = lose p.signals lost := by
  induction lost generalizing p with
  | nil => rfl
  | cons signal rest ih => exact ih _

theorem signals_poll (p : WorkerPool α) (i : WorkerId) :
    (p.poll i).2.signals = lose p.signals (signalsOf (p.poll i).1) := by
  unfold poll
  cases hw : p.worker? i with
  | none => rfl
  | some w =>
    cases hturn : w.turn p.isResolved with
    | mk turn w' =>
      cases turn with
      | rest => simp only [hturn, modify_signals]; rfl
      | take job => simp only [hturn, modify_signals]; rfl
      | stop dropped => simp only [hturn, foldl_lost_signals, modify_signals]

theorem poll_signals (p : WorkerPool α) (i : WorkerId) (h : signalsOf (p.poll i).1 = []) :
    (p.poll i).2.signals = p.signals := by
  rw [signals_poll, h]
  rfl

/-- A job that begins is the first one that its worker has handed over. -/
theorem begin?_spec {p p' : WorkerPool α} {i : WorkerId} {job : Job α}
    (h : p.begin? i = some (job, p')) :
    (p.station i).handed.head? = some job ∧
      (∀ id, p'.station id =
        if id = i then
          { p.station id with handed := [], running := (p.station id).running ++ [job] }
        else p.station id) ∧
      p'.signals = match job with
        | .signal s => p.signals.set s.index .fired
        | .task _ => p.signals := by
  have hhead := find?_handed p.handed i
  unfold begin? at h
  cases hf : p.handed.find? (·.1 = i) with
  | none => simp [hf] at h
  | some found =>
    obtain ⟨j, first⟩ := found
    rw [hf] at hhead
    have hstation (id : WorkerId) : { p with
          handed := p.handed.filter (·.1 ≠ i)
          running := p.running ++ [(i, first)] }.station id =
        if id = i then
          { p.station id with handed := [], running := (p.station id).running ++ [first] }
        else p.station id := by
      simp only [station, jobsAt_append, jobsAt_single, jobsAt_filter_ne]
      split
      · rfl
      · rw [List.append_nil]
        rfl
    rw [hf] at h
    cases first with
    | signal s =>
      simp only [Option.some.injEq, Prod.mk.injEq] at h
      obtain ⟨rfl, rfl⟩ := h
      exact ⟨hhead.symm, hstation, rfl⟩
    | task a =>
      simp only [Option.some.injEq, Prod.mk.injEq] at h
      obtain ⟨rfl, rfl⟩ := h
      exact ⟨hhead.symm, hstation, rfl⟩

theorem begin?_of_handed {p : WorkerPool α} {i : WorkerId} {job : Job α} {rest : List (Job α)}
    (h : (p.station i).handed = job :: rest) : ∃ p', p.begin? i = some (job, p') := by
  have hhead := find?_handed p.handed i
  change jobsAt p.handed i = job :: rest at h
  rw [h, List.head?_cons, Option.map_eq_some_iff] at hhead
  obtain ⟨⟨j, first⟩, hf, rfl⟩ := hhead
  rw [begin?, hf]
  cases first <;> exact ⟨_, rfl⟩

theorem station_finish (p : WorkerPool α) (i id : WorkerId) :
    (p.finish i).station id = if id = i then (p.station id).finished else p.station id := by
  have hany : p.running.any (·.1 = i) = true ↔ jobsAt p.running i ≠ [] := by
    rw [List.any_eq_true, jobsAt, ne_eq, List.map_eq_nil_iff, List.filter_eq_nil_iff]
    simp
  unfold finish
  split
  · next h =>
    rw [hany] at h
    rw [station_modify]
    have hstation : { p with running := p.running.filter (·.1 ≠ i) }.station id =
        if id = i then { p.station id with running := [] } else p.station id := by
      simp only [station, jobsAt_filter_ne]
      split <;> rfl
    rw [hstation]
    split
    · next hid =>
      subst hid
      rw [Station.finished, if_neg (by exact h)]
      rfl
    · rfl
  · next h =>
    rw [hany, ne_eq, Classical.not_not] at h
    split
    · next hid =>
      subst hid
      rw [Station.finished, if_pos (by exact h)]
    · rfl

@[simp] theorem finish_signals (p : WorkerPool α) (i : WorkerId) :
    (p.finish i).signals = p.signals := by
  unfold finish
  split <;> rfl

end WorkerPool

end CodeHints
