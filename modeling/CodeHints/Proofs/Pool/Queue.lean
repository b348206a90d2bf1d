import CodeHints.Proofs.Pool.Station

/-!
# The queue of a worker and the moves that are left

The line of a worker leaves out the queue of a worker that was shut down, since nothing of it will
be run. The queue is still there until the consumer has had its turn, and the signals in it are not
lost before that. Here it is followed through the turns of the consumer.

A consumer that is left to itself does not go on for ever. `Station.effort` bounds the number of
moves that are left: each job has to be taken, begun and ended, and apart from that the consumer can
only begin to wait for jobs, and stop.
-/

namespace CodeHints

/-- How many turns a consumer can have without a job. -/
def Consumer.turns : Consumer → Nat
  | .waiting _ => 2
  | .idle | .busy => 1
  | .stopped => 0

namespace Consumer

@[simp] theorem turns_waiting (signal : SignalId) : (waiting signal).turns = 2 := rfl

@[simp] theorem turns_idle : idle.turns = 1 := rfl

@[simp] theorem turns_busy : busy.turns = 1 := rfl

@[simp] theorem turns_stopped : stopped.turns = 0 := rfl

theorem turns_le (c : Consumer) : c.turns ≤ 2 := by cases c <;> simp

theorem turns_pos {c : Consumer} (h : c ≠ .stopped) : 0 < c.turns := by cases c <;> simp_all

end Consumer

namespace Station

variable {α : Type} {isResolved : SignalId → Bool} {st st' : Station α} {dropped : List (Job α)}
  {w : SerialWorker α}

/-! ## The queue -/

def queue (st : Station α) : List (Job α) := (st.worker.map SerialWorker.queue).getD []

theorem queue_eq {w : SerialWorker α} (hw : st.worker = some w) : st.queue = w.queue := by
  rw [queue, hw]
  rfl

theorem queue_mapWorker (st : Station α) {f : SerialWorker α → SerialWorker α}
    (h : ∀ w, (f w).queue = w.queue) : (st.mapWorker f).queue = st.queue := by
  cases hw : st.worker <;> simp [queue, mapWorker, hw, h]

theorem queue_finished (st : Station α) : st.finished.queue = st.queue := by
  unfold finished
  split
  · rfl
  · exact queue_mapWorker st fun _ ↦ rfl

theorem handed_finished (st : Station α) : st.finished.handed = st.handed := by
  unfold finished
  split <;> rfl

/-- A consumer drops nothing and keeps the order, or it drops the queue of a worker that was shut
down. -/
theorem Polled.account (h : Polled isResolved st dropped st') :
    (dropped = [] ∧ st'.handed ++ st'.queue = st.handed ++ st.queue) ∨
      (∃ w, st.worker = some w ∧ w.isClosed = true) ∧
        dropped = st.queue ∧ st'.queue = [] ∧ st'.handed = st.handed := by
  cases h with
  | rested _ => exact .inl ⟨rfl, rfl⟩
  | waited w hw _ _ _ => exact .inl ⟨rfl, by simp [queue, hw]⟩
  | took w hw _ job rest hq => exact .inl ⟨rfl, by simp [queue, hw, hq]⟩
  | left w hw _ _ _ => exact .inl ⟨rfl, by simp [queue, hw]⟩
  | stopped w hw closed _ => exact .inr ⟨⟨w, hw, closed⟩, by simp [queue, hw], rfl, rfl⟩

/-- A consumer that stops has left nothing in its queue. -/
theorem Polled.queue_of_stopped (h : Polled isResolved st dropped st')
    (hst : ∀ w, st.worker = some w → w.consumer = .stopped → w.queue = [])
    {v : SerialWorker α} (hv : st'.worker = some v) (hc : v.consumer = .stopped) :
    v.queue = [] := by
  cases h with
  | rested _ => exact hst v hv hc
  | waited _ _ _ _ _ | took _ _ _ _ _ _ => cases hv; cases hc
  | left w _ _ empty _ => cases hv; exact empty
  | stopped _ _ _ _ => cases hv; rfl

/-- The jobs that have not begun and were not dropped, the next one first. -/
def store (st : Station α) : List (Job α) := st.handed ++ st.queue

theorem mem_store_of_mem_line {job : Job α} (h : job ∈ st.line) : job ∈ st.store := by
  cases hw : st.worker with
  | none => simpa [line, store, queue, hw] using h
  | some w =>
    simp only [line, store, queue, hw, Option.map_some, Option.getD_some, SerialWorker.upcoming,
      List.mem_append] at h ⊢
    split at h
    · exact .inl (h.resolve_right List.not_mem_nil)
    · exact h

/-- In its turn a consumer takes a job or drops them all. -/
theorem Polled.store_eq (h : Polled isResolved st dropped st') (hst : st.Occupied) :
    st.store = dropped ++ st'.store := by
  cases h with
  | rested _ => rfl
  | waited w hw _ _ _ => simp [store, queue, hw]
  | took w hw _ job rest hq => simp [store, queue, hw, hq]
  | left w hw _ _ _ => simp [store, queue, hw]
  | stopped w hw _ unoccupied =>
    have hnil := (hst.eq_nil_of_not_busy (by simp [isBusy, hw, unoccupied])).1
    simp [store, queue, hw, hnil]

/-! ## The moves that are left -/

/-- A bound for the number of moves that a worker and its job can make by themselves. -/
def effort (st : Station α) : Nat :=
  3 * st.queue.length + (st.worker.map (·.consumer.turns)).getD 0 + 2 * st.handed.length +
    st.running.length

theorem effort_eq (hw : st.worker = some w) : st.effort =
    3 * w.queue.length + w.consumer.turns + 2 * st.handed.length + st.running.length := by
  rw [effort, queue_eq hw, hw]
  rfl

theorem Polled.effort_lt (h : Polled isResolved st dropped st') (hw : st.worker = some w)
    (hrunnable : w.isRunnable isResolved = true) : st'.effort < st.effort := by
  have hsame {v : SerialWorker α} (hv : st.worker = some v) : v = w :=
    Option.some.inj (hv.symm.trans hw)
  have hpos : 0 < w.consumer.turns := by
    refine Consumer.turns_pos fun hc ↦ ?_
    simp [SerialWorker.isRunnable, hc] at hrunnable
  cases h with
  | rested h =>
    rw [SerialWorker.isRunnable] at hrunnable
    obtain hc | hc | ⟨signal, hc, hopen, hpending⟩ := h w hw
    · simp [hc] at hrunnable
    · simp [hc] at hrunnable
    · simp [hc, hopen, hpending] at hrunnable
  | waited v hv ready empty held =>
    obtain rfl := hsame hv
    obtain hc | ⟨signal, hc, -⟩ := ready.2
    · simp [SerialWorker.isRunnable, hc, ready.1, empty, held] at hrunnable
    · rw [effort_eq hw, effort_eq rfl, hc]
      simp
  | took v hv ready job rest hq =>
    obtain rfl := hsame hv
    rw [effort_eq hw, effort_eq rfl, hq]
    simp only [List.length_append, List.length_cons, List.length_nil, Consumer.turns_busy]
    omega
  | left v hv ready empty unheld =>
    obtain rfl := hsame hv
    rw [effort_eq hw, effort_eq rfl]
    simp only [Consumer.turns_stopped]
    omega
  | stopped v hv closed unoccupied =>
    obtain rfl := hsame hv
    rw [effort_eq hw, effort_eq rfl]
    simp only [List.length_nil, Consumer.turns_stopped]
    omega

theorem effort_begun_lt (hhanded : st.handed ≠ []) (job : Job α) :
    { st with handed := [], running := st.running ++ [job] }.effort < st.effort := by
  have hpos := List.length_pos_iff.mpr hhanded
  simp only [effort, queue, List.length_append, List.length_cons, List.length_nil]
  omega

theorem effort_finished_lt (h : st.Occupied) (hrunning : st.running ≠ []) :
    st.finished.effort < st.effort := by
  have hpos := List.length_pos_iff.mpr hrunning
  obtain ⟨w, hw, hbusy⟩ := (Option.any_eq_true _ _).mp (h.isBusy_of_ne_nil (.inr hrunning))
  rw [finished, if_neg hrunning, effort_eq hw,
    effort_eq (w := w.finish) (by rw [mapWorker, hw]; rfl), of_decide_eq_true hbusy]
  simpa [SerialWorker.finish, mapWorker] using hpos

end Station

end CodeHints
