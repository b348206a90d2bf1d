import CodeHints.Pipeline.Registry
import CodeHints.Proofs.Pool.Station

/-!
# The tasks that have not begun

A task that was submitted to a worker stands in the queue of the worker, then among the jobs that
were handed over, and then it begins. Until then it is `pending`. Where exactly it stands does not
matter to those who ask what has become of it, so the tasks are collected from the whole pool, and
two pools are compared up to the order of their tasks.

Only four steps have an influence on what is pending: a submission, a turn in which a consumer drops
its queue, and the beginning of a task. All others are `Quiet`. In particular, whatever the registry
does with its workers is quiet, since the jobs that it submits by itself are signals.

A job can only be taken from those that were handed over if no other one is taken with it. That a
worker has handed over at most one job is `Orderly`.
-/

namespace CodeHints

private theorem flatMap_modify_of_eq {β γ : Type} (l : List β) (i : Nat) {f : β → β}
    {g : β → List γ} (h : ∀ x, g (f x) = g x) : (l.modify i f).flatMap g = l.flatMap g := by
  induction l generalizing i with
  | nil => cases i <;> rfl
  | cons first rest ih =>
    cases i with
    | zero => rw [List.modify_zero_cons, List.flatMap_cons, List.flatMap_cons, h]
    | succ i => rw [List.modify_succ_cons, List.flatMap_cons, List.flatMap_cons, ih]

/-- To change one element of a list changes what is collected from it by as much. -/
theorem flatMap_modify_perm {β γ : Type} {l : List β} {i : Nat} {x : β} (hx : l[i]? = some x)
    (f : β → β) (g : β → List γ) :
    List.Perm ((l.modify i f).flatMap g ++ g x) (l.flatMap g ++ g (f x)) := by
  classical
  obtain ⟨hi, rfl⟩ := List.getElem?_eq_some_iff.mp hx
  obtain ⟨before, y, after, hl, hlength, hmodify⟩ := List.exists_of_modify f hi
  have hy : l[i] = y := by simp [hl, ← hlength]
  have hbefore : l.flatMap g = before.flatMap g ++ (g y ++ after.flatMap g) := by
    rw [hl, List.flatMap_append, List.flatMap_cons]
  refine List.perm_iff_count.mpr fun c ↦ ?_
  simp only [hmodify, hy, hbefore, List.flatMap_append, List.flatMap_cons, List.count_append]
  omega

/-- What a turn takes out of the queue. -/
def Turn.jobs {α : Type} : Turn α → List (Job α)
  | .rest => []
  | .take job => [job]
  | .stop dropped => dropped

theorem SerialWorker.turn_queue {α : Type} (w : SerialWorker α) (isResolved : SignalId → Bool) :
    (w.turn isResolved).1.jobs ++ (w.turn isResolved).2.queue = w.queue := by
  have hstop : w.stop.1.jobs ++ w.stop.2.queue = w.queue := List.append_nil _
  have hnext : w.takeNext.1.jobs ++ w.takeNext.2.queue = w.queue := by
    unfold takeNext
    split
    · next job rest hq => exact hq.symm
    · split <;> rfl
  unfold turn
  split
  · split
    · exact hstop
    · split
      · exact hnext
      · rfl
  · split
    · exact hstop
    · exact hnext
  · rfl
  · rfl

namespace WorkerPool

variable {α : Type} {p p' : WorkerPool α}

theorem tasksOf_append (jobs more : List (Job α)) :
    tasksOf (jobs ++ more) = tasksOf jobs ++ tasksOf more := List.filterMap_append

/-- The tasks that have not begun: those that were handed over, and those in the queues. -/
def pending (p : WorkerPool α) : List α :=
  tasksOf (p.handed.map (·.2)) ++ p.workers.flatMap fun w ↦ tasksOf w.queue

theorem pending_modify (p : WorkerPool α) (i : WorkerId) {f : SerialWorker α → SerialWorker α}
    (hqueue : ∀ w, tasksOf (f w).queue = tasksOf w.queue) : (p.modify i f).pending = p.pending := by
  have hworkers : ((p.workers.modify i.index f).flatMap fun w ↦ tasksOf w.queue) =
      p.workers.flatMap fun w ↦ tasksOf w.queue := flatMap_modify_of_eq _ _ hqueue
  rw [pending, modify, hworkers]
  rfl

/-- At most one job of a worker is handed over or being run. -/
def Orderly (p : WorkerPool α) : Prop := ∀ id, (p.station id).Occupied

theorem orderly_empty : (empty : WorkerPool α).Orderly := fun _ ↦ ⟨rfl⟩

/-! ## Steps without an influence on tasks -/

/-- A step that has no influence on the tasks that have not begun. -/
structure Quiet (p p' : WorkerPool α) : Prop where
  pending : p'.pending = p.pending
  orderly : p.Orderly → p'.Orderly

namespace Quiet

theorem refl (p : WorkerPool α) : p.Quiet p := ⟨rfl, fun h ↦ h⟩

theorem trans {p'' : WorkerPool α} (h : p.Quiet p') (h' : p'.Quiet p'') : p.Quiet p'' :=
  ⟨h'.pending.trans h.pending, fun hp ↦ h'.orderly (h.orderly hp)⟩

theorem foldl {β : Type} {f : WorkerPool α → β → WorkerPool α} (h : ∀ p b, Quiet p (f p b))
    (bs : List β) (p : WorkerPool α) : p.Quiet (bs.foldl f p) := by
  induction bs generalizing p with
  | nil => exact refl p
  | cons b rest ih => exact (h p b).trans (ih _)

theorem modify (p : WorkerPool α) (i : WorkerId) {f : SerialWorker α → SerialWorker α}
    (hqueue : ∀ w, tasksOf (f w).queue = tasksOf w.queue)
    (hconsumer : ∀ w, (f w).consumer = w.consumer) : p.Quiet (p.modify i f) := by
  refine ⟨p.pending_modify i hqueue, fun h id ↦ ?_⟩
  rw [station_modify]
  split
  · exact (h id).mapWorker f hconsumer
  · exact h id

theorem setSignal (p : WorkerPool α) (s : SignalId) (state : SignalState) :
    p.Quiet (p.setSignal s state) := ⟨rfl, fun h ↦ h⟩

theorem start (p : WorkerPool α) (name : String) (predecessor : Option SignalId) :
    p.Quiet (p.start name predecessor).2 := by
  refine ⟨?_, fun h id ↦ ?_⟩
  · rw [WorkerPool.pending, WorkerPool.start, List.flatMap_append]
    simp [WorkerPool.pending, SerialWorker.start, tasksOf]
  · rw [station_start]
    split
    · next hid =>
      have hnew : (p.station id).isBusy = false := by
        rw [hid, Station.isBusy, station, worker?_new]
        rfl
      obtain ⟨hhanded, hrunning⟩ := (h id).eq_nil_of_not_busy hnew
      refine ⟨?_⟩
      cases predecessor <;>
        simp [hhanded, hrunning, Station.isBusy, SerialWorker.start]
    · exact h id

theorem submit_signal {i : WorkerId} {s : SignalId} (h : p.submit i (.signal s) = .ok p') :
    p.Quiet p' := by
  obtain ⟨w, -, -, rfl⟩ := eq_modify_of_submit h
  exact modify p i (fun w ↦ by simp [tasksOf]) fun _ ↦ rfl

theorem drained (p : WorkerPool α) (i : WorkerId) : p.Quiet (p.drained i).2 := by
  have hnew : p.Quiet p.newSignal.2 := ⟨rfl, fun h ↦ h⟩
  unfold WorkerPool.drained
  split
  next signal pool hsignal =>
  rw [hsignal] at hnew
  cases hsubmit : pool.submit i (.signal signal) with
  | ok pool' =>
    exact hnew.trans (submit_signal hsubmit)
  | error e =>
    exact hnew.trans (setSignal _ _ _)

theorem finish (p : WorkerPool α) (i : WorkerId) : p.Quiet (p.finish i) := by
  refine ⟨?_, fun h id ↦ ?_⟩
  · unfold WorkerPool.finish
    split
    · exact pending_modify _ i fun _ ↦ rfl
    · rfl
  · rw [station_finish]
    split
    · exact (h id).finished
    · exact h id

end Quiet

/-! ## Steps with an influence on tasks -/

theorem pending_submit {i : WorkerId} {a : α} (h : p.submit i (.task a) = .ok p') :
    List.Perm p'.pending (a :: p.pending) ∧ (p.Orderly → p'.Orderly) := by
  classical
  obtain ⟨w, hw, -, rfl⟩ := eq_modify_of_submit h
  refine ⟨?_, fun h id ↦ ?_⟩
  · refine List.perm_iff_count.mpr fun c ↦ ?_
    have hcount := (flatMap_modify_perm hw (fun w ↦ { w with
      queue := w.queue ++ [.task a], backlog := w.backlog + 1 })
      fun w ↦ tasksOf w.queue).count_eq c
    simp only [tasksOf_append, List.count_append] at hcount
    simp only [pending, modify, List.count_append, List.count_cons] at hcount ⊢
    have hsingle : (tasksOf [(.task a : Job α)]).count c = if a == c then 1 else 0 := by
      simp [tasksOf, List.count_cons]
    omega
  · rw [station_modify]
    split
    · exact (h id).mapWorker _ fun _ ↦ rfl
    · exact h id

private theorem pending_foldl_lost (signals : List SignalId) (p : WorkerPool α) :
    (signals.foldl (fun p signal ↦ p.setSignal signal .lost) p).pending = p.pending :=
  (Quiet.foldl (fun p s ↦ Quiet.setSignal p s .lost) signals p).pending

/-- What is lost in a turn is what the consumer drops. -/
theorem pending_poll (p : WorkerPool α) (i : WorkerId) :
    List.Perm p.pending (tasksOf (p.poll i).1 ++ (p.poll i).2.pending) := by
  classical
  unfold poll
  cases hw : p.worker? i with
  | none => exact .refl _
  | some w =>
    have hqueue := w.turn_queue p.isResolved
    cases hturn : w.turn p.isResolved with
    | mk turn w' =>
      rw [hturn] at hqueue
      have hturned : List.Perm p.pending
          (tasksOf turn.jobs ++ (p.modify i fun _ ↦ w').pending) := by
        refine List.perm_iff_count.mpr fun c ↦ ?_
        have hcount := (flatMap_modify_perm hw (fun _ ↦ w') fun w ↦ tasksOf w.queue).count_eq c
        rw [← hqueue, tasksOf_append] at hcount
        simp only [pending, modify, List.count_append] at hcount ⊢
        omega
      cases turn with
      | rest =>
        simp only [hturn]
        exact hturned
      | stop dropped =>
        simp only [hturn, pending_foldl_lost]
        exact hturned
      | take job =>
        simp only [hturn]
        refine hturned.trans (List.perm_iff_count.mpr fun c ↦ ?_)
        simp only [pending, modify, Turn.jobs, List.map_append, List.map_cons, List.map_nil,
          tasksOf_append, List.count_append]
        simp [tasksOf]
        omega

theorem Orderly.poll (h : p.Orderly) (i : WorkerId) : (p.poll i).2.Orderly := by
  intro id
  rw [station_poll]
  split
  · exact (h id).polled (Station.polled_spec _ _)
  · exact h id

theorem pending_begin? (hp : p.Orderly) {i : WorkerId} {job : Job α}
    (h : p.begin? i = some (job, p')) :
    List.Perm p.pending (tasksOf [job] ++ p'.pending) ∧ p'.Orderly := by
  obtain ⟨hhead, hstation, -⟩ := begin?_spec h
  refine ⟨?_, fun id ↦ ?_⟩
  · have hall : jobsAt p.handed i = [job] := ((hp i).handed_eq hhead).1
    have hhanded : p'.handed = p.handed.filter (·.1 ≠ i) ∧ p'.workers = p.workers := by
      unfold begin? at h
      split at h
      · next first _ =>
        cases first <;> cases h <;> exact ⟨rfl, rfl⟩
      · cases h
    have hsplit : List.Perm (jobsAt p.handed i ++ p'.handed.map (·.2)) (p.handed.map (·.2)) := by
      rw [hhanded.1, jobsAt, ← List.map_append]
      simpa using (List.filter_append_perm (fun x ↦ decide (x.1 = i)) p.handed).map (·.2)
    rw [hall] at hsplit
    have htasks : List.Perm (tasksOf [job] ++ tasksOf (p'.handed.map (·.2)))
        (tasksOf (p.handed.map (·.2))) := by
      rw [← tasksOf_append]
      exact hsplit.filterMap _
    rw [pending, pending, hhanded.2, ← List.append_assoc]
    exact htasks.symm.append_right _
  · rw [hstation]
    split
    · next hid =>
      subst hid
      exact (hp id).begun hhead
    · exact hp id

end WorkerPool

end CodeHints
