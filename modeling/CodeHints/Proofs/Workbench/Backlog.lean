import CodeHints.Proofs.Workbench.Sound

/-!
# The backlog of a worker

A worker counts its jobs apart from its queue. A submission raises the backlog, and the end of a job
lowers it, whether the job has broken down or not. These are the only two places where the backlog
is changed. So it counts the jobs that were accepted and have not ended, and as long as every job
ends some time this is the number of those that wait or are being run.

A consumer that stops after a shutdown drops its queue, and the jobs in it never end. Nobody takes
them off the backlog, which is too high by as many from then on. Nothing else makes it inexact.
-/

namespace CodeHints

namespace Station

variable {α : Type} {isResolved : SignalId → Bool} {st st' : Station α} {dropped : List (Job α)}

/-- The jobs that the worker has counted and not taken off again. -/
def backlog (st : Station α) : Nat := (st.worker.map SerialWorker.backlog).getD 0

theorem backlog_eq {w : SerialWorker α} (hw : st.worker = some w) : st.backlog = w.backlog := by
  rw [backlog, hw]
  rfl

theorem backlog_mapWorker (st : Station α) {f : SerialWorker α → SerialWorker α}
    (h : ∀ w, (f w).backlog = w.backlog) : (st.mapWorker f).backlog = st.backlog := by
  cases hw : st.worker <;> simp [backlog, mapWorker, hw, h]

theorem Polled.backlog_eq (h : Polled isResolved st dropped st') : st'.backlog = st.backlog := by
  cases h with
  | rested _ => rfl
  | waited w hw _ _ _ | took w hw _ _ _ _ | left w hw _ _ _ | stopped w hw _ _ =>
    rw [Station.backlog_eq hw]
    rfl

theorem backlog_finished (h : st.Occupied) (hrunning : st.running ≠ []) :
    st.finished.backlog = st.backlog - 1 := by
  obtain ⟨w, hw, -⟩ := (Option.any_eq_true _ _).mp (h.isBusy_of_ne_nil (.inr hrunning))
  rw [finished, if_neg hrunning, backlog_eq hw]
  simp [backlog, mapWorker, hw, SerialWorker.finish]

/-- A consumer drops the queue of a worker that was shut down, unless a job of it has not ended. -/
theorem Polled.dropped_eq (h : Polled isResolved st dropped st')
    (hst : ∀ w, st.worker = some w → w.consumer = .stopped → w.queue = []) :
    dropped = if st.worker.any SerialWorker.isClosed = true ∧ st.isBusy = false then st.queue
      else [] := by
  have hopen {w : SerialWorker α} (hw : st.worker = some w) (ready : IsReady isResolved w) :
      ¬(st.worker.any SerialWorker.isClosed = true ∧ st.isBusy = false) := by
    simp [hw, ready.1]
  cases h with
  | rested h =>
    split
    · next hcut =>
      obtain ⟨hclosed, hbusy⟩ := hcut
      obtain ⟨w, hw, hclosed⟩ := (Option.any_eq_true _ _).mp hclosed
      rw [queue_eq hw]
      obtain hc | hc | ⟨signal, -, hopen, -⟩ := h w hw
      · simp [isBusy, hw, hc] at hbusy
      · exact (hst w hw hc).symm
      · rw [hclosed] at hopen
        cases hopen
    · rfl
  | waited w hw ready _ _ => rw [if_neg (hopen hw ready)]
  | took w hw ready _ _ _ => rw [if_neg (hopen hw ready)]
  | left w hw ready _ _ => rw [if_neg (hopen hw ready)]
  | stopped w hw closed unoccupied =>
    rw [if_pos ⟨by simp [hw, closed], by simp [isBusy, hw, unoccupied]⟩, queue_eq hw]

end Station

namespace Workbench

variable {β : Type} {s s' : Workbench β}

/-- The backlog that the worker shows. -/
def backlog (s : Workbench β) : Nat := s.station.backlog

/-- The jobs that are being run or wait to be run. -/
def remaining (s : Workbench β) : List (Job Commission) :=
  s.station.running ++ (s.station.handed ++ s.station.queue)

/-- The consumer takes no more jobs. -/
def HasStopped (s : Workbench β) : Prop :=
  ∃ w, s.station.worker = some w ∧ w.consumer = .stopped

/-- The jobs that the consumer drops if it has its turn now. -/
def doomed (s : Workbench β) : List (Job Commission) :=
  if s.isClosed = true ∧ s.station.isBusy = false then s.station.queue else []

/-! ## What is counted -/

/-- The backlog counts the jobs that were accepted and have not ended. -/
def Counted (s : Workbench β) : Prop := s.backlog + s.ended.length = s.accepted.length

/-- A job that is being run has been accepted and has not ended. -/
theorem Sound.ended_lt (h : s.Sound) (hrunning : s.station.running ≠ []) :
    s.ended.length < s.accepted.length := by
  have hpos := List.length_pos_iff.mpr hrunning
  rw [h.whole, h.ledger]
  simp only [List.length_append, List.length_map]
  omega

private theorem Counted.of_eq (h : s.Counted) (hbacklog : s'.backlog = s.backlog)
    (hended : s'.ended = s.ended) (haccepted : s'.accepted = s.accepted) : s'.Counted := by
  rw [Counted, hbacklog, hended, haccepted]
  exact h

theorem Counted.change (h : s.Counted) (hsound : s.Sound) (hchange : s.Change s') :
    s'.Counted := by
  cases hchange with
  | handled pool f hstation _ _ _ _ _ hbacklog =>
    have hsame := congrArg Station.backlog hstation
    exact h.of_eq (hsame.trans (s.station.backlog_mapWorker hbacklog)) rfl rfl
  | accepted pool promises job w hw _ _ hstation =>
    have hraised : (pool.station worker).backlog = s.station.backlog + 1 := by
      rw [hstation, Station.backlog_eq hw]
      simp [Station.backlog, Station.mapWorker, hw, enqueued]
    have hlength : (s.accepted ++ [job]).length = s.accepted.length + 1 := List.length_append
    rw [Counted, backlog] at h ⊢
    change (pool.station worker).backlog + s.ended.length = (s.accepted ++ [job]).length
    omega
  | polled pool dropped hpolled _ => exact h.of_eq hpolled.backlog_eq rfl rfl
  | begun pool job _ hstation _ =>
    have hsame : (pool.station worker).backlog = s.station.backlog := by rw [hstation]; rfl
    exact h.of_eq hsame rfl rfl
  | finished job rest result hrunning =>
    have hne : s.station.running ≠ [] := hrunning ▸ List.cons_ne_nil job rest
    have hlowered : ((s.pool.finish worker).station worker).backlog = s.station.backlog - 1 := by
      rw [s.station_finish, Station.backlog_finished hsound.station.toOccupied hne]
    have hlength : (s.ended ++ [(job, result)]).length = s.ended.length + 1 := List.length_append
    have hlt := hsound.ended_lt hne
    rw [Counted, backlog] at h ⊢
    change ((s.pool.finish worker).station worker).backlog + (s.ended ++ [(job, result)]).length =
      s.accepted.length
    omega

theorem Counted.run (h : s.Counted) (hsound : s.Sound) (events : List (BenchEvent β)) :
    (s.run events).Counted := by
  induction events generalizing s with
  | nil => exact h
  | cons e events ih => exact ih (h.change hsound (s.change_step e)) (hsound.step e)

theorem counted_start (name : String) (waits : Bool) : (start name waits : Workbench β).Counted :=
  rfl

/-! ## What is dropped -/

theorem Sound.dropped_poll (h : s.Sound) : (s.step .poll).dropped = s.dropped ++ s.doomed := by
  refine congrArg (s.dropped ++ ·) ?_
  rw [WorkerPool.poll_dropped, doomed]
  exact (s.station.polled_spec s.pool.isResolved).dropped_eq h.emptied

/-- Only the consumer drops jobs. -/
theorem dropped_step {e : BenchEvent β} (he : e ≠ .poll) : (s.step e).dropped = s.dropped := by
  have hheld {t : Workbench β} (ht : t.dropped = s.dropped) :
      (s.withHandle t).dropped = s.dropped := by
    rw [withHandle]
    split
    · exact ht
    · rfl
  cases e with
  | submit =>
    refine hheld ?_
    rw [submit]
    cases s.pool.submit worker (.task (.plain s.accepted.length)) <;> rfl
  | call =>
    refine hheld ?_
    rw [call]
    cases s.pool.submit worker (.task (.call s.promises.next)) <;> rfl
  | drained =>
    refine hheld ?_
    rw [drained]
    split <;> rfl
  | shutdown => exact hheld rfl
  | retain => exact hheld rfl
  | release => exact hheld rfl
  | resolve state =>
    rw [step, resolve]
    split <;> rfl
  | poll => exact absurd rfl he
  | begin =>
    rw [step, begin]
    split <;> rfl
  | finish result =>
    rw [step, finish]
    split <;> rfl

/-! ## The account -/

/-- How the backlog is made up. -/
structure Accounts (s : Workbench β) : Prop where
  /-- Every accepted job has ended, or waits or is being run, or was dropped. -/
  places : s.accepted = s.ended.map (·.1) ++ (s.remaining ++ s.dropped)
  backlog : s.backlog = s.remaining.length + s.dropped.length
  /-- The backlog is exact as long as nothing was dropped. -/
  isExact_iff : s.backlog = s.remaining.length ↔ s.dropped = []
  /-- The end of a job finds it counted. -/
  lowers : s.station.running ≠ [] →
    ∀ result, (s.step (.finish result)).backlog + 1 = s.backlog
  /-- A turn drops the queue of a worker that was shut down, and nothing else drops anything. -/
  drops : (s.step .poll).dropped = s.dropped ++ s.doomed ∧
    ∀ e, e ≠ .poll → (s.step e).dropped = s.dropped
  kept : s.isClosed = false → s.dropped = []
  /-- No job is left when the consumer has stopped. -/
  stopped : s.HasStopped → s.remaining = [] ∧ s.backlog = s.dropped.length

theorem Sound.accounts (h : s.Sound) (hcounted : s.Counted) : s.Accounts := by
  have hplaces : s.accepted = s.ended.map (·.1) ++ (s.remaining ++ s.dropped) := by
    rw [h.whole, h.ledger, remaining]
    simp only [List.append_assoc]
  have hbacklog : s.backlog = s.remaining.length + s.dropped.length := by
    have hlength := congrArg List.length hplaces
    simp only [List.length_append, List.length_map] at hlength
    rw [Counted] at hcounted
    omega
  refine
    { places := hplaces, backlog := hbacklog, isExact_iff := ?isExact, lowers := ?lowers,
      drops := ⟨h.dropped_poll, fun _ ↦ dropped_step⟩, kept := ?kept, stopped := ?stopped }
  case isExact =>
    rw [hbacklog, ← List.length_eq_zero_iff]
    omega
  case lowers =>
    intro hrunning result
    obtain ⟨job, rest, hjobs⟩ := List.exists_cons_of_ne_nil hrunning
    have hstep : (s.step (.finish result)).pool = s.pool.finish worker := by
      rw [Workbench.step, Workbench.finish, hjobs]
    have hpos := List.length_pos_iff.mpr hrunning
    have hlowered : (s.step (.finish result)).backlog = s.backlog - 1 := by
      rw [Workbench.backlog, Workbench.station, hstep, s.station_finish,
        Station.backlog_finished h.station.toOccupied hrunning]
      rfl
    rw [hlowered, hbacklog, remaining, List.length_append]
    omega
  case kept =>
    intro hopen
    refine h.kept.resolve_right fun hcut ↦ ?_
    rw [hopen] at hcut
    cases hcut.1
  case stopped =>
    rintro ⟨w, hw, hc⟩
    obtain ⟨hhanded, hrunning⟩ :=
      h.station.eq_nil_of_not_busy (by simp [Station.isBusy, hw, hc])
    have hnone : s.remaining = [] := by
      rw [remaining, hrunning, hhanded, Station.queue_eq hw, h.emptied w hw hc]
      rfl
    exact ⟨hnone, by rw [hbacklog, hnone, List.length_nil, Nat.zero_add]⟩

/-- **What the backlog counts.** Whatever is done to a worker, and whenever, its backlog is the
number of accepted jobs that wait or are being run, and in addition of those that were dropped. It
is exact if and only if none was dropped, and jobs are dropped only in a turn of the consumer after
a shutdown, which drops all that is left in the queue. It never falls below zero. -/
theorem run_accounts (name : String) (waits : Bool) (events : List (BenchEvent β)) :
    ((start name waits).run events).Accounts :=
  have hstart := sound_start (β := β) name waits
  (hstart.run events).accounts ((counted_start name waits).run hstart events)

/-- A worker that was shut down with a job in its queue never gets its backlog down. -/
theorem backlog_of_dropped :
    let s : Workbench Unit := (start "worker" false).run [.submit, .shutdown, .poll]
    s.HasStopped ∧ s.remaining = [] ∧ s.backlog = 1 :=
  ⟨⟨_, rfl, rfl⟩, rfl, rfl⟩

end Workbench

end CodeHints
