import CodeHints.Proofs.Succession.Order
import Mathlib.Order.Nat

/-!
# Workers that run tasks at the same time

Careful moves keep two workers of a chain from running tasks at the same time. Here it is shown that
the care is needed: after any move that is not careful, the workers can go on in such a way that two
of them run tasks at once.

A worker that does not wait can empty its queue by itself, and then its successor does not wait
either. So a task of any worker can be brought to run while the workers before a given one make no
move, as long as that one does not wait.
-/

namespace CodeHints.Succession

variable {α : Type} {s s' : Succession α} {id : WorkerId}

open WorkerPool

/-! ## Moves of some workers only -/

/-- The moves are made by the workers from one index up to, but not including, another one. -/
def ActsIn (low high : Nat) (moves : List (Move α)) : Prop :=
  ∀ move ∈ moves, ∃ i, move.actor? = some i ∧ low ≤ i.index ∧ i.index < high

namespace ActsIn

variable {low low' high high' : Nat} {moves more : List (Move α)}

theorem nil : ActsIn low high ([] : List (Move α)) := nofun

theorem append (h : ActsIn low high moves) (hmore : ActsIn low high more) :
    ActsIn low high (moves ++ more) := by
  intro move hmove
  exact (List.mem_append.mp hmove).elim (h move) (hmore move)

theorem mono (h : ActsIn low high moves) (hlow : low' ≤ low) (hhigh : high ≤ high') :
    ActsIn low' high' moves := by
  intro move hmove
  obtain ⟨i, hi, hle, hlt⟩ := h move hmove
  exact ⟨i, hi, Nat.le_trans hlow hle, Nat.lt_of_lt_of_le hlt hhigh⟩

theorem carefulFrom (h : ActsIn low high moves) (s : Succession α) : s.CarefulFrom moves := by
  induction moves generalizing s with
  | nil => trivial
  | cons move moves ih =>
    refine ⟨?_, ih (fun other hother ↦ h other (List.mem_cons_of_mem _ hother)) _⟩
    obtain ⟨i, hi, -⟩ := h move List.mem_cons_self
    cases move <;> trivial

theorem station (h : ActsIn low high moves) (s : Succession α)
    (hid : id.index < low ∨ high ≤ id.index) : (s.run moves).station id = s.station id := by
  induction moves generalizing s with
  | nil => rfl
  | cons move moves ih =>
    obtain ⟨i, hi, hlow, hhigh⟩ := h move List.mem_cons_self
    refine (ih (fun other hother ↦ h other (List.mem_cons_of_mem _ hother)) _).trans ?_
    refine station_of_ne hi ?_
    rintro rfl
    omega

end ActsIn

/-! ## Workers that do not wait -/

/-- A worker that has jobs and does not wait can make a move. It loses no task by it, unless it runs
one. -/
theorem Sound.exists_move (h : s.Sound) (hwait : ¬s.HeldUp id)
    (hjobs : (s.station id).store ≠ [] ∨ (s.station id).running ≠ []) :
    ∃ move : Move α, move.actor? = some id ∧
      ((s.step move).station id).effort < (s.station id).effort ∧
      (¬s.IsRunning id → s.HasTask id → (s.step move).HasTask id) := by
  have hsound := h.stations id
  by_cases hrunning : (s.station id).running = []
  · cases hhanded : (s.station id).handed with
    | cons job rest =>
      obtain ⟨pool, hbegin⟩ := begin?_of_handed hhanded
      obtain ⟨hhead, hstation, -⟩ := begin?_spec hbegin
      have hstep : s.step (.begin id) = ⟨pool⟩ := by rw [Succession.step, hbegin]; rfl
      have hat : (s.step (.begin id)).station id =
          { s.station id with handed := [], running := (s.station id).running ++ [job] } := by
        rw [hstep]
        exact (hstation id).trans (if_pos rfl)
      refine ⟨.begin id, rfl, ?_, fun _ htask ↦ ?_⟩
      · rw [hat]
        exact Station.effort_begun_lt (List.ne_nil_of_mem (List.mem_of_mem_head? hhead)) job
      · rwa [HasTask, hat, hsound.unfinished_of_handed hhead]
    | nil =>
      have hqueue : (s.station id).queue ≠ [] := by
        simpa [Station.store, hhanded, hrunning] using hjobs
      cases hw : (s.station id).worker with
      | none => simp [Station.queue, hw] at hqueue
      | some w =>
        rw [Station.queue_eq hw] at hqueue
        have hrunnable : w.isRunnable s.pool.isResolved = true := by
          rw [SerialWorker.isRunnable]
          cases hc : w.consumer with
          | busy =>
            have hocc := hsound.occupied
            simp [hhanded, hrunning, Station.isBusy, hw, hc] at hocc
          | stopped => exact absurd (h.emptied id w hw hc) hqueue
          | idle => simp [hqueue]
          | waiting t =>
            rw [Bool.or_eq_true]
            refine .inr ?_
            rw [← Bool.not_eq_false]
            exact fun hpending ↦ hwait ⟨t, ⟨w, hw, hc⟩, hpending⟩
        have hspec := (s.station id).polled_spec s.pool.isResolved
        refine ⟨.poll id, rfl, ?_, fun _ htask ↦ ?_⟩
        · rw [Succession.station_poll]
          exact hspec.effort_lt hw hrunnable
        · rwa [HasTask, Succession.station_poll, Station.unfinished, hspec.running_eq,
            hspec.line_eq]
  · refine ⟨.finish id, rfl, ?_, fun hnot htask ↦ ?_⟩
    · rw [Succession.station_finish]
      exact Station.effort_finished_lt hsound.toOccupied hrunning
    · obtain ⟨a, ha⟩ := htask
      refine ⟨a, ?_⟩
      have hline := (List.mem_append.mp ha).resolve_left fun hmem ↦ hnot ⟨a, hmem⟩
      rw [Succession.station_finish, Station.unfinished, Station.finished_line]
      exact List.mem_append_right _ hline

/-- A worker that does not wait reaches a goal by itself if it has a move that brings it nearer
whenever the goal is not reached. -/
theorem Sound.exists_reach (h : s.Sound) (hwait : ¬s.HeldUp id) (goal kept : Succession α → Prop)
    (hkept : kept s)
    (hnext : ∀ s : Succession α, s.Sound → ¬s.HeldUp id → kept s → ¬goal s →
      ∃ move : Move α, move.actor? = some id ∧
        ((s.step move).station id).effort < (s.station id).effort ∧ kept (s.step move)) :
    ∃ moves, ActsIn id.index (id.index + 1) moves ∧ goal (s.run moves) := by
  generalize heffort : (s.station id).effort = effort
  induction effort using Nat.strongRecOn generalizing s with
  | ind effort ih =>
    by_cases hgoal : goal s
    · exact ⟨[], .nil, hgoal⟩
    · obtain ⟨move, hactor, hless, hkept'⟩ := hnext s h hwait hkept hgoal
      obtain ⟨moves, hacts, hdone⟩ := ih _ (heffort ▸ hless) (h.step move)
        (fun hheldUp ↦ hwait ((h.lessens_actor hactor).heldUp hheldUp)) hkept' rfl
      refine ⟨move :: moves, fun other hother ↦ ?_, hdone⟩
      obtain rfl | hother := List.mem_cons.mp hother
      · exact ⟨id, hactor, Nat.le_refl _, Nat.lt_succ_self _⟩
      · exact hacts other hother

/-- A worker that does not wait can bring one of its tasks to run. -/
theorem Sound.exists_isRunning (h : s.Sound) (hwait : ¬s.HeldUp id) (htask : s.HasTask id) :
    ∃ moves, ActsIn id.index (id.index + 1) moves ∧ (s.run moves).IsRunning id := by
  refine h.exists_reach hwait (·.IsRunning id) (·.HasTask id) htask
    fun s h hwait ⟨a, ha⟩ hnot ↦ ?_
  have hline := (List.mem_append.mp ha).resolve_left fun hmem ↦ hnot ⟨a, hmem⟩
  obtain ⟨move, hactor, hless, hkept⟩ :=
    h.exists_move hwait (.inl (List.ne_nil_of_mem (Station.mem_store_of_mem_line hline)))
  exact ⟨move, hactor, hless, hkept hnot ⟨a, ha⟩⟩

/-- A worker that does not wait can come to the end of its queue. -/
theorem Sound.exists_store_eq_nil (h : s.Sound) (hwait : ¬s.HeldUp id) :
    ∃ moves, ActsIn id.index (id.index + 1) moves ∧ ((s.run moves).station id).store = [] := by
  refine h.exists_reach hwait (fun s ↦ (s.station id).store = []) (fun _ ↦ True) trivial
    fun s h hwait _ hstore ↦ ?_
  obtain ⟨move, hactor, hless, -⟩ := h.exists_move hwait (.inl hstore)
  exact ⟨move, hactor, hless, trivial⟩

/-! ## Workers one after the other -/

/-- A worker does not wait for one that has come to the end of its queue. -/
theorem Sound.not_heldUp_of_store_eq_nil (h : s.Sound) {c : WorkerId}
    (hindex : id.index = c.index + 1) (hstore : (s.station c).store = []) : ¬s.HeldUp id := by
  rintro ⟨t, ht, hpending⟩
  obtain ⟨hzero, -⟩ | ⟨d, front, hindex', hfront⟩ := (h.awaited id t ht).2 hpending
  · omega
  · obtain rfl : c = d := WorkerId.eq_of_index_eq (by omega)
    rw [hstore] at hfront
    exact List.append_ne_nil_of_right_ne_nil _ (List.cons_ne_nil _ _) hfront.symm

/-- Behind a worker that does not wait every other one can be brought to wait no more. -/
theorem Sound.exists_not_heldUp (h : s.Sound) {low : Nat} (hwait : ¬s.HeldUp ⟨low⟩) {n : Nat}
    (hn : low ≤ n) : ∃ moves, ActsIn low n moves ∧ ¬(s.run moves).HeldUp ⟨n⟩ := by
  induction n, hn using Nat.le_induction with
  | base => exact ⟨[], .nil, hwait⟩
  | succ n hle ih =>
    obtain ⟨moves, hacts, hdone⟩ := ih
    obtain ⟨more, hmore, hstore⟩ := (h.run moves).exists_store_eq_nil hdone
    refine ⟨moves ++ more, (hacts.mono (Nat.le_refl _) (Nat.le_succ n)).append
      (hmore.mono hle (Nat.le_refl _)), ?_⟩
    rw [run_append]
    exact ((h.run moves).run more).not_heldUp_of_store_eq_nil (c := ⟨n⟩) rfl hstore

/-- Every task of these workers can be brought to run. -/
theorem Sound.exists_isRunning_of_le (h : s.Sound) {low : Nat} (hwait : ¬s.HeldUp ⟨low⟩)
    (hlow : low ≤ id.index) (htask : s.HasTask id) :
    ∃ moves, ActsIn low (id.index + 1) moves ∧ (s.run moves).IsRunning id := by
  obtain ⟨moves, hacts, hdone⟩ := h.exists_not_heldUp hwait hlow
  have htask : (s.run moves).HasTask id := by
    rwa [HasTask, hacts.station s (.inr (Nat.le_refl _))]
  obtain ⟨more, hmore, hrunning⟩ := (h.run moves).exists_isRunning hdone htask
  refine ⟨moves ++ more, (hacts.mono (Nat.le_refl _) (Nat.le_succ _)).append
    (hmore.mono hlow (Nat.le_refl _)), ?_⟩
  rwa [run_append]

/-! ## What comes of a careless move -/

/-- Two workers with tasks can run them at the same time if a worker between them does not wait. -/
theorem Sound.exists_overlap (h : s.Sound) {a b : WorkerId} {low : Nat} (hwait : ¬s.HeldUp ⟨low⟩)
    (ha : a.index < low) (hb : low ≤ b.index) (hatask : s.HasTask a) (hbtask : s.HasTask b) :
    ∃ moves, s.CarefulFrom moves ∧ ¬(s.run moves).Alone := by
  obtain ⟨moves, hacts, hbrunning⟩ := h.exists_isRunning_of_le hwait hb hbtask
  have hs := (h.run moves).step (.resolve true)
  have hatask' : ((s.run moves).step (.resolve true)).HasTask a := by
    change (s.run moves).HasTask a
    rwa [HasTask, hacts.station s (.inl ha)]
  -- the signal of the first worker is fired, so this one does not wait either
  have hfirst : ¬((s.run moves).step (.resolve true)).HeldUp ⟨0⟩ := by
    rintro ⟨t, ht, hpending⟩
    obtain ⟨-, hzero⟩ | ⟨c, front, hindex, -⟩ := (hs.awaited _ t ht).2 hpending
    · obtain ⟨hne, -⟩ := (pending_resolve true t).mp hpending
      cases t
      exact hne (congrArg _ hzero)
    · cases hindex
  obtain ⟨more, hmore, harunning⟩ := hs.exists_isRunning_of_le hfirst (Nat.zero_le _) hatask'
  refine ⟨moves ++ .resolve true :: more, ?_, fun halone ↦ ?_⟩
  · exact carefulFrom_append.mpr ⟨hacts.carefulFrom s, trivial, hmore.carefulFrom _⟩
  · rw [run_append, run_cons] at halone
    have hbrunning' : (((s.run moves).step (.resolve true)).run more).IsRunning b := by
      rw [IsRunning, hmore.station _ (.inr (by omega))]
      exact hbrunning
    have hab := halone a b harunning hbrunning'
    rw [hab] at ha
    omega

/-- It is enough that the later worker may be given a task. -/
theorem Sound.exists_overlap_of_mayRun (h : s.Sound) {a b : WorkerId} {low : Nat}
    (hwait : ¬s.HeldUp ⟨low⟩) (ha : a.index < low) (hb : low ≤ b.index) (hatask : s.HasTask a)
    (hbmay : s.MayRun b) : ∃ moves, s.CarefulFrom moves ∧ ¬(s.run moves).Alone := by
  obtain hbtask | haccepts := hbmay
  · exact h.exists_overlap hwait ha hb hatask hbtask
  · obtain ⟨task, htask⟩ := hatask
    obtain ⟨hindex, w, hw, hopen, hhandles⟩ := haccepts
    obtain rfl : b = s.last := WorkerId.eq_of_index_eq (by rw [last_index]; omega)
    have hheld := isHeld_of hw hhandles
    obtain ⟨added, he, hadded⟩ := exists_extends_offer hheld task
    obtain rfl := hadded ⟨w, hw, hopen⟩
    have hstep : s.step (.submit task) = ⟨s.pool.offer s.last (.task task)⟩ := if_pos hheld
    have hs := h.step (.submit task)
    rw [hstep] at hs
    have hwait' : ¬HeldUp ⟨s.pool.offer s.last (.task task)⟩ ⟨low⟩ := by
      rintro ⟨t, ht, hpending⟩
      have ht := (he.awaits t).mp ht
      exact hwait ⟨t, ht, (he.resolved t (h.awaited _ t ht).1).symm.trans hpending⟩
    have hatask' : HasTask ⟨s.pool.offer s.last (.task task)⟩ a := by
      refine ⟨task, ?_⟩
      rw [he.station_of_ne]
      · exact htask
      · rintro rfl
        omega
    have hbtask' : HasTask ⟨s.pool.offer s.last (.task task)⟩ s.last := by
      refine ⟨task, List.mem_append_right _ (List.mem_append_right _ ?_)⟩
      rw [he.station, if_pos rfl, Station.mapWorker, hw]
      simp [SerialWorker.upcoming, hopen]
    obtain ⟨moves, hcareful, hnot⟩ := hs.exists_overlap hwait' ha hb hatask' hbtask'
    refine ⟨.submit task :: moves, ⟨trivial, ?_⟩, ?_⟩
    · rwa [hstep]
    · rwa [run_cons, hstep]

/-- A successor of a worker that was shut down does not wait. -/
theorem Sound.exists_overlap_of_succeed (h : s.Sound) {name : String}
    (hcareless : ¬s.IsCareful (.succeed name)) :
    ∃ moves, (s.step (.succeed name)).CarefulFrom moves ∧
      ¬((s.step (.succeed name)).run moves).Alone := by
  simp only [IsCareful, not_forall, not_not] at hcareless
  obtain ⟨hheld, hclosed, a, htask⟩ := hcareless
  obtain ⟨hsignal, added, he, -, hadded⟩ := exists_extends_drained hheld
  obtain ⟨hopen, -⟩ | ⟨-, rfl, hresolved⟩ := hadded
  · exact absurd hopen hclosed
  have hs := h.extend he
  have hstation := hs.station_start name (some ⟨s.pool.signals.length⟩)
  have hstep : s.step (.succeed name) =
      ⟨((s.pool.drained s.last).2.start name (some ⟨s.pool.signals.length⟩)).2⟩ := by
    rw [← hsignal]
    exact if_pos hheld
  have hnext := h.step (.succeed name)
  rw [hstep] at hnext ⊢
  have htask' : HasTask ⟨(s.pool.drained s.last).2⟩ a := by
    rwa [HasTask, he.station_of_nil]
  have hlt := hs.lt_of_mayRun (.inl htask')
  refine hnext.exists_overlap_of_mayRun (a := a) (b := ⟨_⟩) ?_ hlt (Nat.le_refl _) ?_ (.inr ?_)
  · rintro ⟨t, ⟨w, hw, hc⟩, hpending⟩
    rw [hstation, if_pos rfl] at hw
    cases hw
    cases hc
    exact Bool.false_ne_true (hpending.symm.trans hresolved)
  · rw [HasTask, hstation, if_neg]
    · exact htask'
    · rintro rfl
      exact Nat.lt_irrefl _ hlt
  · refine ⟨by simp [WorkerPool.start], .start name (some ⟨s.pool.signals.length⟩), ?_, rfl,
      Nat.one_ne_zero⟩
    rw [hstation, if_pos rfl]

/-- A worker that was shut down while it waited drops its queue in its next turn. -/
theorem Sound.store_poll_of_closed (h : s.Sound) {w : SerialWorker α} {t : SignalId}
    (hw : (s.station id).worker = some w) (hc : w.consumer = .waiting t)
    (hclosed : w.isClosed = true) : ((s.step (.poll id)).station id).store = [] := by
  obtain ⟨hhanded, -⟩ := (h.stations id).eq_nil_of_awaits ⟨w, hw, hc⟩
  rw [Succession.station_poll]
  simp [Station.polled, hw, SerialWorker.turn, hc, hclosed, SerialWorker.stop, Station.store,
    Station.queue, hhanded]

/-- A worker that is shut down while it waits holds its successor up no more. -/
theorem Sound.exists_overlap_of_shutdown (h : s.Sound) {k : WorkerId}
    (hcareless : ¬s.IsCareful (.shutdown k)) :
    ∃ moves, (s.step (.shutdown k)).CarefulFrom moves ∧
      ¬((s.step (.shutdown k)).run moves).Alone := by
  simp only [IsCareful, not_forall, not_not] at hcareless
  obtain ⟨hheld, ⟨t, ⟨w, hw, hc⟩, -⟩, a, b, hak, hkb, htask, hmay⟩ := hcareless
  generalize hstep : s.step (.shutdown k) = shut
  have hs : shut.Sound := hstep ▸ h.step (.shutdown k)
  rw [show s.step (.shutdown k) = ⟨s.pool.shutdown k⟩ from if_pos hheld] at hstep
  have hshut (id : WorkerId) : shut.station id =
      if id = k then (s.station id).mapWorker .shutdown else s.station id :=
    hstep ▸ station_modify s.pool k id .shutdown
  -- in its next turn the worker stops
  have hstore : ((shut.step (.poll k)).station k).store = [] := by
    refine hs.store_poll_of_closed (w := w.shutdown) ?_ hc rfl
    rw [hshut, if_pos rfl, Station.mapWorker, hw]
    rfl
  have hfree : ¬(shut.step (.poll k)).HeldUp ⟨k.index + 1⟩ :=
    (hs.step (.poll k)).not_heldUp_of_store_eq_nil rfl hstore
  have hothers {id : WorkerId} (hid : id.index ≠ k.index) :
      (shut.step (.poll k)).station id = s.station id := by
    have hne : id ≠ k := fun e ↦ hid (congrArg _ e)
    rw [station_of_ne rfl hne, hshut, if_neg hne]
  have hworkers : (shut.step (.poll k)).pool.workers.length = s.pool.workers.length :=
    (hs.lessens_poll k).workers.trans (hstep ▸ (h.lessens_shutdown k).workers)
  obtain ⟨moves, hcareful, hnot⟩ := (hs.step (.poll k)).exists_overlap_of_mayRun (a := a) (b := b)
    hfree (Nat.lt_succ_of_lt hak) hkb (by rwa [HasTask, hothers (Nat.ne_of_lt hak)])
    (by rwa [MayRun, HasTask, Accepts, hworkers, hothers (Nat.ne_of_gt hkb)])
  exact ⟨.poll k :: moves, ⟨trivial, hcareful⟩, hnot⟩

/-- **Carelessness can be caught.** After a careless move the workers can go on carefully, and yet
two of them run tasks at the same time. -/
theorem Sound.exists_overlap_of_careless (h : s.Sound) {move : Move α}
    (hcareless : ¬s.IsCareful move) :
    ∃ moves, (s.step move).CarefulFrom moves ∧ ¬((s.step move).run moves).Alone := by
  cases move with
  | succeed name => exact h.exists_overlap_of_succeed hcareless
  | shutdown k => exact h.exists_overlap_of_shutdown hcareless
  | _ => exact absurd trivial hcareless

/-- What is not careful has a first careless move. -/
theorem exists_of_not_carefulFrom {moves : List (Move α)} (h : ¬s.CarefulFrom moves) :
    ∃ before move after, moves = before ++ move :: after ∧ ¬(s.run before).IsCareful move := by
  induction moves generalizing s with
  | nil => exact absurd trivial h
  | cons move moves ih =>
    by_cases hcareful : s.IsCareful move
    · obtain ⟨before, next, after, rfl, hnot⟩ := ih fun hmoves ↦ h ⟨hcareful, hmoves⟩
      exact ⟨move :: before, next, after, rfl, hnot⟩
    · exact ⟨[], move, moves, rfl, hcareful⟩

/-- **No two workers of a chain ever run tasks at the same time exactly if every move is careful.**
A chain is safe at some point if the workers never run tasks at the same time from there on, as long
as only careful moves follow. A run is safe at all its points exactly if it is careful. -/
theorem carefulFrom_iff_alone (name : String) (waits : Bool) (moves : List (Move α)) :
    (start name waits).CarefulFrom moves ↔ ∀ before, before <+: moves →
      ∀ more, ((start name waits).run before).CarefulFrom more →
        ((start name waits).run (before ++ more)).Alone := by
  have hsound : (start name waits : Succession α).Sound := sound_start name waits
  constructor
  · rintro hcareful before ⟨after, rfl⟩ more hmore
    have hbefore := (carefulFrom_append.mp hcareful).1
    have hall := carefulFrom_append.mpr ⟨hbefore, hmore⟩
    exact (hsound.run _).alone ((ordered_start name waits).run hsound hall)
  · intro halone
    by_cases hcareful : (start name waits).CarefulFrom moves
    · exact hcareful
    · obtain ⟨before, move, after, rfl, hnot⟩ := exists_of_not_carefulFrom hcareful
      obtain ⟨more, hmore, hoverlap⟩ := (hsound.run before).exists_overlap_of_careless hnot
      refine absurd (halone (before ++ [move]) ⟨after, by simp⟩ more ?_) ?_
      · rwa [run_append]
      · rwa [run_append, run_append]

/-- A job of the first worker goes on after the worker was shut down, and a successor that is
started then begins its own job next to it. And if the second of three workers is shut down while it
waits, the third one does not wait for the first. -/
theorem exists_not_alone :
    ¬((start "first" false).run [.submit (), .poll ⟨0⟩, .begin ⟨0⟩, .shutdown ⟨0⟩,
      .succeed "second", .submit (), .poll ⟨1⟩, .begin ⟨1⟩]).Alone ∧
    ¬((start "first" false).run [.submit (), .poll ⟨0⟩, .begin ⟨0⟩, .succeed "second",
      .succeed "third", .submit (), .shutdown ⟨1⟩, .poll ⟨1⟩, .poll ⟨2⟩, .begin ⟨2⟩]).Alone := by
  refine ⟨fun h ↦ ?_, fun h ↦ ?_⟩
  · exact absurd (h ⟨0⟩ ⟨1⟩ ⟨(), by decide⟩ ⟨(), by decide⟩) (by decide)
  · exact absurd (h ⟨0⟩ ⟨2⟩ ⟨(), by decide⟩ ⟨(), by decide⟩) (by decide)

end CodeHints.Succession
