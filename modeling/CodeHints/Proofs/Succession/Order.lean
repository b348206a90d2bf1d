import CodeHints.Proofs.Succession.Sound

/-!
# When a chain keeps its order

Two moves can let a worker begin too early. One is a shutdown of a worker that still waits: it stops
at once, and the signal behind which its successor waits is lost, while an earlier worker still has
tasks. The other is to start a successor of a worker that was shut down: its signal is lost from the
beginning, even if the worker is still at its last task. `IsCareful` excludes just these.

`Ordered` is what careful moves keep. Of two workers that have tasks, or may be given some, the
later one waits, and so does every worker between them.
-/

namespace CodeHints.Succession

variable {α : Type} {s s' : Succession α} {id : WorkerId}

open WorkerPool

/-! ## Careful moves -/

/-- A shutdown is careful unless the worker waits, and stands between one that has tasks and one
that may run some. A worker that was shut down has a successor only when all tasks have ended. -/
def IsCareful (s : Succession α) : Move α → Prop
  | .succeed _ => s.isHeld s.last = true → ¬s.IsOpen s.last → ∀ a, ¬s.HasTask a
  | .shutdown id => s.isHeld id = true → s.HeldUp id →
      ∀ a b, a.index < id.index → id.index < b.index → s.HasTask a → ¬s.MayRun b
  | _ => True

/-- Every move is careful in the state in which it is made. -/
def CarefulFrom : Succession α → List (Move α) → Prop
  | _, [] => True
  | s, move :: moves => s.IsCareful move ∧ (s.step move).CarefulFrom moves

theorem carefulFrom_append {moves more : List (Move α)} :
    s.CarefulFrom (moves ++ more) ↔ s.CarefulFrom moves ∧ (s.run moves).CarefulFrom more := by
  induction moves generalizing s with
  | nil => simp [CarefulFrom]
  | cons move moves ih => simp [CarefulFrom, ih, and_assoc]

/-! ## Workers that wait -/

/-- A worker that waits has neither handed over nor begun a job. -/
theorem Sound.idle_of_heldUp (h : s.Sound) (hid : s.HeldUp id) :
    (s.station id).handed = [] ∧ (s.station id).running = [] := by
  obtain ⟨t, ht, -⟩ := hid
  exact (h.stations id).eq_nil_of_awaits ht

/-- A worker that was shut down has no task but the one that it is at. -/
theorem Sound.not_hasTask_of_closed (h : s.Sound) {w : SerialWorker α}
    (hw : (s.station id).worker = some w) (hclosed : w.isClosed = true)
    (hidle : w.consumer ≠ .busy) : ¬s.HasTask id := by
  rintro ⟨a, ha⟩
  obtain ⟨hhanded, hrunning⟩ :=
    (h.stations id).eq_nil_of_not_busy (by simp [Station.isBusy, hw, hidle])
  rw [Station.unfinished, Station.line_closed hw hclosed, hhanded, hrunning] at ha
  cases ha

/-- A worker that was shut down while it waited will never run a task. -/
theorem Sound.isOpen_of_heldUp (h : s.Sound) (hid : s.HeldUp id) (hmay : s.MayRun id) :
    s.IsOpen id := by
  obtain htask | ⟨-, w, hw, hopen, -⟩ := hmay
  · obtain ⟨t, ⟨w, hw, hc⟩, -⟩ := hid
    refine ⟨w, hw, ?_⟩
    rw [← Bool.not_eq_true]
    exact fun hclosed ↦ h.not_hasTask_of_closed hw hclosed (by simp [hc]) htask
  · exact ⟨w, hw, hopen⟩

/-- Only a worker of the chain has tasks, or may be given some. -/
theorem Sound.lt_of_mayRun (h : s.Sound) (hid : s.MayRun id) :
    id.index < s.pool.workers.length := by
  obtain ⟨a, ha⟩ | ⟨hlast, -⟩ := hid
  · cases hw : (s.station id).worker with
    | some w => exact index_lt hw
    | none =>
      obtain ⟨hhanded, hrunning⟩ := (h.stations id).eq_nil_of_not_busy (by
        rw [Station.isBusy, hw]
        rfl)
      rw [Station.unfinished, Station.line, hhanded, hrunning, hw] at ha
      cases ha
  · omega

/-- The signal that a worker waits for stands nowhere but with its predecessor. -/
theorem Sound.eq_of_awaited (h : s.Sound) {k i : WorkerId} {t : SignalId}
    (ht : (s.station k).Awaits t) (hpending : s.pool.isResolved t = false)
    (hi : .signal t ∈ (s.station i).store) :
    k.index = i.index + 1 ∧ ∃ front, (s.station i).store = front ++ [.signal t] := by
  obtain ⟨-, hzero⟩ | ⟨c, front, hindex, hfront⟩ := (h.awaited k t ht).2 hpending
  · exact absurd hzero (Nat.ne_of_gt (h.known i t hi).1)
  · have hc : .signal t ∈ (s.station c).store := by
      rw [hfront]
      exact List.mem_append_right _ List.mem_cons_self
    obtain rfl := h.apart c i t hc hi
    exact ⟨hindex, front, hfront⟩

/-- When the signal at the end of a worker's queue is handed over, the queue is empty. -/
theorem Sound.queue_of_handed_signal (h : s.Sound) {t : SignalId} {front : List (Job α)}
    (hhanded : (s.station id).handed = [.signal t])
    (hfront : (s.station id).store = front ++ [.signal t]) : (s.station id).queue = [] := by
  have hstore : (s.station id).store = .signal t :: (s.station id).queue := by
    rw [Station.store, hhanded]
    rfl
  cases front with
  | nil => exact (List.cons.inj (hstore.symm.trans hfront)).2
  | cons first rest =>
    -- the signal would stand there twice
    have hrest : (s.station id).queue = rest ++ [.signal t] :=
      (List.cons.inj (hstore.symm.trans hfront)).2
    have honce := h.once id
    rw [hstore, hrest, ← List.singleton_append, signalsOf_append, signalsOf_append,
      signalsOf_signal] at honce
    exact absurd honce (by simp)

/-- Why a worker waits no more: it was shut down itself, or its predecessor has no task left, and
was shut down or has come to its last job. -/
def LetGo (s : Succession α) (k i : WorkerId) : Prop :=
  i = k ∧ ¬s.IsOpen k ∨
    k.index = i.index + 1 ∧ ¬s.HasTask i ∧ (s.HeldUp i → ¬s.IsOpen i)

theorem Sound.heldUp_poll (h : s.Sound) (i : WorkerId) {k : WorkerId} (hk : s.HeldUp k) :
    (s.step (.poll i)).HeldUp k ∨ s.LetGo k i := by
  have hspec := (s.station i).polled_spec s.pool.isResolved
  have hdropped := poll_dropped s.pool i
  obtain ⟨t, ht, hpending⟩ := hk
  by_cases hlost : .signal t ∈ (s.pool.poll i).1
  · -- the signal was dropped, so its worker was shut down
    refine .inr (.inr ?_)
    rw [hdropped] at hlost
    have hstore : .signal t ∈ (s.station i).store := by
      rw [hspec.store_eq (h.stations i).toOccupied]
      exact List.mem_append_left _ hlost
    refine ⟨(h.eq_of_awaited ht hpending hstore).1, ?_⟩
    generalize ((s.station i).polled s.pool.isResolved).1 = dropped at *
    generalize ((s.station i).polled s.pool.isResolved).2 = st at *
    cases hspec with
    | stopped w hw closed unoccupied =>
      exact ⟨h.not_hasTask_of_closed hw closed unoccupied, fun _ ↦ not_isOpen hw closed⟩
    | _ => cases hlost
  · have hpending' := (pending_polled s.pool i t).mpr ⟨hlost, hpending⟩
    by_cases hik : i = k
    · subst hik
      obtain hsame | ⟨w, hw, hclosed⟩ := hspec.of_awaits ht hpending
      · refine .inl ⟨t, ?_, hpending'⟩
        rwa [Succession.station_poll, hsame]
      · exact .inr (.inl ⟨rfl, not_isOpen hw hclosed⟩)
    · refine .inl ⟨t, ?_, hpending'⟩
      rwa [station_of_ne rfl (Ne.symm hik)]

theorem Sound.heldUp_begin (h : s.Sound) (i : WorkerId) {k : WorkerId} (hk : s.HeldUp k) :
    (s.step (.begin i)).HeldUp k ∨ s.LetGo k i := by
  obtain hsame | ⟨job, hbegin⟩ := s.step_begin i
  · rw [hsame]
    exact .inl hk
  · obtain ⟨hhead, -, -⟩ := begin?_spec hbegin
    obtain ⟨hhanded, hrunning⟩ := (h.stations i).handed_eq hhead
    have hnot : ¬s.HeldUp i := fun hi ↦ by
      rw [(h.idle_of_heldUp hi).1] at hhanded
      cases hhanded
    have hik : k ≠ i := by
      rintro rfl
      exact hnot hk
    obtain ⟨t, ht, hpending⟩ := hk
    by_cases hjob : job = .signal t
    · -- the signal is fired, and was the last job
      subst hjob
      have hmem : .signal t ∈ (s.station i).store :=
        List.mem_append_left _ (List.mem_of_mem_head? hhead)
      obtain ⟨hindex, front, hfront⟩ := h.eq_of_awaited ht hpending hmem
      refine .inr (.inr ⟨hindex, ?_, fun hi ↦ absurd hi hnot⟩)
      rintro ⟨a, ha⟩
      rw [Station.unfinished, hrunning, List.nil_append] at ha
      have htask := Station.mem_store_of_mem_line ha
      rw [Station.store, hhanded, h.queue_of_handed_signal hhanded hfront] at htask
      cases List.mem_singleton.mp htask
    · refine .inl ⟨t, ?_, (pending_begun hbegin t).mpr ⟨hjob, hpending⟩⟩
      rwa [station_of_ne rfl hik]

theorem Sound.heldUp_finish (h : s.Sound) (i : WorkerId) {k : WorkerId} (hk : s.HeldUp k) :
    (s.step (.finish i)).HeldUp k := by
  obtain ⟨t, ht, hpending⟩ := hk
  refine ⟨t, ?_, (isResolved_congr (finish_signals s.pool i) t).trans hpending⟩
  by_cases hik : k = i
  · subst hik
    rwa [Succession.station_finish, Station.finished,
      if_pos (h.idle_of_heldUp ⟨t, ht, hpending⟩).2]
  · rwa [station_of_ne rfl hik]

/-! ## The order of the workers -/

/-- As long as a worker has a task, each later worker waits if it may run one, and so do those
before it, which were not shut down. -/
def Ordered (s : Succession α) : Prop :=
  ∀ a b, a.index < b.index → s.HasTask a → s.MayRun b →
    ∀ k, a.index < k.index → k.index ≤ b.index → s.HeldUp k ∧ (k.index < b.index → s.IsOpen k)

/-- **The order excludes overlaps.** Of two workers that run tasks the later one would wait. -/
theorem Sound.alone (h : s.Sound) (hordered : s.Ordered) : s.Alone := by
  have hnot (a b : WorkerId) (ha : s.IsRunning a) (hb : s.IsRunning b) : ¬a.index < b.index := by
    intro hlt
    obtain ⟨hwaits, -⟩ :=
      hordered a b hlt ha.hasTask (.inl hb.hasTask) b hlt (Nat.le_refl _)
    obtain ⟨task, htask⟩ := hb
    rw [(h.idle_of_heldUp hwaits).2] at htask
    cases htask
  exact fun a b ha hb ↦ WorkerId.eq_of_index_eq (Nat.le_antisymm
    (Nat.le_of_not_lt (hnot b a hb ha)) (Nat.le_of_not_lt (hnot a b ha hb)))

namespace Ordered

/-- A move that adds nothing keeps the order if those that wait go on to wait. -/
theorem lessen (h : s.Ordered) (hl : s.Lessens s')
    (hkept : ∀ a b k, a.index < k.index → k.index ≤ b.index → s.HasTask a → s.MayRun b →
      s.HeldUp k → (k.index < b.index → s.IsOpen k) →
      s'.HeldUp k ∧ (k.index < b.index → s'.IsOpen k)) : s'.Ordered := by
  intro a b hab ha hb k hak hkb
  obtain ⟨hwaits, hopen⟩ := h a b hab (hl.hasTask ha) (hl.mayRun hb) k hak hkb
  exact hkept a b k hak hkb (hl.hasTask ha) (hl.mayRun hb) hwaits hopen

/-- What a worker does by itself keeps the order. -/
theorem actor (h : s.Ordered) (hsound : s.Sound) {move : Move α} {i : WorkerId}
    (hactor : move.actor? = some i)
    (hheldUp : ∀ k, s.HeldUp k → (s.step move).HeldUp k ∨ s.LetGo k i) :
    (s.step move).Ordered := by
  refine h.lessen (hsound.lessens_actor hactor) fun a b k hak hkb ha hb hk hopen ↦
    ⟨(hheldUp k hk).resolve_right ?_, ?_⟩
  · rintro (⟨-, hclosed⟩ | ⟨hindex, htask, hclosed⟩)
    · obtain hlt | heq := Nat.lt_or_eq_of_le hkb
      · exact hclosed (hopen hlt)
      · obtain rfl := WorkerId.eq_of_index_eq heq
        exact hclosed (hsound.isOpen_of_heldUp hk hb)
    · -- the predecessor is the worker with the task, or waits itself and is open
      obtain hlt | heq := Nat.lt_or_eq_of_le (Nat.le_of_lt_succ (hindex ▸ hak))
      · obtain ⟨hwaits, hopen'⟩ := h a b (Nat.lt_of_lt_of_le hak hkb) ha hb i hlt (by omega)
        exact hclosed hwaits (hopen' (by omega))
      · exact htask (WorkerId.eq_of_index_eq heq ▸ ha)
  · exact fun hlt ↦ (isOpen_congr (face_step hactor k)).mpr (hopen hlt)

/-- Handles to a worker are taken or released, or it is shut down carefully. -/
theorem modify (h : s.Ordered) (i : WorkerId) (f : SerialWorker α → SerialWorker α)
    (hconsumer : ∀ w, (f w).consumer = w.consumer) (hl : s.Lessens ⟨s.pool.modify i f⟩)
    (hcareful : (∀ w, (f w).isClosed = w.isClosed) ∨ (s.HeldUp i →
      ∀ a b, a.index < i.index → i.index < b.index → s.HasTask a → ¬s.MayRun b)) :
    Ordered ⟨s.pool.modify i f⟩ := by
  have hstation (id : WorkerId) : (⟨s.pool.modify i f⟩ : Succession α).station id =
      if id = i then (s.station id).mapWorker f else s.station id := station_modify s.pool i id f
  refine h.lessen hl fun a b k hak hkb ha hb hk hopen ↦ ⟨?_, fun hlt ↦ ?_⟩
  · obtain ⟨t, ht, hpending⟩ := hk
    refine ⟨t, ?_, hpending⟩
    rw [hstation]
    split
    · exact (Station.awaits_mapWorker _ f hconsumer t).mpr ht
    · exact ht
  · obtain ⟨w, hw, hopen⟩ := hopen hlt
    rw [IsOpen, hstation]
    split
    · next hki =>
      subst hki
      obtain hclosed | hcareful := hcareful
      · exact ⟨f w, by rw [Station.mapWorker, hw]; rfl, (hclosed w).trans hopen⟩
      · exact absurd hb (hcareful hk a b hak hlt ha)
    · exact ⟨w, hw, hopen⟩

theorem resolve (h : s.Ordered) (hsound : s.Sound) (fired : Bool) :
    (s.step (.resolve fired)).Ordered := by
  refine h.lessen (hsound.lessens_resolve fired) fun a b k hak _ _ _ hk hopen ↦ ⟨?_, hopen⟩
  obtain ⟨t, ht, hpending⟩ := hk
  refine ⟨t, ht, (pending_resolve fired t).mpr ⟨?_, hpending⟩⟩
  -- only the first worker waits for the signal that is resolved
  rintro rfl
  obtain ⟨hzero, -⟩ | ⟨c, front, -, hfront⟩ := (hsound.awaited k _ ht).2 hpending
  · omega
  · have hmem : .signal ⟨0⟩ ∈ (s.station c).store := by
      rw [hfront]
      exact List.mem_append_right _ List.mem_cons_self
    exact Nat.lt_irrefl _ (hsound.known c _ hmem).1

/-- A job may be added to the last worker. -/
theorem extend (h : s.Ordered) (hsound : s.Sound) {added : List (Job α)}
    (he : s.Extends s' added) : s'.Ordered := by
  intro a b hab ha hb k hak hkb
  have hlt := (hsound.extend he).lt_of_mayRun hb
  rw [he.workers] at hlt
  have hbefore {c : WorkerId} (hc : c.index < b.index) : s'.station c = s.station c := by
    refine he.station_of_ne ?_
    rintro rfl
    rw [last_index] at hc
    omega
  have hmay : s.MayRun b := by
    by_cases hlast : b = s.last
    · subst hlast
      obtain rfl | haccepts := he.accepts
      · rwa [MayRun, HasTask, Accepts, he.station_of_nil, he.workers] at hb
      · exact .inr haccepts
    · rwa [MayRun, HasTask, Accepts, he.station_of_ne hlast, he.workers] at hb
  rw [HasTask, hbefore hab] at ha
  obtain ⟨⟨t, ht, hpending⟩, hopen⟩ := h a b hab ha hmay k hak hkb
  refine ⟨⟨t, (he.awaits t).mpr ht, ?_⟩, fun hkb' ↦ ?_⟩
  · rw [he.resolved t (hsound.awaited k t ht).1, hpending]
  · rw [IsOpen, hbefore hkb']
    exact hopen hkb'

/-- A worker is started that waits, unless all tasks have ended. -/
theorem started (h : s.Ordered) (hsound : s.Sound) (name : String) {t : SignalId}
    (hwaits : ∀ a, s.HasTask a → s.pool.isResolved t = false ∧ s.Accepts s.last) :
    Ordered ⟨(s.pool.start name (some t)).2⟩ := by
  have hstation := hsound.station_start name (some t)
  have hnew : ¬HasTask ⟨(s.pool.start name (some t)).2⟩ ⟨s.pool.workers.length⟩ := by
    rintro ⟨a, ha⟩
    rw [hstation, if_pos rfl] at ha
    cases ha
  have hold {id : WorkerId} (hid : HasTask ⟨(s.pool.start name (some t)).2⟩ id) :
      s.HasTask id := by
    have hne : id ≠ ⟨s.pool.workers.length⟩ := by
      rintro rfl
      exact hnew hid
    rwa [HasTask, hstation, if_neg hne] at hid
  have hkept {k : WorkerId} (hk : k.index < s.pool.workers.length) :
      (⟨(s.pool.start name (some t)).2⟩ : Succession α).station k = s.station k := by
    rw [hstation, if_neg]
    rintro rfl
    exact Nat.lt_irrefl _ hk
  intro a b hab ha hb k hak hkb
  obtain ⟨hpending, haccepts⟩ := hwaits a (hold ha)
  have hlast := haccepts.1
  -- the last worker before the new one may run a task as well
  have hbefore (c : WorkerId) (hc : s.MayRun c) (hkc : k.index ≤ c.index) :
      HeldUp ⟨(s.pool.start name (some t)).2⟩ k ∧
        (k.index < c.index → IsOpen ⟨(s.pool.start name (some t)).2⟩ k) := by
    rw [HeldUp, IsOpen, hkept (Nat.lt_of_le_of_lt hkc (hsound.lt_of_mayRun hc))]
    exact h a c (Nat.lt_of_lt_of_le hak hkc) (hold ha) hc k hak hkc
  have hb : s.HasTask b ∨ b = ⟨s.pool.workers.length⟩ := by
    refine hb.imp hold fun ⟨hindex, _⟩ ↦ WorkerId.eq_of_index_eq ?_
    simpa [WorkerPool.start] using hindex
  obtain htask | rfl := hb
  · exact hbefore b (.inl htask) hkb
  · obtain hlt | heq := Nat.lt_or_eq_of_le hkb
    · change k.index < s.pool.workers.length at hlt
      obtain ⟨hwait, hopen⟩ := hbefore s.last (.inr haccepts) (by omega)
      refine ⟨hwait, fun _ ↦ ?_⟩
      obtain hbelow | hat : k.index < s.last.index ∨ k.index = s.last.index := by omega
      · exact hopen hbelow
      · obtain rfl := WorkerId.eq_of_index_eq hat
        obtain ⟨w, hw, hopen, -⟩ := haccepts.2
        rw [IsOpen, hkept hlt]
        exact ⟨w, hw, hopen⟩
    · obtain rfl := WorkerId.eq_of_index_eq heq
      refine ⟨⟨t, ?_, hpending⟩, fun hlt ↦ absurd hlt (Nat.lt_irrefl _)⟩
      rw [hstation, if_pos rfl]
      exact ⟨_, rfl, rfl⟩

theorem succeed (h : s.Ordered) (hsound : s.Sound) (hheld : s.isHeld s.last = true)
    (hcareful : ¬s.IsOpen s.last → ∀ a, ¬s.HasTask a) (name : String) :
    Ordered ⟨s.succeed name⟩ := by
  obtain ⟨hsignal, added, he, -, hadded⟩ := exists_extends_drained hheld
  rw [Succession.succeed, hsignal]
  refine (h.extend hsound he).started (hsound.extend he) name fun a ha ↦ ?_
  obtain ⟨hopen, -, hpending⟩ | ⟨hclosed, rfl, -⟩ := hadded
  · exact ⟨hpending, he.accepts_last (accepts_of_isHeld hheld hopen)⟩
  · rw [HasTask, he.station_of_nil] at ha
    exact absurd ha (hcareful hclosed a)

/-- **Careful moves keep the order.** -/
theorem step (h : s.Ordered) (hsound : s.Sound) {move : Move α} (hcareful : s.IsCareful move) :
    (s.step move).Ordered := by
  cases move with
  | submit a =>
    refine withHandle_of Ordered h fun hheld ↦ ?_
    obtain ⟨added, he, -⟩ := exists_extends_offer hheld a
    exact h.extend hsound he
  | mark =>
    refine withHandle_of Ordered h fun hheld ↦ ?_
    obtain ⟨-, added, he, -⟩ := exists_extends_drained hheld
    exact h.extend hsound he
  | succeed name =>
    exact withHandle_of Ordered h fun hheld ↦ h.succeed hsound hheld (hcareful hheld) name
  | shutdown id =>
    exact withHandle_of Ordered h fun hheld ↦ h.modify id _ (fun _ ↦ rfl)
      (hsound.lessens_shutdown id) (.inr (hcareful hheld))
  | retain id =>
    exact withHandle_of Ordered h fun hheld ↦ h.modify id _ (fun _ ↦ rfl)
      (hsound.lessens_retain hheld) (.inl fun _ ↦ rfl)
  | release id =>
    exact withHandle_of Ordered h fun _ ↦ h.modify id _ (fun _ ↦ rfl)
      (hsound.lessens_release id) (.inl fun _ ↦ rfl)
  | resolve fired => exact h.resolve hsound fired
  | poll id => exact h.actor hsound rfl fun k ↦ hsound.heldUp_poll id
  | begin id => exact h.actor hsound rfl fun k ↦ hsound.heldUp_begin id
  | finish id => exact h.actor hsound rfl fun k hk ↦ .inl (hsound.heldUp_finish id hk)

theorem run (h : s.Ordered) (hsound : s.Sound) {moves : List (Move α)}
    (hcareful : s.CarefulFrom moves) : (s.run moves).Ordered := by
  induction moves generalizing s with
  | nil => exact h
  | cons move moves ih => exact ih (h.step hsound hcareful.1) (hsound.step move) hcareful.2

end Ordered

theorem ordered_start (name : String) (waits : Bool) :
    (start name waits : Succession α).Ordered := by
  intro a b hab _ hb
  have hlt : b.index < 1 := (sound_start name waits).lt_of_mayRun hb
  omega

end CodeHints.Succession
