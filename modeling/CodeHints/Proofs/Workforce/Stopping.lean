import CodeHints.Proofs.Workforce.Service

/-!
# Workers that are stopped

A worker that is stopped begins nothing but the job that it has handed over already, and refuses
whatever is submitted to it. So what a workforce may still come to is told by two things: which jobs
are in the lines, and which workers are open.

Nearly every move leaves less of both. `Eases` says so, and the two exceptions are looking up a
worker, which may open a new one, and a submission. Together these let nothing pend that did not
pend before, unless it is looked up; see `Pends`.

A shutdown stops all workers that the registry has. A worker that the registry has let go before is
not among them.
-/

namespace CodeHints

theorem Station.isClosed_of_face {α : Type} {st st' : Station α} (h : st'.face = st.face) :
    st'.worker.map SerialWorker.isClosed = st.worker.map SerialWorker.isClosed := by
  have hface := congrArg (Option.map (·.2.1)) h
  rw [face, face, Option.map_map, Option.map_map] at hface
  exact hface

namespace WorkerPool

variable {α : Type} {p : WorkerPool α}

def IsOpen (p : WorkerPool α) (id : WorkerId) : Prop :=
  ∃ w, (p.station id).worker = some w ∧ w.isClosed = false

theorem isOpen_congr {p p' : WorkerPool α} {id : WorkerId}
    (h : (p'.station id).worker.map SerialWorker.isClosed =
      (p.station id).worker.map SerialWorker.isClosed) : p'.IsOpen id ↔ p.IsOpen id := by
  have hiff (p : WorkerPool α) :
      p.IsOpen id ↔ (p.station id).worker.map SerialWorker.isClosed = some false := by
    rw [Option.map_eq_some_iff]
    rfl
  rw [hiff, hiff, h]

theorem line_of_not_isOpen {id : WorkerId} (h : ¬ p.IsOpen id) :
    (p.station id).line = (p.station id).handed := by
  cases hw : (p.station id).worker with
  | none => simp [Station.line, hw]
  | some w =>
    refine Station.line_closed hw ?_
    rw [← Bool.not_eq_false]
    exact fun hopen ↦ h ⟨w, hw, hopen⟩

/-! ## Stopping several workers -/

def stopAll (p : WorkerPool α) (ids : List WorkerId) : WorkerPool α :=
  ids.foldl Registry.stopWorker p

theorem station_stopWorker (p : WorkerPool α) (i id : WorkerId) :
    (Registry.stopWorker p i).station id =
      if id = i then (p.station id).mapWorker fun w ↦ w.shutdown.release else p.station id := by
  rw [Registry.stopWorker, release, shutdown, modify_modify, station_modify]
  rfl

theorem not_isOpen_stopWorker (p : WorkerPool α) (i : WorkerId) :
    ¬ (Registry.stopWorker p i).IsOpen i := by
  rintro ⟨w, hw, hopen⟩
  rw [station_stopWorker, if_pos rfl] at hw
  obtain ⟨v, -, rfl⟩ := Option.map_eq_some_iff.mp hw
  cases hopen

theorem isOpen_stopWorker_of_ne {i id : WorkerId} (h : id ≠ i) :
    (Registry.stopWorker p i).IsOpen id ↔ p.IsOpen id := by
  rw [IsOpen, station_stopWorker, if_neg h]
  rfl

/-- Stopping workers does not touch what was handed over, and closes just these workers. -/
theorem stopAll_spec (p : WorkerPool α) (ids : List WorkerId) (id : WorkerId) :
    ((p.stopAll ids).station id).handed = (p.station id).handed ∧
      ((p.stopAll ids).IsOpen id ↔ p.IsOpen id ∧ id ∉ ids) ∧
      (id ∉ ids → (p.stopAll ids).station id = p.station id) := by
  induction ids generalizing p with
  | nil => exact ⟨rfl, by simp [stopAll], fun _ ↦ rfl⟩
  | cons first rest ih =>
    obtain ⟨hhanded, hopen, hsame⟩ := ih (Registry.stopWorker p first)
    have hstation := p.station_stopWorker first id
    refine ⟨hhanded.trans ?_, hopen.trans ?_, fun hnot ↦ ?_⟩
    · rw [hstation]
      split <;> rfl
    · by_cases hid : id = first
      · subst hid
        simp [p.not_isOpen_stopWorker id]
      · rw [isOpen_stopWorker_of_ne hid, List.mem_cons, not_or, and_iff_right hid]
    · rw [List.mem_cons, not_or] at hnot
      rw [stopAll, List.foldl_cons]
      refine (hsame hnot.2).trans ?_
      rw [hstation, if_neg hnot.1]

theorem mem_line_stopAll {ids : List WorkerId} {id : WorkerId} {job : Job α} :
    job ∈ ((p.stopAll ids).station id).line ↔
      job ∈ (p.station id).handed ∨ job ∈ (p.station id).line ∧ id ∉ ids := by
  obtain ⟨hhanded, hopen, hsame⟩ := p.stopAll_spec ids id
  by_cases hid : id ∈ ids
  · have hclosed : ¬ (p.stopAll ids).IsOpen id := fun h ↦ (hopen.mp h).2 hid
    rw [line_of_not_isOpen hclosed, hhanded]
    simp [hid]
  · rw [hsame hid, Station.line, List.mem_append]
    simp only [hid, not_false_eq_true, and_true]
    exact or_self_left.symm

end WorkerPool

namespace Workforce

variable {κ : Type} {s s' s'' : Workforce κ}

/-! ## A shutdown -/

def shutdown (s : Workforce κ) : Workforce κ :=
  let (registry, pool) := s.registry.shutdown s.pool
  ⟨registry, pool, s.held⟩

/-- What is known of environments and of signals that nobody has to wait for is of no importance to
the workers. -/
theorem Sound.of_registry (h : s.Sound) {r : Registry} (hworkers : r.workers = s.registry.workers)
    (hretiring : ∀ t ∈ r.retiring.map (·.2), t ∈ s.registry.retiring.map (·.2)) :
    Sound ⟨r, s.pool, s.held⟩ := by
  refine ⟨h.station, h.linked.of_same rfl (fun _ ↦ rfl) (fun _ _ ht ↦ ht) hretiring, h.closed, ?_,
    ?_, ?_, h.placed, h.held⟩
  · rw [hworkers]
    exact h.live
  · rw [hworkers]
    exact h.keys
  · intro id w hw
    rw [references, hworkers]
    exact h.handles id w hw

theorem pool_remove (s : Workforce κ) (window : WindowKey) :
    (s.remove window).pool = s.pool.stopAll (s.registry.workers.lookup window).toList := by
  cases hlookup : s.registry.workers.lookup window with
  | none =>
    rw [remove_of_none hlookup]
    rfl
  | some id =>
    rw [remove_of_some hlookup]
    rfl

theorem pool_shutdown (s : Workforce κ) :
    s.shutdown.pool = s.pool.stopAll (s.registry.workers.map (·.2)) := by
  rw [WorkerPool.stopAll, List.foldl_map]
  rfl

/-- The moves that remove every window that has a worker. -/
private def removals (κ : Type) (entries : List (WindowKey × WorkerId)) : List (Move κ) :=
  entries.map fun x ↦ .remove x.1

/-- To remove every window that has a worker is to stop all workers. -/
private theorem run_removals {entries : List (WindowKey × WorkerId)}
    (h : s.registry.workers = entries) (hkeys : (entries.map (·.1)).Nodup) :
    (s.run (removals κ entries)).registry.workers = [] ∧
      (s.run (removals κ entries)).pool = s.pool.stopAll (entries.map (·.2)) ∧
      (s.run (removals κ entries)).held = s.held := by
  induction entries generalizing s with
  | nil => exact ⟨h, rfl, rfl⟩
  | cons first rest ih =>
    obtain ⟨window, id⟩ := first
    rw [List.map_cons, List.nodup_cons] at hkeys
    have hlookup : s.registry.workers.lookup window = some id := by
      rw [h, List.lookup_cons_self]
    have hrest : (s.remove window).registry.workers = rest := by
      change Registry.without s.registry.workers window = rest
      rw [h, Registry.without, List.filter_cons_of_neg (by simp), List.filter_eq_self]
      intro x hx
      rw [decide_eq_true_eq]
      rintro rfl
      exact hkeys.1 (List.mem_map.mpr ⟨x, hx, rfl⟩)
    have hpool := s.pool_remove window
    rw [hlookup] at hpool
    obtain ⟨hworkers, hstopped, hheld⟩ := ih hrest hkeys.2
    rw [removals, List.map_cons, run_cons]
    refine ⟨hworkers, hstopped.trans ?_, hheld⟩
    rw [hpool]
    rfl

theorem Sound.shutdown (h : s.Sound) : s.shutdown.Sound := by
  obtain ⟨hworkers, hpool, hheld⟩ := run_removals rfl h.keys
  have hremoved := h.run (removals κ s.registry.workers)
  have hsound := hremoved.of_registry (r := s.shutdown.registry) hworkers.symm
    fun t ht ↦ by cases ht
  rw [hpool, hheld, ← s.pool_shutdown] at hsound
  exact hsound

theorem Touches.isOpen {i : WorkerId} {f : SerialWorker (Inquiry κ) → SerialWorker (Inquiry κ)}
    (h : s.Touches s' i f) (hclosed : ∀ w, (f w).isClosed = w.isClosed) (id : WorkerId) :
    s'.pool.IsOpen id ↔ s.pool.IsOpen id := by
  refine WorkerPool.isOpen_congr ?_
  have hstation : s'.pool.station id = _ := h.station id
  rw [hstation]
  split
  · rw [Station.mapWorker, Option.map_map]
    exact Option.map_congr fun w _ ↦ hclosed w
  · rfl

/-! ## Moves that leave less to do -/

/-- No task is added to a line, and no worker is opened. -/
structure Eases (s s' : Workforce κ) : Prop where
  line : ∀ id inquiry, .task inquiry ∈ (s'.station id).line → .task inquiry ∈ (s.station id).line
  isOpen : ∀ id, s'.pool.IsOpen id → s.pool.IsOpen id
  held : s'.held = s.held

/-- The registry has no new entries either. -/
structure Recedes (s s' : Workforce κ) : Prop extends Eases s s' where
  workers : ∀ x ∈ s'.registry.workers, x ∈ s.registry.workers
  daemons : ∀ x ∈ s'.registry.daemons, x ∈ s.registry.daemons
  generation : s.registry.generation ≤ s'.registry.generation

theorem eases_of_pool {r : Registry} {held : List (Inquiry κ × WorkerId)} (h : held = s.held) :
    s.Eases ⟨r, s.pool, held⟩ := ⟨fun _ _ h ↦ h, fun _ h ↦ h, h⟩

theorem Eases.trans (h : s.Eases s') (h' : s'.Eases s'') : s.Eases s'' :=
  ⟨fun id x hx ↦ h.line id x (h'.line id x hx), fun id hid ↦ h.isOpen id (h'.isOpen id hid),
    h'.held.trans h.held⟩

theorem Recedes.refl (s : Workforce κ) : s.Recedes s :=
  ⟨eases_of_pool rfl, fun _ h ↦ h, fun _ h ↦ h, Nat.le_refl _⟩

theorem Recedes.of_turn {pool : WorkerPool (Inquiry κ)}
    (hline : ∀ id inquiry, .task inquiry ∈ (pool.station id).line →
      .task inquiry ∈ (s.station id).line)
    (hclosed : ∀ id, (pool.station id).worker.map SerialWorker.isClosed =
      (s.station id).worker.map SerialWorker.isClosed) :
    s.Recedes { s with pool := pool } :=
  ⟨⟨hline, fun id hopen ↦ (WorkerPool.isOpen_congr (hclosed id)).mp hopen, rfl⟩, fun _ h ↦ h,
    fun _ h ↦ h, Nat.le_refl _⟩

theorem recedes_poll (s : Workforce κ) (i : WorkerId) : s.Recedes (s.step (.poll i)) := by
  refine .of_turn (fun id inquiry hmem ↦ s.line_poll i id ▸ hmem) fun id ↦ ?_
  rw [s.pool.station_poll i id]
  split
  · exact Station.isClosed_of_face ((s.pool.station id).polled_spec _).face_eq
  · rfl

theorem Sound.recedes_begin (h : s.Sound) (i : WorkerId) : s.Recedes (s.step (.begin i)) := by
  cases hbegin : s.pool.begin? i with
  | none =>
    rw [begin_of_none hbegin]
    exact .refl s
  | some found =>
    obtain ⟨job, pool⟩ := found
    rw [begin_of_some hbegin]
    obtain ⟨hhead, hstation, -⟩ := WorkerPool.begin?_spec hbegin
    refine .of_turn (fun id inquiry hmem ↦ ?_) fun id ↦ congrArg _ (worker_begun hbegin id)
    rw [hstation] at hmem
    split at hmem
    · next hid =>
      subst hid
      rw [Workforce.station, (h.station id).line_of_handed hhead]
      exact List.mem_cons_of_mem _ hmem
    · exact hmem

theorem recedes_finish (s : Workforce κ) (i : WorkerId) : s.Recedes (s.step (.finish i)) := by
  refine .of_turn (fun id inquiry hmem ↦ s.line_finish i id ▸ hmem) fun id ↦ ?_
  rw [s.pool.station_finish i id]
  split
  · exact Station.isClosed_of_face (Station.finished_face _)
  · rfl

theorem Sound.eases_letGo (h : s.Sound) {window : WindowKey} {i : WorkerId}
    (hlive : (window, i) ∈ s.registry.workers) : s.Eases (s.letGo window i) := by
  refine ⟨fun id inquiry hmem ↦ ?_, fun id hopen ↦ ?_, rfl⟩
  · -- the line grows by a signal, if at all
    rw [h.line_letGo hlive] at hmem
    rcases List.mem_append.mp hmem with hold | hnew
    · exact hold
    · split at hnew <;> simp at hnew
  · exact ((h.touches_letGo hlive).isOpen (fun _ ↦ rfl) id).mp hopen

theorem Sound.recedes_invalidate (h : s.Sound) : s.Recedes s.invalidate := by
  obtain ⟨hdaemons, hworkers, hgeneration, -⟩ := s.registry.invalidateAll_spec s.pool
  have heases : s.Eases s.invalidate :=
    (invalidate_induction (P := s.Eases) h (eases_of_pool rfl)
      (fun _ _ _ hsound hs hlive ↦ hs.trans (hsound.eases_letGo hlive))
      fun _ _ _ _ hs ↦ ⟨hs.line, hs.isOpen, hs.held⟩).2
  refine ⟨heases, fun x hx ↦ ?_, fun x hx ↦ ?_, ?_⟩
  · exact absurd (hworkers ▸ hx) List.not_mem_nil
  · exact absurd (hdaemons ▸ hx) List.not_mem_nil
  · exact Nat.le_of_lt (Nat.lt_of_lt_of_eq (Nat.lt_succ_self _) hgeneration.symm)

/-- Stopping workers leaves less to do. -/
theorem recedes_stopAll (s : Workforce κ) {r : Registry} {pool : WorkerPool (Inquiry κ)}
    {ids : List WorkerId} (hpool : pool = s.pool.stopAll ids)
    (hworkers : ∀ x ∈ r.workers, x ∈ s.registry.workers)
    (hdaemons : ∀ x ∈ r.daemons, x ∈ s.registry.daemons)
    (hgeneration : s.registry.generation ≤ r.generation) : s.Recedes ⟨r, pool, s.held⟩ := by
  subst hpool
  refine ⟨⟨fun id inquiry hmem ↦ ?_, fun id hopen ↦ ?_, rfl⟩, hworkers, hdaemons, hgeneration⟩
  · rcases WorkerPool.mem_line_stopAll.mp hmem with hhanded | ⟨hline, -⟩
    · exact List.mem_append_left _ hhanded
    · exact hline
  · exact ((s.pool.stopAll_spec ids id).2.1.mp hopen).1

theorem recedes_remove (s : Workforce κ) (window : WindowKey) : s.Recedes (s.remove window) :=
  s.recedes_stopAll (s.pool_remove window) (fun _ hx ↦ (Registry.mem_without.mp hx).1)
    (fun _ hx ↦ (Registry.mem_without.mp hx).1) (Nat.le_refl _)

theorem recedes_shutdown (s : Workforce κ) : s.Recedes s.shutdown :=
  s.recedes_stopAll s.pool_shutdown (fun _ hx ↦ by cases hx) (fun _ hx ↦ by cases hx)
    (Nat.le_succ _)

/-! ## What a request changes in the registry -/

theorem registry_lookUp (s : Workforce κ) (inquiry : Inquiry κ) :
    (∀ window id, (window, id) ∈ (s.lookUp inquiry).registry.workers →
        (window, id) ∈ s.registry.workers ∨ inquiry.ask.window = window) ∧
      (s.lookUp inquiry).registry.daemons = s.registry.daemons ∧
      (s.lookUp inquiry).registry.generation = s.registry.generation := by
  cases hlookup : s.registry.workers.lookup inquiry.ask.window with
  | some i =>
    rw [lookUp_of_some hlookup]
    exact ⟨fun _ _ hmem ↦ .inl hmem, rfl, rfl⟩
  | none =>
    rw [lookUp_of_none hlookup]
    refine ⟨fun window id hmem ↦ ?_, rfl, rfl⟩
    rcases List.mem_append.mp hmem with hold | hnew
    · exact .inl hold
    · exact .inr (Prod.mk.inj (List.mem_singleton.mp hnew)).1.symm

theorem registry_submit (s : Workforce κ) (index : Nat) :
    (s.submit index).registry = s.registry := by
  rw [submit]
  split <;> rfl

/-! ## Requests that pend -/

/-- The job of a request is in a line, or the request is about to be submitted to an open
worker. -/
def Pends (s : Workforce κ) (inquiry : Inquiry κ) : Prop :=
  (∃ id, .task inquiry ∈ (s.station id).line) ∨
    ∃ id, (inquiry, id) ∈ s.held ∧ s.pool.IsOpen id

theorem Eases.pends (h : s.Eases s') {inquiry : Inquiry κ} (hpends : s'.Pends inquiry) :
    s.Pends inquiry := by
  obtain ⟨id, hline⟩ | ⟨id, hheld, hopen⟩ := hpends
  · exact .inl ⟨id, h.line id inquiry hline⟩
  · exact .inr ⟨id, h.held ▸ hheld, h.isOpen id hopen⟩

/-- The request whose worker is looked up may pend from now on. -/
theorem Sound.pends_lookUp (h : s.Sound) {inquiry other : Inquiry κ}
    (hpends : (s.lookUp other).Pends inquiry) : s.Pends inquiry ∨ inquiry = other := by
  obtain ⟨id, hline⟩ | ⟨id, hheld, hopen⟩ := hpends
  · exact .inl (.inl ⟨id, h.line_lookUp other id ▸ hline⟩)
  cases hlookup : s.registry.workers.lookup other.ask.window with
  | some i =>
    rw [lookUp_of_some hlookup] at hheld hopen
    rcases List.mem_append.mp hheld with hold | hnew
    · exact .inl (.inr ⟨id, hold, ((s.touches_hold other i).isOpen (fun _ ↦ rfl) id).mp hopen⟩)
    · exact .inr (Prod.mk.inj (List.mem_singleton.mp hnew)).1
  | none =>
    rw [lookUp_of_none hlookup] at hheld hopen
    rcases List.mem_append.mp hheld with hold | hnew
    · -- a worker that was held before is not the one that was started
      have htouches := (s.enlist other.ask.window).touches_hold other ⟨s.pool.workers.length⟩
      have hsame := h.enlist_of_serves (h.held _ hold) other.ask.window
      obtain ⟨w, hw, hopen⟩ := (htouches.isOpen (fun _ ↦ rfl) id).mp hopen
      have hw' : ((s.enlist other.ask.window).station id).worker = some w := hw
      rw [hsame] at hw'
      exact .inl (.inr ⟨id, hold, w, hw', hopen⟩)
    · exact .inr (Prod.mk.inj (List.mem_singleton.mp hnew)).1

theorem pends_submit {index : Nat} {inquiry : Inquiry κ}
    (hpends : (s.submit index).Pends inquiry) : s.Pends inquiry := by
  cases hheld : s.held[index]? with
  | none => rwa [submit_of_none hheld] at hpends
  | some found =>
    obtain ⟨other, i⟩ := found
    cases hsubmit : s.pool.submit i (.task other) with
    | error e =>
      have htouches : s.Touches ⟨s.registry, s.pool.release i, s.held.eraseIdx index⟩ i .release :=
        ⟨fun id ↦ WorkerPool.station_modify s.pool i id _, fun _ ↦ rfl, fun _ ↦ rfl⟩
      rw [submit_of_error hheld hsubmit] at hpends
      obtain ⟨id, hline⟩ | ⟨id, hmem, hopen⟩ := hpends
      · exact .inl ⟨id, htouches.line (fun _ ↦ rfl) id ▸ hline⟩
      · exact .inr ⟨id, List.mem_of_mem_eraseIdx hmem, (htouches.isOpen (fun _ ↦ rfl) id).mp hopen⟩
    | ok pool =>
      have htouches := touches_accepted hsubmit (s.held.eraseIdx index)
      rw [submit_of_ok hheld hsubmit] at hpends
      obtain ⟨id, hline⟩ | ⟨id, hmem, hopen⟩ := hpends
      · rw [line_accepted hsubmit] at hline
        rcases List.mem_append.mp hline with hold | hnew
        · exact .inl ⟨id, hold⟩
        · -- what is new in a line was held, and its worker took it
          split at hnew
          · obtain ⟨w, hw, hopen, -⟩ := WorkerPool.station_submit hsubmit
            obtain rfl := Job.task.inj (List.mem_singleton.mp hnew)
            exact .inr ⟨i, List.mem_of_getElem? hheld, w, hw, hopen⟩
          · cases hnew
      · exact .inr ⟨id, List.mem_of_mem_eraseIdx hmem, (htouches.isOpen (fun _ ↦ rfl) id).mp hopen⟩

/-- A request that pends can be made to begin, by its submission and by moves of the workers. -/
theorem Sound.exists_begins_of_pends (h : s.Sound) {inquiry : Inquiry κ}
    (hpends : s.Pends inquiry) : ∃ moves id,
      (∀ move ∈ moves, Move.IsTurn move ∨ ∃ index, move = .submit index) ∧
      inquiry ∈ (s.run moves).begins id := by
  obtain ⟨id, hline⟩ | ⟨id, hheld, w, hw, hopen⟩ := hpends
  · obtain ⟨moves, hturns, hbegins⟩ := h.exists_begins hline
    exact ⟨moves, id, fun move hmove ↦ .inl (hturns move hmove), hbegins⟩
  · obtain ⟨index, hget⟩ := List.mem_iff_getElem?.mp hheld
    obtain ⟨pool, hsubmit⟩ := WorkerPool.submit_of_open hw hopen (.task inquiry)
    have hline : .task inquiry ∈ ((s.submit index).station id).line := by
      rw [submit_of_ok hget hsubmit, line_accepted hsubmit, if_pos rfl]
      exact List.mem_append_right _ (List.mem_singleton.mpr rfl)
    obtain ⟨moves, hturns, hbegins⟩ := (h.submit index).exists_begins hline
    refine ⟨.submit index :: moves, id, ?_, hbegins⟩
    exact List.forall_mem_cons.mpr ⟨.inr ⟨index, rfl⟩, fun move hmove ↦ .inl (hturns move hmove)⟩

theorem Sound.pends_of_begins (h : s.Sound) {inquiry : Inquiry κ} {id : WorkerId}
    (hbegins : inquiry ∈ s.begins id) : s.Pends inquiry := by
  obtain ⟨pool, hbegin⟩ := mem_begins.mp hbegins
  have hhead := (WorkerPool.begin?_spec hbegin).1
  refine .inl ⟨id, ?_⟩
  rw [Workforce.station, (h.station id).line_of_handed hhead]
  exact List.mem_cons_self

/-! ## Requests that escape -/

/-- The worker takes jobs, and the registry has let it go. -/
def IsRetired (s : Workforce κ) (id : WorkerId) : Prop :=
  s.pool.IsOpen id ∧ ∀ window, (window, id) ∉ s.registry.workers

/-- Stopping the workers of the registry does not reach the request: its job has been handed over
already, or it is with a worker that has been let go, or is about to be submitted to one. -/
def Escapes (s : Workforce κ) (inquiry : Inquiry κ) : Prop :=
  (∃ id, .task inquiry ∈ (s.station id).handed) ∨
    ∃ id, s.IsRetired id ∧ (.task inquiry ∈ (s.station id).line ∨ (inquiry, id) ∈ s.held)

theorem pends_stopAll (s : Workforce κ) {r : Registry} {pool : WorkerPool (Inquiry κ)}
    {ids : List WorkerId} (hpool : pool = s.pool.stopAll ids) {inquiry : Inquiry κ} :
    Pends ⟨r, pool, s.held⟩ inquiry ↔ (∃ id, .task inquiry ∈ (s.station id).handed) ∨
      ∃ id, id ∉ ids ∧ s.pool.IsOpen id ∧
        (.task inquiry ∈ (s.station id).line ∨ (inquiry, id) ∈ s.held) := by
  subst hpool
  constructor
  · rintro (⟨id, hline⟩ | ⟨id, hheld, hopen⟩)
    · rcases WorkerPool.mem_line_stopAll.mp hline with hhanded | ⟨hline, hid⟩
      · exact .inl ⟨id, hhanded⟩
      · -- a closed worker has nothing left but what it has handed over
        by_cases hopen : s.pool.IsOpen id
        · exact .inr ⟨id, hid, hopen, .inl hline⟩
        · exact .inl ⟨id, WorkerPool.line_of_not_isOpen hopen ▸ hline⟩
    · obtain ⟨hopen, hid⟩ := (s.pool.stopAll_spec ids id).2.1.mp hopen
      exact .inr ⟨id, hid, hopen, .inr hheld⟩
  · rintro (⟨id, hhanded⟩ | ⟨id, hid, hopen, hline | hheld⟩)
    · exact .inl ⟨id, WorkerPool.mem_line_stopAll.mpr (.inl hhanded)⟩
    · exact .inl ⟨id, WorkerPool.mem_line_stopAll.mpr (.inr ⟨hline, hid⟩)⟩
    · exact .inr ⟨id, hheld, (s.pool.stopAll_spec ids id).2.1.mpr ⟨hopen, hid⟩⟩

theorem pends_shutdown (s : Workforce κ) {inquiry : Inquiry κ} :
    s.shutdown.Pends inquiry ↔ s.Escapes inquiry := by
  have hids (id : WorkerId) :
      id ∉ s.registry.workers.map (·.2) ↔ ∀ window, (window, id) ∉ s.registry.workers := by
    simp
  refine (s.pends_stopAll s.pool_shutdown).trans (or_congr_right (exists_congr fun id ↦ ?_))
  rw [hids, IsRetired, and_assoc, and_left_comm]

/-- A worker of the window that is not the one of the registry is none of the registry. -/
theorem Sound.isRetired_of_serves (h : s.Sound) {window : WindowKey} {id : WorkerId}
    (hserves : s.Serves id window) (hopen : s.pool.IsOpen id)
    (hlookup : s.registry.workers.lookup window ≠ some id) : s.IsRetired id := by
  refine ⟨hopen, fun other hlive ↦ hlookup ?_⟩
  obtain rfl := hserves.unique (h.serves hlive)
  exact Registry.lookup_of_mem h.keys hlive

theorem Sound.pends_remove (h : s.Sound) {inquiry : Inquiry κ} :
    (s.remove inquiry.ask.window).Pends inquiry ↔ s.Escapes inquiry := by
  refine (s.pends_stopAll (s.pool_remove _)).trans (or_congr_right (exists_congr fun id ↦ ?_))
  rw [Option.mem_toList]
  constructor
  · rintro ⟨hid, hopen, hmem⟩
    have hserves : s.Serves id inquiry.ask.window := by
      rcases hmem with hline | hheld
      · exact h.placed id inquiry (List.mem_append_right _ hline)
      · exact h.held _ hheld
    exact ⟨h.isRetired_of_serves hserves hopen hid, hmem⟩
  · rintro ⟨⟨hopen, hnot⟩, hmem⟩
    exact ⟨fun hlookup ↦ hnot _ (Registry.mem_of_lookup hlookup), hopen, hmem⟩

end Workforce

end CodeHints
