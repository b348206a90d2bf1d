import CodeHints.Proofs.Succession.Basic

/-!
# The links of a chain

A worker that waits for a signal that is neither fired nor lost can rely on it: the signal stands at
the end of what its predecessor has not begun, and nowhere else. `Succession.Sound` says so. It
holds in every run, whatever is shut down and whenever.

The moves are of three kinds. Most of them only take something away from the workers, which is
`Succession.Lessens`. Others may add a job to the last worker, which is `Succession.Extends`. Only
one starts a worker.
-/

namespace CodeHints

theorem WorkerPool.length_workers_congr {α : Type} {p p' : WorkerPool α}
    (h : ∀ id, (p'.station id).worker.isSome = (p.station id).worker.isSome) :
    p'.workers.length = p.workers.length := by
  have hlt (p : WorkerPool α) (n : Nat) :
      (p.station ⟨n⟩).worker.isSome = true ↔ n < p.workers.length := by
    simp [station, worker?]
  refine Nat.le_antisymm (Nat.le_of_not_lt fun hless ↦ ?_) (Nat.le_of_not_lt fun hless ↦ ?_)
  · exact Nat.lt_irrefl _ ((hlt p _).mp (h ⟨_⟩ ▸ (hlt p' _).mpr hless))
  · exact Nat.lt_irrefl _ ((hlt p' _).mp (h ⟨_⟩ ▸ (hlt p _).mpr hless))

namespace Succession

variable {α : Type} {s s' : Succession α} {id : WorkerId}

open WorkerPool

/-- What holds after every move. -/
structure Sound (s : Succession α) : Prop where
  stations : ∀ id, (s.station id).Sound
  emptied : ∀ id, (s.station id).Emptied
  /-- No worker of the chain fires the signal that the first one may have to wait for. -/
  known : ∀ id t, .signal t ∈ (s.station id).store →
    0 < t.index ∧ t.index < s.pool.signals.length
  once : ∀ id, (signalsOf (s.station id).store).Nodup
  apart : ∀ a b t, .signal t ∈ (s.station a).store → .signal t ∈ (s.station b).store → a = b
  /-- The signal that a worker waits for is the last job of the worker before it. -/
  awaited : ∀ id t, (s.station id).Awaits t → t.index < s.pool.signals.length ∧
    (s.pool.isResolved t = false → id.index = 0 ∧ t.index = 0 ∨
      ∃ c front, id.index = c.index + 1 ∧ (s.station c).store = front ++ [.signal t])
  signalled : 0 < s.pool.signals.length

/-! ## Moves that add nothing -/

/-- A move after which no worker has more to do than before. -/
structure Lessens (s s' : Succession α) : Prop where
  signals : s'.pool.signals.length = s.pool.signals.length
  resolved : ∀ t, s'.pool.isResolved t = false → s.pool.isResolved t = false
  station : ∀ id, (s.station id).Lessens s'.pool.isResolved (s'.station id)

namespace Lessens

theorem workers (h : s.Lessens s') : s'.pool.workers.length = s.pool.workers.length :=
  length_workers_congr fun id ↦ (h.station id).worker

theorem hasTask (h : s.Lessens s') (hid : s'.HasTask id) : s.HasTask id := by
  obtain ⟨a, ha⟩ := hid
  exact ⟨a, (h.station id).unfinished _ ha⟩

theorem mayRun (h : s.Lessens s') (hid : s'.MayRun id) : s.MayRun id := by
  refine hid.imp h.hasTask fun ⟨hlast, w, hw, hopen, hheld⟩ ↦ ?_
  exact ⟨h.workers ▸ hlast, (h.station id).face w hw hopen hheld⟩

theorem heldUp (h : s.Lessens s') (hid : s'.HeldUp id) : s.HeldUp id := by
  obtain ⟨t, ht, hpending⟩ := hid
  exact ⟨t, (h.station id).awaits t ht, h.resolved t hpending⟩

end Lessens

/-- A move that takes something away from at most one worker. -/
theorem Sound.lessensAt (h : s.Sound) {i : WorkerId}
    (hsignals : s'.pool.signals.length = s.pool.signals.length)
    (hresolved : ∀ t, s'.pool.isResolved t = false → s.pool.isResolved t = false)
    (hi : (s.station i).Lessens s'.pool.isResolved (s'.station i))
    (hothers : ∀ id, id ≠ i → s'.station id = s.station id) : s.Lessens s' := by
  refine ⟨hsignals, hresolved, fun id ↦ ?_⟩
  by_cases hid : id = i
  · exact hid ▸ hi
  · rw [hothers id hid]
    exact .refl (h.stations id) (h.emptied id)

theorem Sound.lessens_refl (h : s.Sound) : s.Lessens s :=
  ⟨rfl, fun _ h ↦ h, fun id ↦ .refl (h.stations id) (h.emptied id)⟩

theorem Sound.lessen (h : s.Sound) (hl : s.Lessens s') : s'.Sound := by
  -- what is left of a store is its end, and what is gone holds no signal that somebody waits for
  have hstore (id : WorkerId) {job : Job α} (hjob : job ∈ (s'.station id).store) :
      job ∈ (s.station id).store := by
    obtain ⟨gone, hgone, -⟩ := (hl.station id).store
    rw [hgone]
    exact List.mem_append_right _ hjob
  refine
    { stations := fun id ↦ (hl.station id).sound, emptied := fun id ↦ (hl.station id).emptied,
      known := fun id t ht ↦ ?known, once := fun id ↦ ?once,
      apart := fun a b t ha hb ↦ h.apart a b t (hstore a ha) (hstore b hb),
      awaited := fun id t ht ↦ ?awaited, signalled := hl.signals ▸ h.signalled }
  case known =>
    rw [hl.signals]
    exact h.known id t (hstore id ht)
  case once =>
    obtain ⟨gone, hgone, -⟩ := (hl.station id).store
    have honce := h.once id
    rw [hgone, signalsOf_append] at honce
    exact (List.nodup_append.mp honce).2.1
  case awaited =>
    rw [hl.signals]
    obtain ⟨hknown, hlink⟩ := h.awaited id t ((hl.station id).awaits t ht)
    refine ⟨hknown, fun hpending ↦ (hlink (hl.resolved t hpending)).imp_right ?_⟩
    rintro ⟨c, front, hindex, hfront⟩
    obtain ⟨gone, hgone, hresolved⟩ := (hl.station c).store
    rw [hgone] at hfront
    obtain hnil | ⟨rest, job, hrest⟩ := List.eq_nil_or_concat (s'.station c).store
    · have hmem : .signal t ∈ gone := by
        rw [hnil, List.append_nil] at hfront
        rw [hfront]
        exact List.mem_concat_self
      rw [hresolved t hmem] at hpending
      cases hpending
    · rw [hrest, List.concat_eq_append, ← List.append_assoc] at hfront
      have hjob := (List.append_inj' hfront rfl).2
      exact ⟨c, rest, hindex, by rw [hrest, List.concat_eq_append, hjob]⟩

theorem Sound.lessens_modify (h : s.Sound) (i : WorkerId) (f : SerialWorker α → SerialWorker α)
    (hconsumer : ∀ w, (f w).consumer = w.consumer) (hqueue : ∀ w, (f w).queue = w.queue)
    (hopen : ∀ w, (f w).isClosed = false → w.isClosed = false)
    (hheld : ∀ w, (s.station i).worker = some w → (f w).handles ≠ 0 → w.handles ≠ 0)
    (hstopped : ∀ w, (s.station i).worker = some w →
      w.isClosed = true ∨ (w.handles = 0 ∧ w.queue = []) →
      (f w).isClosed = true ∨ ((f w).handles = 0 ∧ (f w).queue = [])) :
    s.Lessens ⟨s.pool.modify i f⟩ := by
  refine h.lessensAt (i := i) rfl (fun _ hpending ↦ hpending) ?_ fun id hid ↦
    (station_modify s.pool i id f).trans (if_neg hid)
  rw [show (⟨s.pool.modify i f⟩ : Succession α).station i = (s.station i).mapWorker f from
    (station_modify s.pool i i f).trans (if_pos rfl)]
  exact .mapWorker (h.stations i) (h.emptied i) f hconsumer hqueue hopen hheld hstopped

theorem Sound.lessens_shutdown (h : s.Sound) (i : WorkerId) : s.Lessens ⟨s.pool.shutdown i⟩ :=
  h.lessens_modify i _ (fun _ ↦ rfl) (fun _ ↦ rfl) (fun _ hclosed ↦ nomatch hclosed)
    (fun _ _ hheld ↦ hheld) fun _ _ _ ↦ .inl rfl

theorem Sound.lessens_retain (h : s.Sound) {i : WorkerId} (hheld : s.isHeld i = true) :
    s.Lessens ⟨s.pool.retain i⟩ := by
  have hhandles {w : SerialWorker α} (hw : (s.station i).worker = some w) : w.handles ≠ 0 := by
    obtain ⟨v, hv, hne⟩ := exists_of_isHeld hheld
    obtain rfl := Option.some.inj (hv.symm.trans hw)
    exact hne
  exact h.lessens_modify i _ (fun _ ↦ rfl) (fun _ ↦ rfl) (fun _ hopen ↦ hopen)
    (fun _ hw _ ↦ hhandles hw) fun _ hw hst ↦ .inl (hst.resolve_right fun e ↦ hhandles hw e.1)

theorem Sound.lessens_release (h : s.Sound) (i : WorkerId) : s.Lessens ⟨s.pool.release i⟩ := by
  refine h.lessens_modify i _ (fun _ ↦ rfl) (fun _ ↦ rfl) (fun _ hopen ↦ hopen)
    (fun w _ hheld hzero ↦ hheld ?_) fun w _ hst ↦ ?_
  · rw [SerialWorker.release, hzero]
  · exact hst.imp_right fun e ↦ ⟨by rw [SerialWorker.release, e.1], e.2⟩

/-- The signal of the first worker is resolved, and no other one. -/
theorem pending_resolve (fired : Bool) (t : SignalId) :
    (s.step (.resolve fired)).pool.isResolved t = false ↔
      t ≠ ⟨0⟩ ∧ s.pool.isResolved t = false := by
  have hstate : (if fired then SignalState.fired else .lost) ≠ .pending := by
    cases fired <;> nofun
  exact pending_set rfl hstate t

theorem Sound.lessens_resolve (h : s.Sound) (fired : Bool) :
    s.Lessens (s.step (.resolve fired)) :=
  ⟨List.length_set, fun t hpending ↦ ((pending_resolve fired t).mp hpending).2,
    fun id ↦ .refl (h.stations id) (h.emptied id)⟩

theorem Sound.lessens_poll (h : s.Sound) (i : WorkerId) : s.Lessens (s.step (.poll i)) := by
  have hpending := pending_polled s.pool i
  refine h.lessensAt (i := i) ?_ (fun t ht ↦ ((hpending t).mp ht).2) ?_ fun id ↦
    station_of_ne rfl
  · exact (congrArg List.length (s.pool.signals_poll i)).trans (length_lose _ _)
  · have hspec := (s.station i).polled_spec s.pool.isResolved
    rw [← poll_dropped] at hspec
    rw [Succession.station_poll]
    refine .polled (h.stations i) (h.emptied i) hspec fun t ht ↦ ?_
    rw [← Bool.not_eq_false]
    exact fun e ↦ ((hpending t).mp e).1 ht

theorem Sound.lessens_begin (h : s.Sound) (i : WorkerId) : s.Lessens (s.step (.begin i)) := by
  obtain hsame | ⟨job, hbegin⟩ := s.step_begin i
  · rw [hsame]
    exact h.lessens_refl
  · obtain ⟨hhead, hstation, hsignals⟩ := begin?_spec hbegin
    have hpending := pending_begun hbegin
    refine h.lessensAt (i := i) ?_ (fun t ht ↦ ((hpending t).mp ht).2) ?_ fun id ↦
      station_of_ne rfl
    · rw [hsignals]
      cases job <;> simp
    · rw [station, station, hstation, if_pos rfl]
      refine .begun (h.stations i) (h.emptied i) hhead fun t ht ↦ ?_
      rw [← Bool.not_eq_false]
      exact fun e ↦ ((hpending t).mp e).1 ht

theorem Sound.lessens_finish (h : s.Sound) (i : WorkerId) : s.Lessens (s.step (.finish i)) := by
  have hsignals := finish_signals s.pool i
  refine h.lessensAt (i := i) (congrArg List.length hsignals) (fun t ht ↦ ?_) ?_ fun id ↦
    station_of_ne rfl
  · exact (isResolved_congr hsignals t).symm.trans ht
  · rw [Succession.station_finish]
    exact .finished (h.stations i) (h.emptied i)

/-- What a worker does by itself adds nothing. -/
theorem Sound.lessens_actor (h : s.Sound) {move : Move α} {i : WorkerId}
    (hactor : move.actor? = some i) : s.Lessens (s.step move) := by
  cases move with
  | poll i => exact h.lessens_poll i
  | begin i => exact h.lessens_begin i
  | finish i => exact h.lessens_finish i
  | _ => cases hactor

/-! ## Moves that add a job to the last worker -/

/-- A move after which the last worker has some more jobs at the end of its queue, and which makes
the signals among them. -/
structure Extends (s s' : Succession α) (added : List (Job α)) : Prop where
  signals : s.pool.signals.length ≤ s'.pool.signals.length
  resolved : ∀ t, t.index < s.pool.signals.length → s'.pool.isResolved t = s.pool.isResolved t
  fresh : ∀ t, .signal t ∈ added → s.pool.signals.length ≤ t.index ∧
    t.index < s'.pool.signals.length
  once : (signalsOf added).Nodup
  station : ∀ id, s'.station id =
    if id = s.last then (s.station id).mapWorker fun w ↦
      { w with queue := w.queue ++ added, backlog := w.backlog + added.length }
    else s.station id
  /-- Nothing is added to a worker that does not take it. -/
  accepts : added = [] ∨ s.Accepts s.last

namespace Extends

variable {added : List (Job α)}

theorem refl (s : Succession α) : s.Extends s [] := by
  refine ⟨Nat.le_refl _, fun _ _ ↦ rfl, nofun, List.nodup_nil, fun id ↦ ?_, .inl rfl⟩
  split
  · simp [Station.mapWorker]
  · rfl

theorem station_of_ne (h : s.Extends s' added) (hid : id ≠ s.last) :
    s'.station id = s.station id := (h.station id).trans (if_neg hid)

theorem station_of_nil (h : s.Extends s' []) (id : WorkerId) : s'.station id = s.station id :=
  (h.station id).trans ((refl s).station id).symm

theorem workers (h : s.Extends s' added) : s'.pool.workers.length = s.pool.workers.length := by
  refine length_workers_congr fun id ↦ ?_
  rw [show s'.pool.station id = _ from h.station id]
  split
  · exact Option.isSome_map
  · rfl

theorem last (h : s.Extends s' added) : s'.last = s.last := by
  rw [Succession.last, h.workers]
  rfl

theorem accepts_last (h : s.Extends s' added) (hs : s.Accepts s.last) : s'.Accepts s'.last := by
  obtain ⟨hindex, w, hw, hopen, hheld⟩ := hs
  rw [h.last]
  refine ⟨h.workers ▸ hindex, ?_⟩
  rw [h.station, if_pos rfl]
  exact ⟨_, congrArg (Option.map _) hw, hopen, hheld⟩

theorem awaits (h : s.Extends s' added) (t : SignalId) :
    (s'.station id).Awaits t ↔ (s.station id).Awaits t := by
  rw [h.station]
  split
  · refine Station.awaits_mapWorker _ _ ?_ t
    exact fun _ ↦ rfl
  · rfl

theorem store (h : s.Extends s' added) (id : WorkerId) :
    (s'.station id).store = (s.station id).store ++ if id = s.last then added else [] := by
  rw [h.station]
  split
  · next hid =>
    cases hw : (s.station id).worker with
    | some w => simp [Station.store, Station.queue, Station.mapWorker, hw]
    | none =>
      obtain rfl | ⟨-, w, hw', -⟩ := h.accepts
      · simp [Station.store, Station.queue, Station.mapWorker, hw]
      · rw [← hid, hw] at hw'
        cases hw'
  · exact (List.append_nil _).symm

end Extends

theorem Sound.extend (h : s.Sound) {added : List (Job α)} (he : s.Extends s' added) :
    s'.Sound := by
  -- what is in a store of the new state was there before, or is new
  have hstore (id : WorkerId) {t : SignalId} (ht : .signal t ∈ (s'.station id).store) :
      .signal t ∈ (s.station id).store ∨ id = s.last ∧ .signal t ∈ added := by
    rw [he.store, List.mem_append] at ht
    refine ht.imp_right fun hmem ↦ ?_
    split at hmem
    · next hid => exact ⟨hid, hmem⟩
    · cases hmem
  have hnew (id : WorkerId) {t : SignalId} (ht : .signal t ∈ (s.station id).store)
      (hadded : .signal t ∈ added) : False :=
    Nat.lt_irrefl _ (Nat.lt_of_lt_of_le (h.known id t ht).2 (he.fresh t hadded).1)
  -- a consumer that has stopped is given nothing
  have hstopped (w : SerialWorker α) (hw : (s.station s.last).worker = some w)
      (hst : w.isClosed = true ∨ (w.handles = 0 ∧ w.queue = [])) : added = [] := by
    refine he.accepts.resolve_right ?_
    rintro ⟨-, v, hv, hopen, hheld⟩
    obtain hclosed | ⟨hzero, -⟩ := hst
    · exact not_isOpen hw hclosed ⟨v, hv, hopen⟩
    · obtain rfl := Option.some.inj (hv.symm.trans hw)
      exact hheld hzero
  refine
    { stations := fun id ↦ ?stations, emptied := fun id ↦ ?emptied, known := fun id t ht ↦ ?known,
      once := fun id ↦ ?once, apart := fun a b t ha hb ↦ ?apart, awaited := fun id t ht ↦ ?awaited,
      signalled := Nat.lt_of_lt_of_le h.signalled he.signals }
  case stations =>
    rw [he.station]
    split
    · next hid =>
      subst hid
      refine (h.stations _).mapWorker _ (fun _ ↦ rfl) fun w hw hst ↦ ?_
      simpa [hstopped w hw hst] using hst
    · exact h.stations id
  case emptied =>
    rw [he.station]
    split
    · next hid =>
      subst hid
      intro w' hw' hc
      obtain ⟨w, hw, rfl⟩ := Option.map_eq_some_iff.mp hw'
      have hnil := hstopped w hw ((h.stations _).stopped w hw hc)
      simpa [hnil] using h.emptied _ w hw hc
    · exact h.emptied id
  case known =>
    obtain hold | ⟨-, hadded⟩ := hstore id ht
    · exact ⟨(h.known id t hold).1, Nat.lt_of_lt_of_le (h.known id t hold).2 he.signals⟩
    · exact ⟨Nat.lt_of_lt_of_le h.signalled (he.fresh t hadded).1, (he.fresh t hadded).2⟩
  case once =>
    rw [he.store, signalsOf_append]
    split
    · refine List.nodup_append.mpr ⟨h.once id, he.once, fun t ht u hu htu ↦ ?_⟩
      subst htu
      exact hnew id (mem_signalsOf.mp ht) (mem_signalsOf.mp hu)
    · exact (List.append_nil _).symm ▸ h.once id
  case apart =>
    obtain hold | ⟨rfl, hadded⟩ := hstore a ha
    · obtain hold' | ⟨rfl, hadded⟩ := hstore b hb
      · exact h.apart a b t hold hold'
      · exact (hnew a hold hadded).elim
    · obtain hold | ⟨rfl, -⟩ := hstore b hb
      · exact (hnew b hold hadded).elim
      · rfl
  case awaited =>
    obtain ⟨hknown, hlink⟩ := h.awaited id t ((he.awaits t).mp ht)
    refine ⟨Nat.lt_of_lt_of_le hknown he.signals, fun hpending ↦ ?_⟩
    rw [he.resolved t hknown] at hpending
    refine (hlink hpending).imp_right ?_
    rintro ⟨c, front, hindex, hfront⟩
    refine ⟨c, front, hindex, ?_⟩
    -- the worker that waits was started later, so its predecessor is not the last one
    have hne : c ≠ s.last := by
      obtain ⟨w, hw, -⟩ := (he.awaits t).mp ht
      have hlt := index_lt hw
      rintro rfl
      rw [hindex, last_index] at hlt
      omega
    rw [he.station_of_ne hne, hfront]

theorem Extends.submitted {pool pool' : WorkerPool α} {job : Job α}
    (hheld : s.isHeld s.last = true) (hsubmit : pool.submit s.last job = .ok pool')
    (hstation : ∀ id, pool.station id = s.station id)
    (hsignals : s.pool.signals.length ≤ pool.signals.length)
    (hresolved : ∀ t, t.index < s.pool.signals.length → pool.isResolved t = s.pool.isResolved t)
    (hfresh : ∀ t, .signal t = job → s.pool.signals.length ≤ t.index ∧
      t.index < pool.signals.length) : s.Extends ⟨pool'⟩ [job] := by
  obtain ⟨w, hw, hopen, hsame, hstation'⟩ := station_submit hsubmit
  have hw : (s.station s.last).worker = some w :=
    (congrArg Station.worker (hstation _)).symm.trans hw
  refine ⟨hsame ▸ hsignals, fun t ht ↦ (isResolved_congr hsame t).trans (hresolved t ht),
    fun t ht ↦ hsame ▸ hfresh t (List.mem_singleton.mp ht), ?_, fun id ↦ ?_,
    .inr (accepts_of_isHeld hheld ⟨w, hw, hopen⟩)⟩
  · cases job <;> simp
  · exact (hstation' id).trans (by rw [hstation]; rfl)

theorem exists_extends_offer (hheld : s.isHeld s.last = true) (a : α) :
    ∃ added, s.Extends ⟨s.pool.offer s.last (.task a)⟩ added ∧
      (s.IsOpen s.last → added = [.task a]) := by
  cases hsubmit : s.pool.submit s.last (.task a) with
  | ok pool =>
    rw [offer_of_ok hsubmit]
    exact ⟨_, .submitted hheld hsubmit (fun _ ↦ rfl) (Nat.le_refl _) (fun _ _ ↦ rfl) nofun,
      fun _ ↦ rfl⟩
  | error e =>
    rw [offer_of_error hsubmit]
    refine ⟨[], .refl s, fun hopen ↦ ?_⟩
    obtain ⟨w, hw, -⟩ := exists_of_isHeld hheld
    exact absurd hopen (not_isOpen hw (submit_refused hsubmit hw))

theorem exists_extends_drained (hheld : s.isHeld s.last = true) :
    (s.pool.drained s.last).1 = ⟨s.pool.signals.length⟩ ∧
    ∃ added, s.Extends ⟨(s.pool.drained s.last).2⟩ added ∧
      s.pool.signals.length < (s.pool.drained s.last).2.signals.length ∧
      (s.IsOpen s.last ∧ added = [.signal ⟨s.pool.signals.length⟩] ∧
          (s.pool.drained s.last).2.isResolved ⟨s.pool.signals.length⟩ = false ∨
        ¬s.IsOpen s.last ∧ added = [] ∧
          (s.pool.drained s.last).2.isResolved ⟨s.pool.signals.length⟩ = true) := by
  have hlength : s.pool.newSignal.2.signals.length = s.pool.signals.length + 1 := by
    simp [newSignal]
  have hresolved (t : SignalId) (ht : t.index < s.pool.signals.length) :
      s.pool.newSignal.2.isResolved t = s.pool.isResolved t := isResolved_append rfl ht
  obtain ⟨w, hw, -⟩ := exists_of_isHeld hheld
  cases hclosed : w.isClosed with
  | false =>
    obtain ⟨pool, hsubmit, hdrained⟩ := drained_of_open hw hclosed
    rw [hdrained]
    obtain ⟨-, -, -, hsame, -⟩ := station_submit hsubmit
    refine ⟨rfl, _, .submitted hheld hsubmit (fun _ ↦ rfl) (by omega) hresolved fun t ht ↦ ?_, ?_,
      .inl ⟨⟨w, hw, hclosed⟩, rfl, isResolved_new hsame⟩⟩
    · cases ht
      exact ⟨Nat.le_refl _, by rw [hlength]; exact Nat.lt_succ_self _⟩
    · rw [hsame, hlength]
      exact Nat.lt_succ_self _
  | true =>
    rw [drained_of_closed hw hclosed]
    have hlength' : (s.pool.newSignal.2.setSignal ⟨s.pool.signals.length⟩ .lost).signals.length =
        s.pool.signals.length + 1 := List.length_set.trans hlength
    refine ⟨rfl, [], ⟨by rw [hlength']; omega, fun t ht ↦ ?_,
      fun _ ht ↦ absurd ht List.not_mem_nil, List.nodup_nil, (Extends.refl s).station, .inl rfl⟩,
      by rw [hlength']; omega, .inr ⟨not_isOpen hw hclosed, rfl, ?_⟩⟩
    · rw [← hresolved t ht, isResolved, isResolved, signal, signal, setSignal,
        List.getElem?_set_ne (Nat.ne_of_gt ht)]
    · simp [isResolved, signal, setSignal, newSignal]

/-! ## A worker is started -/

theorem Sound.empty_of_new (h : s.Sound) :
    s.station ⟨s.pool.workers.length⟩ = ⟨none, [], []⟩ := by
  have hnone : (s.station ⟨s.pool.workers.length⟩).worker = none := worker?_new s.pool
  obtain ⟨hhanded, hrunning⟩ := (h.stations _).eq_nil_of_not_busy (by
    rw [Station.isBusy, hnone]
    rfl)
  calc s.station ⟨s.pool.workers.length⟩
      = ⟨(s.station _).worker, (s.station _).handed, (s.station _).running⟩ := rfl
    _ = ⟨none, [], []⟩ := by rw [hnone, hhanded, hrunning]

theorem Sound.station_start (h : s.Sound) (name : String) (predecessor : Option SignalId)
    (id : WorkerId) : (⟨(s.pool.start name predecessor).2⟩ : Succession α).station id =
      if id = ⟨s.pool.workers.length⟩ then ⟨some (.start name predecessor), [], []⟩
      else s.station id := by
  rw [station, WorkerPool.station_start]
  split
  · next hid => rw [hid, show s.pool.station _ = _ from h.empty_of_new]
  · rfl

/-- A worker is started that has to wait for nothing, or for the last job of the worker before
it. -/
theorem Sound.started (h : s.Sound) (name : String) {predecessor : Option SignalId}
    (hpredecessor : ∀ t, predecessor = some t → t.index < s.pool.signals.length ∧
      (s.pool.isResolved t = false → s.pool.workers.length = 0 ∧ t.index = 0 ∨
        ∃ c front, s.pool.workers.length = c.index + 1 ∧
          (s.station c).store = front ++ [.signal t])) :
    Sound ⟨(s.pool.start name predecessor).2⟩ := by
  have hstation := h.station_start name predecessor
  have hstore (id : WorkerId) :
      ((⟨(s.pool.start name predecessor).2⟩ : Succession α).station id).store =
        (s.station id).store := by
    rw [hstation]
    split
    · next hid => rw [hid, h.empty_of_new]; rfl
    · rfl
  refine
    { stations := fun id ↦ ?stations, emptied := fun id ↦ ?emptied,
      known := fun id t ht ↦ h.known id t (hstore id ▸ ht), once := fun id ↦ hstore id ▸ h.once id,
      apart := fun a b t ha hb ↦ h.apart a b t (hstore a ▸ ha) (hstore b ▸ hb),
      awaited := fun id t ht ↦ ?awaited, signalled := h.signalled }
  case stations =>
    rw [hstation]
    split
    · exact .started name predecessor
    · exact h.stations id
  case emptied =>
    rw [hstation]
    split
    · rintro _ ⟨⟩ _
      rfl
    · exact h.emptied id
  case awaited =>
    simp only [hstore]
    rw [hstation] at ht
    split at ht
    · next hid =>
      obtain ⟨w, hw, hc⟩ := ht
      cases hw
      have ht : predecessor = some t := by
        cases predecessor <;> cases hc
        rfl
      rw [hid]
      exact hpredecessor t ht
    · exact h.awaited id t ht

theorem sound_start (name : String) (waits : Bool) : (start name waits : Succession α).Sound := by
  have hempty : Sound ⟨(WorkerPool.empty : WorkerPool α).newSignal.2⟩ := by
    refine ⟨fun _ ↦ ⟨⟨rfl⟩, nofun⟩, nofun, nofun, fun _ ↦ List.nodup_nil, nofun, ?_, Nat.one_pos⟩
    rintro id t ⟨w, hw, -⟩
    cases hw
  refine hempty.started name fun t ht ↦ ?_
  split at ht <;> cases ht
  exact ⟨Nat.one_pos, fun _ ↦ .inl ⟨rfl, rfl⟩⟩

theorem Sound.succeed (h : s.Sound) (hheld : s.isHeld s.last = true) (name : String) :
    Sound ⟨s.succeed name⟩ := by
  obtain ⟨hsignal, added, he, hlength, hadded⟩ := exists_extends_drained hheld
  have hs := h.extend he
  rw [Succession.succeed]
  refine hs.started name fun t ht ↦ ?_
  obtain rfl : t = ⟨s.pool.signals.length⟩ := (Option.some.inj ht).symm.trans hsignal
  refine ⟨hlength, fun hpending ↦ .inr ?_⟩
  obtain ⟨-, rfl, -⟩ | ⟨-, -, hresolved⟩ := hadded
  · obtain ⟨w, hw, -⟩ := exists_of_isHeld hheld
    have hlt := index_lt hw
    refine ⟨s.last, (s.station s.last).store, ?_, by rw [he.store, if_pos rfl]⟩
    rw [he.workers, last_index] at *
    omega
  · rw [hresolved] at hpending
    cases hpending

/-! ## Runs -/

theorem Sound.step (h : s.Sound) (move : Move α) : (s.step move).Sound := by
  cases move with
  | submit a =>
    refine withHandle_of Sound h fun hheld ↦ ?_
    obtain ⟨added, he, -⟩ := exists_extends_offer hheld a
    exact h.extend he
  | mark =>
    refine withHandle_of Sound h fun hheld ↦ ?_
    obtain ⟨-, added, he, -⟩ := exists_extends_drained hheld
    exact h.extend he
  | succeed name => exact withHandle_of Sound h fun hheld ↦ h.succeed hheld name
  | shutdown id => exact withHandle_of Sound h fun _ ↦ h.lessen (h.lessens_shutdown id)
  | retain id => exact withHandle_of Sound h fun hheld ↦ h.lessen (h.lessens_retain hheld)
  | release id => exact withHandle_of Sound h fun _ ↦ h.lessen (h.lessens_release id)
  | resolve fired => exact h.lessen (h.lessens_resolve fired)
  | poll id => exact h.lessen (h.lessens_poll id)
  | begin id => exact h.lessen (h.lessens_begin id)
  | finish id => exact h.lessen (h.lessens_finish id)

theorem Sound.run (h : s.Sound) (moves : List (Move α)) : (s.run moves).Sound := by
  induction moves generalizing s with
  | nil => exact h
  | cons move moves ih => exact ih (h.step move)

end Succession

end CodeHints
