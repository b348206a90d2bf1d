import CodeHints.Proofs.Pool.Station

/-!
# Signals between the workers of a pool

A worker that takes the place of another one waits until the other one has drained. The signal it
waits for stands as the last job in the line of the other worker, so the workers form chains. What
keeps such a chain from breaking is `Linked`: every signal that somebody waits for, or may have to
wait for later, stands in the line of exactly one worker until it is fired, and this worker was
started before the one that waits.

The invariant speaks of lines and signals only. `Linked.of_same` therefore serves all steps that
move jobs about within a line, and what is left are three steps with a lemma each: a signal is
fired, a signal is appended, and a worker is started.
-/

namespace CodeHints

namespace WorkerPool

variable {α : Type}

theorem mem_signalsOf {jobs : List (Job α)} {s : SignalId} :
    s ∈ signalsOf jobs ↔ .signal s ∈ jobs := by
  rw [signalsOf, List.mem_filterMap]
  constructor
  · rintro ⟨job, hmem, hjob⟩
    cases job with
    | signal t => cases hjob; exact hmem
    | task a => cases hjob
  · intro hmem
    exact ⟨_, hmem, rfl⟩

theorem signalsOf_append (jobs more : List (Job α)) :
    signalsOf (jobs ++ more) = signalsOf jobs ++ signalsOf more := List.filterMap_append

@[simp] theorem signalsOf_task (a : α) : signalsOf [Job.task a] = [] := rfl

@[simp] theorem signalsOf_signal (s : SignalId) : signalsOf [(Job.signal s : Job α)] = [s] := rfl

/-! ## What has become of a signal -/

theorem isResolved_eq_false {p : WorkerPool α} {s : SignalId} :
    p.isResolved s = false ↔ p.signals[s.index]? = some .pending := by
  rw [isResolved, signal]
  cases h : p.signals[s.index]? with
  | none => simp
  | some state => simp

theorem isResolved_congr {p p' : WorkerPool α} (h : p'.signals = p.signals) (s : SignalId) :
    p'.isResolved s = p.isResolved s := by
  rw [isResolved, isResolved, signal, signal, h]

/-- A signal that is fired or lost is not waited for any more, and the others are as before. -/
theorem pending_set {p p' : WorkerPool α} {s : SignalId} {state : SignalState}
    (h : p'.signals = p.signals.set s.index state) (hstate : state ≠ .pending) (t : SignalId) :
    p'.isResolved t = false ↔ t ≠ s ∧ p.isResolved t = false := by
  rw [isResolved_eq_false, isResolved_eq_false, h, List.getElem?_set]
  by_cases hst : s.index = t.index
  · have heq : t = s := by
      cases s
      cases t
      exact congrArg _ hst.symm
    rw [if_pos hst]
    refine ⟨fun ht ↦ ?_, fun ht ↦ absurd heq ht.1⟩
    split at ht
    · exact absurd (Option.some.inj ht) hstate
    · cases ht
  · rw [if_neg hst]
    exact ⟨fun ht ↦ ⟨fun e ↦ hst (congrArg _ e.symm), ht⟩, fun ht ↦ ht.2⟩

theorem pending_fired {p p' : WorkerPool α} {s : SignalId}
    (h : p'.signals = p.signals.set s.index .fired) (t : SignalId) :
    p'.isResolved t = false ↔ t ≠ s ∧ p.isResolved t = false := pending_set h nofun t

theorem pending_polled (p : WorkerPool α) (i : WorkerId) (t : SignalId) :
    (p.poll i).2.isResolved t = false ↔ .signal t ∉ (p.poll i).1 ∧ p.isResolved t = false := by
  have hlose (lost : List SignalId) (p : WorkerPool α) :
      isResolved { p with signals := lose p.signals lost } t = false ↔
        t ∉ lost ∧ p.isResolved t = false := by
    induction lost generalizing p with
    | nil => exact (and_iff_right List.not_mem_nil).symm
    | cons signal rest ih =>
      have hlost : (p.setSignal signal .lost).signals = p.signals.set signal.index .lost := rfl
      have hset := pending_set hlost nofun t
      rw [List.mem_cons, not_or, and_assoc, and_left_comm, ← hset]
      exact ih (p.setSignal signal .lost)
  rw [← mem_signalsOf, ← hlose, isResolved_congr]
  exact p.signals_poll i

theorem pending_begun {p p' : WorkerPool α} {i : WorkerId} {job : Job α}
    (h : p.begin? i = some (job, p')) (t : SignalId) :
    p'.isResolved t = false ↔ job ≠ .signal t ∧ p.isResolved t = false := by
  obtain ⟨-, -, hsignals⟩ := begin?_spec h
  cases job with
  | task a =>
    rw [isResolved_congr hsignals]
    refine ⟨fun ht ↦ ⟨fun e ↦ ?_, ht⟩, fun ht ↦ ht.2⟩
    cases e
  | signal s =>
    rw [pending_fired hsignals]
    exact and_congr_left' (not_congr ⟨fun e ↦ congrArg _ e.symm, fun e ↦ (Job.signal.inj e).symm⟩)

/-- A new signal changes nothing about those that were there. -/
theorem isResolved_append {p p' : WorkerPool α} {t : SignalId}
    (h : p'.signals = p.signals ++ [.pending]) (hknown : t.index < p.signals.length) :
    p'.isResolved t = p.isResolved t := by
  rw [isResolved, isResolved, signal, signal, h, List.getElem?_append_left hknown]

theorem isResolved_new {p p' : WorkerPool α} (h : p'.signals = p.signals ++ [.pending]) :
    p'.isResolved ⟨p.signals.length⟩ = false := by
  rw [isResolved_eq_false, h]
  simp

/-! ## The signals in a line -/

/-- The signals that a worker will still fire. -/
def signalsIn (p : WorkerPool α) (id : WorkerId) : List SignalId := signalsOf (p.station id).line

/-- Every signal that matters stands in the line of one worker until it is fired. The list `spare`
holds the signals for which workers that are not yet started will have to wait. -/
structure Linked (p : WorkerPool α) (spare : List SignalId) : Prop where
  known : ∀ id, ∀ s ∈ p.signalsIn id, s.index < p.signals.length
  once : ∀ id, (p.signalsIn id).Nodup
  apart : ∀ a b s, s ∈ p.signalsIn a → s ∈ p.signalsIn b → a = b
  awaited : ∀ id s, (p.station id).Awaits s → s.index < p.signals.length ∧
    (p.isResolved s = false → ∃ c, c.index < id.index ∧ s ∈ p.signalsIn c)
  spared : ∀ s ∈ spare, s.index < p.signals.length ∧
    (p.isResolved s = false → ∃ c, s ∈ p.signalsIn c)

namespace Linked

variable {p p' : WorkerPool α} {spare spare' : List SignalId}

theorem empty : Linked (WorkerPool.empty : WorkerPool α) [] := by
  refine ⟨?_, ?_, ?_, ?_, ?_⟩
  · intro id s h; cases h
  · intro id; exact List.nodup_nil
  · intro a b s h; cases h
  · rintro id s ⟨w, hw, -⟩; cases hw
  · intro s h; cases h

theorem of_same (h : p.Linked spare) (hsignals : p'.signals = p.signals)
    (hlines : ∀ id, p'.signalsIn id = p.signalsIn id)
    (hawaits : ∀ id s, (p'.station id).Awaits s → (p.station id).Awaits s)
    (hspare : ∀ s ∈ spare', s ∈ spare) : p'.Linked spare' := by
  refine ⟨?_, ?_, ?_, ?_, ?_⟩
  · intro id s hs
    rw [hsignals]
    exact h.known id s (hlines id ▸ hs)
  · intro id
    rw [hlines]
    exact h.once id
  · intro a b s ha hb
    exact h.apart a b s (hlines a ▸ ha) (hlines b ▸ hb)
  · intro id s hs
    rw [hsignals, isResolved_congr hsignals]
    simp only [hlines]
    exact h.awaited id s (hawaits id s hs)
  · intro s hs
    rw [hsignals, isResolved_congr hsignals]
    simp only [hlines]
    exact h.spared s (hspare s hs)

theorem fired (h : p.Linked spare) {i : WorkerId} {s : SignalId} {rest : List SignalId}
    (hsignals : p'.signals = p.signals.set s.index .fired)
    (hline : p.signalsIn i = s :: rest)
    (hlines : ∀ id, p'.signalsIn id = if id = i then rest else p.signalsIn id)
    (hawaits : ∀ id s, (p'.station id).Awaits s → (p.station id).Awaits s) :
    p'.Linked spare := by
  have hlength : p'.signals.length = p.signals.length := by rw [hsignals, List.length_set]
  -- one signal is taken out of one line, and the others stay
  have hsub (id : WorkerId) (t : SignalId) (ht : t ∈ p'.signalsIn id) : t ∈ p.signalsIn id := by
    rw [hlines] at ht
    split at ht
    · next hid => rw [hid, hline]; exact List.mem_cons_of_mem _ ht
    · exact ht
  have hkeep (id : WorkerId) (t : SignalId) (hne : t ≠ s) (ht : t ∈ p.signalsIn id) :
      t ∈ p'.signalsIn id := by
    rw [hlines]
    split
    · next hid =>
      rw [hid, hline, List.mem_cons] at ht
      exact ht.resolve_left hne
    · exact ht
  refine ⟨?_, ?_, ?_, ?_, ?_⟩
  · intro id t ht
    rw [hlength]
    exact h.known id t (hsub id t ht)
  · intro id
    rw [hlines]
    split
    · have honce := h.once i
      rw [hline, List.nodup_cons] at honce
      exact honce.2
    · exact h.once id
  · intro a b t ha hb
    exact h.apart a b t (hsub a t ha) (hsub b t hb)
  · intro id t ht
    rw [hlength]
    refine ⟨(h.awaited id t (hawaits id t ht)).1, fun hpending ↦ ?_⟩
    obtain ⟨hne, hbefore⟩ := (pending_fired hsignals t).mp hpending
    obtain ⟨c, hc, hmem⟩ := (h.awaited id t (hawaits id t ht)).2 hbefore
    exact ⟨c, hc, hkeep c t hne hmem⟩
  · intro t ht
    rw [hlength]
    refine ⟨(h.spared t ht).1, fun hpending ↦ ?_⟩
    obtain ⟨hne, hbefore⟩ := (pending_fired hsignals t).mp hpending
    obtain ⟨c, hmem⟩ := (h.spared t ht).2 hbefore
    exact ⟨c, hkeep c t hne hmem⟩

theorem appended (h : p.Linked spare) {i : WorkerId}
    (hsignals : p'.signals = p.signals ++ [.pending])
    (hlines : ∀ id, p'.signalsIn id =
      if id = i then p.signalsIn id ++ [⟨p.signals.length⟩] else p.signalsIn id)
    (hawaits : ∀ id s, (p'.station id).Awaits s → (p.station id).Awaits s)
    (hspare : ∀ s ∈ spare', s ∈ spare ∨ s = ⟨p.signals.length⟩) : p'.Linked spare' := by
  have hlength : p'.signals.length = p.signals.length + 1 := by rw [hsignals]; simp
  have hkeep (id : WorkerId) (t : SignalId) (ht : t ∈ p.signalsIn id) : t ∈ p'.signalsIn id := by
    rw [hlines]
    split
    · exact List.mem_append_left _ ht
    · exact ht
  have hsplit (id : WorkerId) (t : SignalId) (ht : t ∈ p'.signalsIn id) :
      t ∈ p.signalsIn id ∨ (id = i ∧ t = ⟨p.signals.length⟩) := by
    rw [hlines] at ht
    split at ht
    · next hid => exact (List.mem_append.mp ht).imp_right fun e ↦ ⟨hid, List.mem_singleton.mp e⟩
    · exact .inl ht
  -- the new signal stood in no line before
  have hnew (id : WorkerId) : (⟨p.signals.length⟩ : SignalId) ∉ p.signalsIn id := fun hmem ↦
    Nat.lt_irrefl _ (h.known id _ hmem)
  refine ⟨?_, ?_, ?_, ?_, ?_⟩
  · intro id t ht
    rw [hlength]
    obtain hold | ⟨-, rfl⟩ := hsplit id t ht
    · exact Nat.lt_succ_of_lt (h.known id t hold)
    · exact Nat.lt_succ_self _
  · intro id
    rw [hlines]
    split
    · rw [List.nodup_append]
      refine ⟨h.once id, List.nodup_cons.mpr ⟨List.not_mem_nil, List.nodup_nil⟩, ?_⟩
      intro a ha b hb
      rw [List.mem_singleton] at hb
      rintro rfl
      exact hnew id (hb ▸ ha)
    · exact h.once id
  · intro a b t ha hb
    obtain ha | ⟨rfl, rfl⟩ := hsplit a t ha
    · obtain hb | ⟨-, rfl⟩ := hsplit b t hb
      · exact h.apart a b t ha hb
      · exact absurd ha (hnew a)
    · obtain hb | ⟨rfl, -⟩ := hsplit b _ hb
      · exact absurd hb (hnew b)
      · rfl
  · intro id t ht
    obtain ⟨hknown, hlink⟩ := h.awaited id t (hawaits id t ht)
    refine ⟨by rw [hlength]; exact Nat.lt_succ_of_lt hknown, fun hpending ↦ ?_⟩
    rw [isResolved_append hsignals hknown] at hpending
    obtain ⟨c, hc, hmem⟩ := hlink hpending
    exact ⟨c, hc, hkeep c t hmem⟩
  · intro t ht
    obtain hold | rfl := hspare t ht
    · obtain ⟨hknown, hlink⟩ := h.spared t hold
      refine ⟨by rw [hlength]; exact Nat.lt_succ_of_lt hknown, fun hpending ↦ ?_⟩
      rw [isResolved_append hsignals hknown] at hpending
      obtain ⟨c, hmem⟩ := hlink hpending
      exact ⟨c, hkeep c t hmem⟩
    · refine ⟨by rw [hlength]; exact Nat.lt_succ_self _, fun _ ↦ ⟨i, ?_⟩⟩
      rw [hlines, if_pos rfl]
      exact List.mem_append_right _ (List.mem_singleton.mpr rfl)

/-- A worker is started, and waits for a signal that was kept for it. -/
theorem started (h : p.Linked spare) {name : String} {predecessor : Option SignalId}
    (hbelow : ∀ c, p.signalsIn c ≠ [] → c.index < p.workers.length)
    (hpredecessor : ∀ s, predecessor = some s → s ∈ spare) (hspare : ∀ s ∈ spare', s ∈ spare) :
    (p.start name predecessor).2.Linked spare' := by
  have hlines (id : WorkerId) : (p.start name predecessor).2.signalsIn id = p.signalsIn id := by
    rw [signalsIn, station_start]
    split
    · next hid =>
      have hnone : (p.station id).worker = none := by rw [hid]; exact worker?_new p
      simp [signalsIn, Station.line, hnone, SerialWorker.upcoming, SerialWorker.start]
    · rfl
  refine ⟨?_, ?_, ?_, ?_, ?_⟩
  · intro id s hs
    exact h.known id s (hlines id ▸ hs)
  · intro id
    rw [hlines]
    exact h.once id
  · intro a b s ha hb
    exact h.apart a b s (hlines a ▸ ha) (hlines b ▸ hb)
  · intro id s hs
    simp only [hlines]
    rw [station_start] at hs
    split at hs
    · next hid =>
      obtain ⟨w, hw, hc⟩ := hs
      obtain rfl := Option.some.inj hw
      have hs : predecessor = some s := by
        cases predecessor with
        | none => cases hc
        | some t => cases hc; rfl
      obtain ⟨hknown, hlink⟩ := h.spared s (hpredecessor s hs)
      refine ⟨hknown, fun hpending ↦ ?_⟩
      obtain ⟨c, hc⟩ := hlink hpending
      rw [hid]
      exact ⟨c, hbelow c (List.ne_nil_of_mem hc), hc⟩
    · exact h.awaited id s hs
  · intro s hs
    simp only [hlines]
    exact h.spared s (hspare s hs)

/-! ## Steps of the workers -/

theorem signalsIn_begun {i : WorkerId} {job : Job α} (hsound : (p.station i).Sound)
    (h : p.begin? i = some (job, p')) (id : WorkerId) :
    p.signalsIn id = (if id = i then signalsOf [job] else []) ++ p'.signalsIn id := by
  obtain ⟨hhead, hstation, -⟩ := begin?_spec h
  rw [signalsIn, signalsIn, hstation]
  split
  · next hid =>
    subst hid
    rw [hsound.line_of_handed hhead]
    exact signalsOf_append [job] _
  · rfl

theorem begun (h : p.Linked spare) {i : WorkerId} {job : Job α} (hsound : (p.station i).Sound)
    (hbegin : p.begin? i = some (job, p')) : p'.Linked spare := by
  obtain ⟨-, hstation, hsignals⟩ := begin?_spec hbegin
  have hlines := signalsIn_begun hsound hbegin
  have hawaits (id : WorkerId) (s : SignalId) (hs : (p'.station id).Awaits s) :
      (p.station id).Awaits s := by
    rw [hstation] at hs
    split at hs <;> exact hs
  cases job with
  | task a =>
    refine h.of_same hsignals (fun id ↦ ?_) hawaits fun s hs ↦ hs
    rw [hlines id, signalsOf_task, ite_self, List.nil_append]
  | signal s =>
    have hline : p.signalsIn i = s :: p'.signalsIn i := by
      rw [hlines i, if_pos rfl, signalsOf_signal, List.singleton_append]
    refine h.fired hsignals hline (fun id ↦ ?_) hawaits
    · split
      · next hid => rw [hid]
      · next hid => rw [hlines id, if_neg hid, List.nil_append]

/-- Whether a turn drops signals: not if the workers that were shut down hold none. -/
theorem signalsOf_poll {i : WorkerId} (hclosed : ∀ w, (p.station i).worker = some w →
      w.isClosed = true → signalsOf w.queue = []) : signalsOf (p.poll i).1 = [] := by
  rw [poll_dropped]
  have hspec := (p.station i).polled_spec p.isResolved
  generalize (Station.polled p.isResolved (p.station i)).1 = dropped at *
  generalize (Station.polled p.isResolved (p.station i)).2 = st at *
  cases hspec with
  | stopped w hw closed _ => exact hclosed w hw closed
  | _ => rfl

theorem polled (h : p.Linked spare) {i : WorkerId} (hclosed : ∀ w, (p.station i).worker = some w →
    w.isClosed = true → signalsOf w.queue = []) : (p.poll i).2.Linked spare := by
  have hspec := (p.station i).polled_spec p.isResolved
  refine h.of_same (poll_signals p i (signalsOf_poll hclosed)) (fun id ↦ ?_) (fun id s hs ↦ ?_)
    fun s hs ↦ hs
  · rw [signalsIn, signalsIn, station_poll]
    split
    · next hid => rw [hid, hspec.line_eq]
    · rfl
  · rw [station_poll] at hs
    split at hs
    · next hid =>
      subst hid
      exact hspec.awaits hs
    · exact hs

theorem finished (h : p.Linked spare) (i : WorkerId) : (p.finish i).Linked spare := by
  refine h.of_same (finish_signals p i) (fun id ↦ ?_) (fun id s hs ↦ ?_) fun s hs ↦ hs
  · rw [signalsIn, signalsIn, station_finish]
    split
    · rw [Station.finished_line]
    · rfl
  · rw [station_finish] at hs
    split at hs
    · exact Station.finished_awaits hs
    · exact hs

end Linked

end WorkerPool

end CodeHints
