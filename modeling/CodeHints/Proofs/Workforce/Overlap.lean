import CodeHints.Proofs.Workforce.Sound

/-!
# One job of a window at a time

The jobs of a window are spread over all workers that were ever started for it. A worker runs one
job at a time, so what has to be shown is that the workers of a window do not run jobs at once.

## The invariant

`Ordered` says that the workers of a window come to their jobs in the order in which they were
started. As long as a worker has a task that has not ended, every later worker of the window that
has something to do, or that may be given something to do, waits for a signal. The signal stands at
the end of the line of some worker in between, behind all those tasks. When it is fired, nothing is
left of them.

## Careful moves

Two moves can break the order. A removal forgets the signals on which the order rests, which does
no harm if there is nothing left to wait for. A submission to a worker that the registry has let go
puts a task behind the signal, where nobody waits for it. `IsCareful` excludes just this, and a run
of careful moves keeps the order.
-/

namespace CodeHints

/-- Whether a job answers a request of a window. -/
def Job.isFor {κ : Type} (window : WindowKey) : Job (Inquiry κ) → Bool
  | .task inquiry => inquiry.ask.window = window
  | .signal _ => false

namespace Workforce

variable {κ : Type} {s s' : Workforce κ} {window : WindowKey}

/-- No two jobs of a window are being run. -/
def AtMostOne (s : Workforce κ) : Prop :=
  ∀ window, s.pool.running.countP (·.2.isFor window) ≤ 1

/-- A removal is careful if it leaves no request of the window behind, and a submission if it goes
to the worker that the registry has for the window, or is refused. -/
def IsCareful (s : Workforce κ) : Move κ → Prop
  | .remove window => ∀ id, (s.remove window).Serves id window → ¬ (s.remove window).HasTask id
  | .submit index => ∀ inquiry id, s.held[index]? = some (inquiry, id) →
      ∀ w, (s.station id).worker = some w → w.isClosed = false →
        s.registry.workers.lookup inquiry.ask.window = some id
  | _ => True

/-- Every move is careful in the state in which it is made. -/
def CarefulFrom : Workforce κ → List (Move κ) → Prop
  | _, [] => True
  | s, move :: moves => s.IsCareful move ∧ (s.step move).CarefulFrom moves

theorem carefulFrom_append {moves more : List (Move κ)} :
    s.CarefulFrom (moves ++ more) ↔ s.CarefulFrom moves ∧ (s.run moves).CarefulFrom more := by
  induction moves generalizing s with
  | nil => simp [CarefulFrom]
  | cons move moves ih => simp [CarefulFrom, ih, and_assoc]

/-! ## The order of the workers of a window -/

/-- The worker waits for a signal that has not been fired. -/
def Waits (s : Workforce κ) (id : WorkerId) : Prop :=
  ∃ t, (s.station id).Awaits t ∧ s.pool.isResolved t = false

/-- A signal stands at the end of the line of a worker, and all tasks of the window among some of
its workers belong to this worker or to earlier ones. -/
structure Closes (s : Workforce κ) (window : WindowKey) (among : WorkerId → Prop) (t : SignalId)
    (c : WorkerId) : Prop where
  serves : s.Serves c window
  last : ∃ front, (s.station c).line = front ++ [.signal t]
  upTo : ∀ d, s.Serves d window → among d → s.HasTask d → d.index ≤ c.index

/-- The workers of a window come to their jobs one after the other. -/
structure Ordered (s : Workforce κ) (window : WindowKey) : Prop where
  behind : ∀ a b, s.Serves a window → s.Serves b window → a.index < b.index → s.HasTask a →
    (¬ (s.station b).IsSpent ∨ (window, b) ∈ s.registry.workers) → s.Waits b
  chained : ∀ b t, s.Serves b window → (s.station b).Awaits t → s.pool.isResolved t = false →
    ∃ c, c.index < b.index ∧ s.Closes window (·.index < b.index) t c
  retired : ∀ t, (window, t) ∈ s.registry.retiring → s.pool.isResolved t = false →
    ∃ c, s.Closes window (fun _ ↦ True) t c
  unmanned : s.registry.workers.lookup window = none →
    (∀ d, s.Serves d window → ¬ s.HasTask d) ∨
      ∃ t, s.registry.retiring.lookup window = some t ∧ s.pool.isResolved t = false
  latest : ∀ b, (window, b) ∈ s.registry.workers → ∀ d, s.Serves d window → d.index ≤ b.index
  manned : ∀ t b, (window, t) ∈ s.registry.retiring → (window, b) ∉ s.registry.workers

/-- A worker that waits has neither handed over nor begun a job. -/
theorem Sound.idle_of_waits (h : s.Sound) {id : WorkerId} (hwaits : s.Waits id) :
    (s.station id).handed = [] ∧ (s.station id).running = [] := by
  obtain ⟨t, ht, -⟩ := hwaits
  exact (h.station id).eq_nil_of_awaits ht

/-- **The order excludes overlaps.** Of two workers of a window that run tasks the later one would
have to wait. -/
theorem Sound.atMostOne (h : s.Sound) (hordered : ∀ window, s.Ordered window) : s.AtMostOne := by
  intro window
  -- a job of the window sits on a worker of the window
  have hat (a : WorkerId) (job : Job (Inquiry κ)) (hmem : (a, job) ∈ s.pool.running)
      (hfor : job.isFor window = true) :
      s.Serves a window ∧ s.HasTask a ∧ (s.station a).running ≠ [] := by
    cases job with
    | signal t => cases hfor
    | task inquiry =>
      have hrunning : .task inquiry ∈ (s.station a).running := WorkerPool.mem_jobsAt.mpr hmem
      have hunfinished := List.mem_append_left (s.station a).line hrunning
      have hplaced := h.placed a inquiry hunfinished
      rw [of_decide_eq_true hfor] at hplaced
      exact ⟨hplaced, ⟨inquiry, hunfinished⟩, List.ne_nil_of_mem hrunning⟩
  -- of two workers that run such jobs the later one would have to wait
  have hnot (a b : WorkerId) (x y : Job (Inquiry κ)) (ha : (a, x) ∈ s.pool.running)
      (hb : (b, y) ∈ s.pool.running) (hx : x.isFor window = true) (hy : y.isFor window = true) :
      ¬ a.index < b.index := by
    intro hlt
    obtain ⟨hserves, htask, -⟩ := hat a x ha hx
    obtain ⟨hserves', -, hrunning⟩ := hat b y hb hy
    have hwaits := (hordered window).behind a b hserves hserves' hlt htask
      (.inl fun hspent ↦ hrunning (List.append_eq_nil_iff.mp hspent).1)
    exact hrunning (h.idle_of_waits hwaits).2
  -- so all jobs of the window are run by one worker, which runs at most one job
  cases hcount : s.pool.running.countP (·.2.isFor window) with
  | zero => exact Nat.zero_le _
  | succ n =>
    obtain ⟨⟨a, x⟩, ha, hx⟩ := List.countP_pos_iff.mp
      (show 0 < s.pool.running.countP (·.2.isFor window) by omega)
    have hsame : s.pool.running.countP (·.2.isFor window) ≤
        s.pool.running.countP (·.1 = a) := by
      refine List.countP_mono_left fun y hy hfor ↦ ?_
      have hle := hnot a y.1 x y.2 ha hy hx hfor
      have hge := hnot y.1 a y.2 x hy ha hfor hx
      have hindex : y.1.index = a.index := by omega
      obtain ⟨⟨i⟩, job⟩ := y
      obtain ⟨j⟩ := a
      simpa using hindex
    have hone : s.pool.running.countP (·.1 = a) ≤ 1 := by
      rw [List.countP_eq_length_filter, ← List.length_map (f := (·.2))]
      exact (h.station a).running_le
    omega

/-! ## Moves that do not touch the order -/

/-- What closes a line goes on to do so as long as it stays there and no task is added. -/
theorem Closes.carry {among among' : WorkerId → Prop} {t : SignalId} {c : WorkerId}
    (hc : s.Closes window among t c) (hserves : s'.Serves c window)
    (hlast : ∀ front, (s.station c).line = front ++ [.signal t] →
      ∃ front, (s'.station c).line = front ++ [.signal t])
    (htask : ∀ d, s'.Serves d window → among' d → s'.HasTask d →
      s.Serves d window ∧ among d ∧ s.HasTask d) : s'.Closes window among' t c := by
  obtain ⟨front, hfront⟩ := hc.last
  refine ⟨hserves, hlast front hfront, fun d hd hamong hd' ↦ ?_⟩
  obtain ⟨hserved, hamong, htask⟩ := htask d hd hamong hd'
  exact hc.upTo d hserved hamong htask

/-- **The frame of the order.** The order of a window rests on the lines and signals of the workers
of this window, and on what the registry has for it. -/
private theorem Ordered.frame (h : s.Ordered window) (hsound : s.Sound)
    (hserves : ∀ id, s'.Serves id window ↔ s.Serves id window)
    (hwithin : ∀ id, s.Serves id window → (s'.station id).Within (s.station id))
    (hwaits : ∀ id t, s.Serves id window → (s.station id).Awaits t →
      s.pool.isResolved t = false → (s'.station id).Awaits t ∨
        ((s'.station id).IsSpent ∧ (window, id) ∉ s.registry.workers))
    (hresolved : ∀ t : SignalId, t.index < s.pool.signals.length →
      s'.pool.isResolved t = s.pool.isResolved t)
    (hworkers : Registry.SameAt window s.registry.workers s'.registry.workers)
    (hretiring : Registry.SameAt window s.registry.retiring s'.registry.retiring) :
    s'.Ordered window := by
  have htask {id : WorkerId} (hid : s.Serves id window) : s'.HasTask id → s.HasTask id := by
    rintro ⟨inquiry, hmem⟩
    exact ⟨inquiry, (hwithin id hid).unfinished hmem⟩
  -- the signals that the registry keeps are among those that were made
  have hspared {t : SignalId} (ht : (window, t) ∈ s.registry.retiring) :
      t.index < s.pool.signals.length :=
    (hsound.linked.spared t (List.mem_map.mpr ⟨_, ht, rfl⟩)).1
  have hcloses {among : WorkerId → Prop} {t : SignalId} {c : WorkerId}
      (hc : s.Closes window among t c) : s'.Closes window among t c := by
    refine hc.carry ((hserves c).mpr hc.serves) (fun front hfront ↦ ⟨front, ?_⟩)
      fun d hd hamong hd' ↦ ?_
    · rw [(hwithin c hc.serves).line, hfront]
    · have hserved := (hserves d).mp hd
      exact ⟨hserved, hamong, htask hserved hd'⟩
  refine ⟨?_, ?_, ?_, ?_, ?_, ?_⟩
  · intro a b ha hb hlt ha' hactive
    rw [hserves] at ha hb
    rw [hworkers.mem] at hactive
    obtain ⟨t, ht, hpending⟩ := h.behind a b ha hb hlt (htask ha ha')
      (hactive.imp_left fun hnot hspent ↦ hnot ((hwithin b hb).isSpent hspent))
    obtain ht' | ⟨hspent, hnone⟩ := hwaits b t hb ht hpending
    · have hknown := (hsound.linked.awaited b t ht).1
      exact ⟨t, ht', by rw [hresolved t hknown]; exact hpending⟩
    · exact (hactive.elim (fun hnot ↦ hnot hspent) hnone).elim
  · intro b t hb ht hpending
    rw [hserves] at hb
    have ht' := (hwithin b hb).awaits t ht
    rw [hresolved t (hsound.linked.awaited b t ht').1] at hpending
    obtain ⟨c, hlt, hc⟩ := h.chained b t hb ht' hpending
    exact ⟨c, hlt, hcloses hc⟩
  · intro t ht hpending
    rw [hretiring.mem] at ht
    rw [hresolved t (hspared ht)] at hpending
    obtain ⟨c, hc⟩ := h.retired t ht hpending
    exact ⟨c, hcloses hc⟩
  · intro hnone
    rw [hworkers.lookup] at hnone
    refine (h.unmanned hnone).imp ?_ ?_
    · intro hidle d hd hd'
      rw [hserves] at hd
      exact hidle d hd (htask hd hd')
    · rintro ⟨t, ht, hpending⟩
      refine ⟨t, hretiring.lookup.trans ht, ?_⟩
      rw [hresolved t (hspared (Registry.mem_of_lookup ht))]
      exact hpending
  · intro b hb d hd
    exact h.latest b ((hworkers.mem b).mp hb) d ((hserves d).mp hd)
  · intro t b ht hb
    exact h.manned t b ((hretiring.mem t).mp ht) ((hworkers.mem b).mp hb)

private theorem Ordered.of_within {pool : WorkerPool (Inquiry κ)}
    {held : List (Inquiry κ × WorkerId)} (h : s.Ordered window) (hsound : s.Sound)
    (hwithin : ∀ id, (pool.station id).Within (s.station id))
    (hwaits : ∀ id t, (s.station id).Awaits t → s.pool.isResolved t = false →
      (pool.station id).Awaits t ∨
        ((pool.station id).IsSpent ∧ (window, id) ∉ s.registry.workers))
    (hsignals : pool.signals = s.pool.signals) : Ordered ⟨s.registry, pool, held⟩ window :=
  h.frame hsound (fun id ↦ serves_congr (hwithin id).name) (fun id _ ↦ hwithin id)
    (fun id t _ ↦ hwaits id t) (fun t _ ↦ WorkerPool.isResolved_congr hsignals t)
    (.refl window _) (.refl window _)

private theorem Ordered.elsewhere (h : s.Ordered window) (hsound : s.Sound)
    (hserves : ∀ id, s'.Serves id window → s.Serves id window)
    (hkept : ∀ id, s.Serves id window → s'.station id = s.station id)
    (hresolved : ∀ t : SignalId, t.index < s.pool.signals.length →
      s'.pool.isResolved t = s.pool.isResolved t)
    (hworkers : Registry.SameAt window s.registry.workers s'.registry.workers)
    (hretiring : Registry.SameAt window s.registry.retiring s'.registry.retiring) :
    s'.Ordered window := by
  refine h.frame hsound (fun id ↦ ⟨hserves id, fun hid ↦ ?_⟩) (fun id hid ↦ ?_)
    (fun id t hid ht _ ↦ .inl ?_) hresolved hworkers hretiring
  · have hsame := hkept id hid
    obtain ⟨w, hw, hname⟩ := hid
    exact ⟨w, by rw [hsame]; exact hw, hname⟩
  · rw [hkept id hid]
    exact .refl _
  · rw [hkept id hid]
    exact ht

private theorem Ordered.touch_other {i : WorkerId} {other : WindowKey}
    {f : SerialWorker (Inquiry κ) → SerialWorker (Inquiry κ)} (h : s.Ordered window)
    (hsound : s.Sound) (htouches : s.Touches s' i f) (hi : s.Serves i other)
    (hother : window ≠ other)
    (hresolved : ∀ t : SignalId, t.index < s.pool.signals.length →
      s'.pool.isResolved t = s.pool.isResolved t)
    (hworkers : Registry.SameAt window s.registry.workers s'.registry.workers)
    (hretiring : Registry.SameAt window s.registry.retiring s'.registry.retiring) :
    s'.Ordered window := by
  refine h.elsewhere hsound (fun id ↦ htouches.serves.mp) (fun id hid ↦ ?_) hresolved hworkers
    hretiring
  refine htouches.other ?_
  rintro rfl
  exact hother (hid.unique hi)

/-- The worker is changed that the registry has for the window. It is the last one, so nobody is
behind it, and the order of those before it is not concerned. -/
private theorem Ordered.touch_last {i : WorkerId}
    {f : SerialWorker (Inquiry κ) → SerialWorker (Inquiry κ)} (h : s.Ordered window)
    (hsound : s.Sound) (htouches : s.Touches s' i f) (hlive : (window, i) ∈ s.registry.workers)
    (hresolved : ∀ t : SignalId, t.index < s.pool.signals.length →
      s'.pool.isResolved t = s.pool.isResolved t)
    (hworkers : ∀ b, (window, b) ∈ s'.registry.workers → (window, b) ∈ s.registry.workers)
    (hretired : ∀ t, (window, t) ∈ s'.registry.retiring → s'.pool.isResolved t = false →
      ∃ c, s'.Closes window (fun _ ↦ True) t c)
    (hunmanned : s'.registry.workers.lookup window = none →
      (∀ d, s'.Serves d window → ¬ s'.HasTask d) ∨
        ∃ t, s'.registry.retiring.lookup window = some t ∧ s'.pool.isResolved t = false)
    (hmanned : ∀ t b, (window, t) ∈ s'.registry.retiring → (window, b) ∉ s'.registry.workers) :
    s'.Ordered window := by
  -- the workers that somebody of the window is behind are left alone
  have hbefore {d b : WorkerId} (hb : s.Serves b window) (hlt : d.index < b.index) : d ≠ i := by
    rintro rfl
    exact Nat.not_lt_of_le (h.latest d hlive b hb) hlt
  have hknown {b : WorkerId} {t : SignalId} (ht : (s.station b).Awaits t) :
      s'.pool.isResolved t = s.pool.isResolved t :=
    hresolved t (hsound.linked.awaited b t ht).1
  refine ⟨?_, ?_, hretired, hunmanned, ?_, hmanned⟩
  · intro a b ha hb hlt ha' hactive
    rw [htouches.serves] at ha hb
    have hactive' : ¬ (s.station b).IsSpent ∨ (window, b) ∈ s.registry.workers := by
      by_cases hbi : b = i
      · exact .inr (hbi ▸ hlive)
      · rw [htouches.other hbi] at hactive
        exact hactive.imp_right (hworkers b)
    obtain ⟨t, ht, hpending⟩ :=
      h.behind a b ha hb hlt ((htouches.hasTask (hbefore hb hlt)).mp ha') hactive'
    exact ⟨t, htouches.awaits.mpr ht, (hknown ht).trans hpending⟩
  · intro b t hb ht hpending
    rw [htouches.serves] at hb
    rw [htouches.awaits] at ht
    obtain ⟨c, hlt, hc⟩ := h.chained b t hb ht ((hknown ht).symm.trans hpending)
    refine ⟨c, hlt, hc.carry (htouches.serves.mpr hc.serves) (fun front hfront ↦ ⟨front, ?_⟩)
      fun d hd hdb hd' ↦ ?_⟩
    · rw [htouches.other (hbefore hb hlt), hfront]
    · exact ⟨htouches.serves.mp hd, hdb, (htouches.hasTask (hbefore hb hdb)).mp hd'⟩
  · intro b hb d hd
    exact h.latest b (hworkers b hb) d (htouches.serves.mp hd)

theorem Ordered.poll (h : s.Ordered window) (hsound : s.Sound) (i : WorkerId) :
    (s.step (.poll i)).Ordered window := by
  have hspec := (s.station i).polled_spec s.pool.isResolved
  have hstation := WorkerPool.station_poll s.pool i
  refine h.of_within hsound (fun id ↦ ?_) (fun id t ht hpending ↦ ?_)
    (WorkerPool.poll_signals s.pool i (WorkerPool.Linked.signalsOf_poll (hsound.closed i)))
  · rw [hstation]
    split
    · next hid => rw [hid]; exact .polled hspec
    · exact .refl _
  · rw [hstation]
    split
    · next hid =>
      subst hid
      obtain hsame | ⟨w, hw, hclosed⟩ := hspec.of_awaits ht hpending
      · exact .inl (by rw [hsame]; exact ht)
      · have hidle := hsound.idle_of_waits ⟨t, ht, hpending⟩
        refine .inr ⟨?_, fun hlive ↦ ?_⟩
        · rw [Station.IsSpent, Station.unfinished, hspec.line_eq, hspec.running_eq, hidle.2,
            Station.line_closed hw hclosed, hidle.1]
          rfl
        · obtain ⟨v, hv, -, hopen, -⟩ := hsound.live window id hlive
          obtain rfl := Option.some.inj (hv.symm.trans hw)
          rw [hclosed] at hopen
          cases hopen
    · exact .inl ht

theorem Ordered.finish (h : s.Ordered window) (hsound : s.Sound) (i : WorkerId) :
    (s.step (.finish i)).Ordered window := by
  have hstation := WorkerPool.station_finish s.pool i
  refine h.of_within hsound (fun id ↦ ?_) (fun id t ht hpending ↦ ?_)
    (WorkerPool.finish_signals s.pool i)
  · rw [hstation]
    split
    · exact .finished _
    · exact .refl _
  · have hidle := hsound.idle_of_waits ⟨t, ht, hpending⟩
    rw [hstation]
    split
    · exact .inl (by rw [Station.finished, if_pos (by exact hidle.2)]; exact ht)
    · exact .inl ht

private theorem Ordered.modify {held : List (Inquiry κ × WorkerId)} (h : s.Ordered window)
    (hsound : s.Sound) (i : WorkerId) (f : SerialWorker (Inquiry κ) → SerialWorker (Inquiry κ))
    (hname : ∀ w, (f w).name = w.name) (hconsumer : ∀ w, (f w).consumer = w.consumer)
    (hupcoming : ∀ w, (f w).upcoming = w.upcoming) :
    Ordered ⟨s.registry, s.pool.modify i f, held⟩ window := by
  refine h.of_within hsound (fun id ↦ ?_) (fun id t ht _ ↦ .inl ?_) rfl
  · rw [WorkerPool.station_modify]
    split
    · exact .mapWorker _ f hname hconsumer hupcoming
    · exact .refl _
  · rw [WorkerPool.station_modify]
    split
    · obtain ⟨w, hw, hc⟩ := ht
      exact ⟨f w, congrArg (Option.map f) hw, (hconsumer w).trans hc⟩
    · exact ht

theorem Ordered.hold (h : s.Ordered window) (hsound : s.Sound) (inquiry : Inquiry κ)
    (i : WorkerId) : (s.hold inquiry i).Ordered window :=
  h.modify hsound i .retain (fun _ ↦ rfl) (fun _ ↦ rfl) fun _ ↦ rfl

/-! ## A job begins -/

/-- When a signal is fired that closes a line, nothing is left of what it was waited for. -/
theorem Ordered.none_left (h : s.Ordered window) (hsound : s.Sound) {i c : WorkerId}
    {t : SignalId} {among : WorkerId → Prop} (hhead : (s.station i).handed.head? = some (.signal t))
    (hc : s.Closes window among t c) (d : WorkerId) (hd : s.Serves d window) (hamong : among d) :
    ¬ s.HasTask d := by
  have hline := (hsound.station i).line_of_handed hhead
  obtain ⟨front, hfront⟩ := hc.last
  -- a signal stands in one line only, and there it stands once, so nothing else is in the line
  have hic : i = c := by
    refine hsound.linked.apart i c t ?_ ?_
    · rw [WorkerPool.signalsIn, WorkerPool.mem_signalsOf, hline]
      exact List.mem_cons_self
    · rw [WorkerPool.signalsIn, WorkerPool.mem_signalsOf, hfront]
      exact List.mem_append_right _ (List.mem_singleton.mpr rfl)
  subst hic
  have hsingle : (s.station i).line = [.signal t] := by
    have honce := hsound.linked.once i
    rw [WorkerPool.signalsIn, hfront, WorkerPool.signalsOf_append,
      WorkerPool.signalsOf_signal] at honce
    cases front with
    | nil => exact hfront
    | cons first rest =>
      rw [hfront, List.cons_append, List.cons.injEq] at hline
      rw [hline.1] at honce
      simp [WorkerPool.signalsOf] at honce
  have hrunning := ((hsound.station i).handed_eq hhead).2
  intro htask
  rcases Nat.lt_or_eq_of_le (hc.upTo d hd hamong htask) with hlt | heq
  · have hwaits := h.behind d i hd hc.serves hlt htask (.inl fun hspent ↦ by
      rw [Station.IsSpent, Station.unfinished, hsingle] at hspent
      simp at hspent)
    rw [(hsound.idle_of_waits hwaits).1] at hhead
    cases hhead
  · obtain rfl : d = i := by cases d; cases i; exact congrArg _ heq
    obtain ⟨inquiry, hmem⟩ := htask
    rw [Station.unfinished, hrunning, hsingle] at hmem
    simp at hmem

/-- The end of a line stays where it is when a job before it begins. -/
private theorem last_of_begun {line rest front : List (Job (Inquiry κ))}
    {job : Job (Inquiry κ)} {t : SignalId} (hline : line = job :: rest)
    (hlast : line = front ++ [.signal t]) (hne : job ≠ .signal t) :
    ∃ front, rest = front ++ [.signal t] := by
  cases front with
  | nil =>
    rw [hline, List.nil_append, List.cons.injEq] at hlast
    exact absurd hlast.1 hne
  | cons first front =>
    rw [hline, List.cons_append, List.cons.injEq] at hlast
    exact ⟨front, hlast.2⟩

/-- As long as its signal is not the one that is fired, a line goes on to be closed. -/
private theorem Closes.begun {among : WorkerId → Prop} {t : SignalId} {i c : WorkerId}
    {job : Job (Inquiry κ)} {pool : WorkerPool (Inquiry κ)} (hc : s.Closes window among t c)
    (hsound : s.Sound) (hbegin : s.pool.begin? i = some (job, pool)) (hne : job ≠ .signal t) :
    Closes { s with pool := pool } window among t c := by
  obtain ⟨hhead, hstation, -⟩ := WorkerPool.begin?_spec hbegin
  refine hc.carry ((serves_begun hbegin).mpr hc.serves) (fun front hfront ↦ ?_)
    fun d hd hamong hd' ↦
      ⟨(serves_begun hbegin).mp hd, hamong, (hsound.hasTask_begun hbegin).mp hd'⟩
  rw [station, hstation]
  split
  · next hid =>
    subst hid
    exact last_of_begun ((hsound.station c).line_of_handed hhead) hfront hne
  · exact ⟨front, hfront⟩

theorem Ordered.begin (h : s.Ordered window) (hsound : s.Sound) (i : WorkerId) :
    (s.step (.begin i)).Ordered window := by
  cases hbegin : s.pool.begin? i with
  | none =>
    rw [begin_of_none hbegin]
    exact h
  | some found =>
    obtain ⟨job, pool⟩ := found
    rw [begin_of_some hbegin]
    obtain ⟨hhead, -, -⟩ := WorkerPool.begin?_spec hbegin
    have hserves {id : WorkerId} : Serves { s with pool := pool } id window ↔ s.Serves id window :=
      serves_begun hbegin
    have hpending := WorkerPool.pending_begun hbegin
    refine ⟨?_, ?_, ?_, ?_, ?_, h.manned⟩
    · intro a b ha hb hlt ha' hactive
      rw [hserves] at ha hb
      rw [hsound.hasTask_begun hbegin] at ha'
      rw [Station.IsSpent, hsound.unfinished_begun hbegin] at hactive
      obtain ⟨t, ht, hbefore⟩ := h.behind a b ha hb hlt ha' hactive
      by_cases hjob : job = .signal t
      · -- the signal that is fired closes a line, so that there is no task left to wait for
        subst hjob
        obtain ⟨c, -, hc⟩ := h.chained b t hb ht hbefore
        exact absurd ha' (h.none_left hsound hhead hc a ha hlt)
      · exact ⟨t, (awaits_begun hbegin).mpr ht, (hpending t).mpr ⟨hjob, hbefore⟩⟩
    · intro b t hb ht hafter
      obtain ⟨hne, hbefore⟩ := (hpending t).mp hafter
      obtain ⟨c, hlt, hc⟩ :=
        h.chained b t (hserves.mp hb) ((awaits_begun hbegin).mp ht) hbefore
      exact ⟨c, hlt, hc.begun hsound hbegin hne⟩
    · intro t ht hafter
      obtain ⟨hne, hbefore⟩ := (hpending t).mp hafter
      obtain ⟨c, hc⟩ := h.retired t ht hbefore
      exact ⟨c, hc.begun hsound hbegin hne⟩
    · intro hnone
      obtain hidle | ⟨t, ht, hbefore⟩ := h.unmanned hnone
      · exact .inl fun d hd hd' ↦
          hidle d (hserves.mp hd) ((hsound.hasTask_begun hbegin).mp hd')
      · by_cases hjob : job = .signal t
        · subst hjob
          obtain ⟨c, hc⟩ := h.retired t (Registry.mem_of_lookup ht) hbefore
          exact .inl fun d hd hd' ↦ h.none_left hsound hhead hc d (hserves.mp hd) trivial
            ((hsound.hasTask_begun hbegin).mp hd')
        · exact .inr ⟨t, ht, (hpending t).mpr ⟨hjob, hbefore⟩⟩
    · intro b hb d hd
      exact h.latest b hb d (hserves.mp hd)

/-! ## A worker is started -/

/-- The worker that is started becomes the last one of its window, and it waits for the signal that
was kept for it. -/
private theorem Ordered.enlist_last (h : s.Ordered window) (hsound : s.Sound)
    (hnone : s.registry.workers.lookup window = none) : (s.enlist window).Ordered window := by
  have hkept {id : WorkerId} (hid : s.Serves id window) :
      (s.enlist window).station id = s.station id := hsound.enlist_of_serves hid window
  have htask {id : WorkerId} (hid : (s.enlist window).HasTask id) : s.HasTask id := by
    obtain ⟨inquiry, hmem⟩ := hid
    rw [hsound.unfinished_enlist] at hmem
    exact ⟨inquiry, hmem⟩
  -- only a worker that was there before has something to do
  have hbusy {id : WorkerId} (hid : (s.enlist window).Serves id window)
      (hid' : (s.enlist window).HasTask id) : s.Serves id window := by
    refine (hsound.serves_enlist.mp hid).resolve_right ?_
    rintro ⟨rfl, -⟩
    exact hsound.not_hasTask_new (htask hid')
  have hcloses {among : WorkerId → Prop} {t : SignalId} {c : WorkerId}
      (hc : s.Closes window among t c) {among' : WorkerId → Prop}
      (hamong : ∀ d, among' d → among d) : (s.enlist window).Closes window among' t c := by
    refine hc.carry (hsound.serves_enlist.mpr (.inl hc.serves)) (fun front hfront ↦ ⟨front, ?_⟩)
      fun d hd hd' hdtask ↦ ⟨hbusy hd hdtask, hamong d hd', htask hdtask⟩
    rw [hsound.line_enlist, hfront]
  -- the new worker, with the signal that the registry has kept
  have hnew : ((s.enlist window).station ⟨s.pool.workers.length⟩).worker =
      some (.start (Registry.workerName window) (s.registry.retiring.lookup window)) := by
    rw [station_enlist, if_pos rfl]
  refine ⟨?_, ?_, ?_, ?_, ?_, ?_⟩
  · intro a b ha hb hlt ha' hactive
    have ha := hbusy ha ha'
    obtain hb | ⟨rfl, -⟩ := hsound.serves_enlist.mp hb
    · have hactive' : ¬ (s.station b).IsSpent ∨ (window, b) ∈ s.registry.workers := by
        rw [hkept hb] at hactive
        refine hactive.imp_right fun hlive ↦ (List.mem_append.mp hlive).resolve_right fun hlive ↦ ?_
        obtain rfl := (Prod.mk.inj (List.mem_singleton.mp hlive)).2
        exact hsound.not_serves_new window hb
      obtain ⟨t, ht, hpending⟩ := h.behind a b ha hb hlt (htask ha') hactive'
      exact ⟨t, by rw [hkept hb]; exact ht, hpending⟩
    · obtain hidle | ⟨t, ht, hpending⟩ := h.unmanned hnone
      · exact absurd (htask ha') (hidle a ha)
      · -- there is work left, so the registry has kept a signal, and the new worker waits for it
        exact ⟨t, ⟨_, hnew, by rw [ht]; rfl⟩, hpending⟩
  · intro b t hb ht hpending
    obtain hb | ⟨rfl, -⟩ := hsound.serves_enlist.mp hb
    · rw [hkept hb] at ht
      obtain ⟨c, hlt, hc⟩ := h.chained b t hb ht hpending
      exact ⟨c, hlt, hcloses hc fun _ hd ↦ hd⟩
    · obtain ⟨w, hw, hconsumer⟩ := ht
      obtain rfl := Option.some.inj (hw.symm.trans hnew)
      have hlookup : s.registry.retiring.lookup window = some t := by
        cases hr : s.registry.retiring.lookup window with
        | none => rw [hr] at hconsumer; cases hconsumer
        | some t' => rw [hr] at hconsumer; cases hconsumer; rfl
      obtain ⟨c, hc⟩ := h.retired t (Registry.mem_of_lookup hlookup) hpending
      exact ⟨c, hc.serves.index_lt, hcloses hc fun _ _ ↦ trivial⟩
  · intro t ht
    exact absurd rfl (Registry.mem_without.mp ht).2
  · intro hnone'
    exact absurd (List.mem_append_right _ (List.mem_singleton.mpr rfl))
      (Registry.lookup_eq_none.mp hnone' ⟨s.pool.workers.length⟩)
  · intro b hb d hd
    obtain hb | hb := List.mem_append.mp hb
    · exact absurd hb (Registry.lookup_eq_none.mp hnone b)
    · obtain rfl := (Prod.mk.inj (List.mem_singleton.mp hb)).2
      obtain hd | ⟨rfl, -⟩ := hsound.serves_enlist.mp hd
      · exact Nat.le_of_lt (hd.index_lt)
      · exact Nat.le_refl _
  · intro t b ht
    exact absurd rfl (Registry.mem_without.mp ht).2

theorem Ordered.enlist (h : s.Ordered window) (hsound : s.Sound) {other : WindowKey}
    (hnone : s.registry.workers.lookup other = none) : (s.enlist other).Ordered window := by
  by_cases hother : window = other
  · subst hother
    exact h.enlist_last hsound hnone
  · refine h.elsewhere hsound (fun id hid ↦ ?_) (fun id hid ↦ hsound.enlist_of_serves hid other)
      (fun t _ ↦ rfl) ?_ (.without hother _)
    · exact (hsound.serves_enlist.mp hid).resolve_right fun h ↦ hother h.2
    · exact (Registry.SameAt.refl window _).append_single hother _

theorem Ordered.lookUp (h : s.Ordered window) (hsound : s.Sound) (inquiry : Inquiry κ) :
    (s.lookUp inquiry).Ordered window := by
  cases hlookup : s.registry.workers.lookup inquiry.ask.window with
  | some id =>
    rw [lookUp_of_some hlookup]
    exact h.hold hsound inquiry id
  | none =>
    rw [lookUp_of_none hlookup]
    exact (h.enlist hsound hlookup).hold (hsound.enlist hlookup) inquiry _

/-! ## Submissions -/

theorem Ordered.submit (h : s.Ordered window) (hsound : s.Sound) {index : Nat}
    (hcareful : s.IsCareful (.submit index)) : (s.submit index).Ordered window := by
  cases hheld : s.held[index]? with
  | none =>
    rw [submit_of_none hheld]
    exact h
  | some found =>
    obtain ⟨inquiry, i⟩ := found
    cases hsubmit : s.pool.submit i (.task inquiry) with
    | error e =>
      rw [submit_of_error hheld hsubmit]
      exact h.modify hsound i .release (fun _ ↦ rfl) (fun _ ↦ rfl) fun _ ↦ rfl
    | ok pool =>
      rw [submit_of_ok hheld hsubmit]
      obtain ⟨w, hw, hopen, hsignals, -⟩ := WorkerPool.station_submit hsubmit
      have hlive := Registry.mem_of_lookup (hcareful inquiry i hheld w hw hopen)
      have htouches := touches_accepted hsubmit (s.held.eraseIdx index)
      have hresolved : ∀ t, (pool.release i).isResolved t = s.pool.isResolved t :=
        WorkerPool.isResolved_congr hsignals
      by_cases hwindow : window = inquiry.ask.window
      · subst hwindow
        have hnone (t : SignalId) : (inquiry.ask.window, t) ∉ s.registry.retiring :=
          fun ht ↦ h.manned t i ht hlive
        exact h.touch_last hsound htouches hlive (fun t _ ↦ hresolved t) (fun _ hb ↦ hb)
          (fun t ht _ ↦ absurd ht (hnone t))
          (fun hnone ↦ absurd hlive (Registry.lookup_eq_none.mp hnone i)) h.manned
      · exact h.touch_other hsound htouches (hsound.serves hlive) hwindow (fun t _ ↦ hresolved t)
          (.refl window _) (.refl window _)

/-! ## Invalidation and removal -/

theorem Ordered.letGo (h : s.Ordered window) (hsound : s.Sound) {other : WindowKey}
    {i : WorkerId} (hlive : (other, i) ∈ s.registry.workers) :
    (s.letGo other i).Ordered window := by
  obtain ⟨w, hw, -, hopen, -⟩ := hsound.live other i hlive
  obtain ⟨hretiring, hsignals, -⟩ := Registry.letGo_spec s.registry other hw hopen
  have htouches := hsound.touches_letGo hlive
  have hresolved (t : SignalId) (ht : t.index < s.pool.signals.length) :
      (s.letGo other i).pool.isResolved t = s.pool.isResolved t :=
    WorkerPool.isResolved_append hsignals ht
  have hretiring' : (s.letGo other i).registry.retiring =
      Registry.without s.registry.retiring other ++ [(other, ⟨s.pool.signals.length⟩)] := hretiring
  by_cases hother : window = other
  · subst hother
    refine h.touch_last hsound htouches hlive hresolved
      (fun _ hb ↦ (Registry.mem_without.mp hb).1) (fun t ht _ ↦ ?_) (fun _ ↦ .inr ?_)
      fun t b _ hb ↦ absurd rfl (Registry.mem_without.mp hb).2
    · -- the new signal stands at the end of the line of the last worker
      rw [hretiring'] at ht
      obtain ht | ht := List.mem_append.mp ht
      · exact absurd rfl (Registry.mem_without.mp ht).2
      · obtain rfl := (Prod.mk.inj (List.mem_singleton.mp ht)).2
        refine ⟨i, htouches.serves.mpr (hsound.serves hlive), ⟨(s.station i).line, ?_⟩,
          fun d hd _ _ ↦ h.latest i hlive d (htouches.serves.mp hd)⟩
        rw [hsound.line_letGo hlive, if_pos rfl]
    · refine ⟨⟨s.pool.signals.length⟩, ?_, WorkerPool.isResolved_new hsignals⟩
      rw [hretiring', List.lookup_append, Registry.lookup_without]
      exact List.lookup_cons_self
  · refine h.touch_other hsound htouches (hsound.serves hlive) hother hresolved
      (.without hother _) ?_
    rw [hretiring']
    exact (Registry.SameAt.without hother _).append_single hother _

theorem Ordered.invalidate (h : s.Ordered window) (hsound : s.Sound) :
    s.invalidate.Ordered window :=
  (invalidate_induction (P := fun s ↦ s.Ordered window) hsound h
    (fun _ _ _ hsound h hlive ↦ h.letGo hsound hlive)
    fun _ _ _ hsound h ↦ h.elsewhere hsound (fun _ hid ↦ hid) (fun _ _ ↦ rfl) (fun _ _ ↦ rfl)
      (.refl window _) (.refl window _)).2

theorem Ordered.remove (h : s.Ordered window) (hsound : s.Sound) {other : WindowKey}
    (hcareful : s.IsCareful (.remove other)) : (s.remove other).Ordered window := by
  cases hlookup : s.registry.workers.lookup other with
  | none =>
    -- no worker is stopped, but a signal may be forgotten
    rw [IsCareful, remove_of_none hlookup] at hcareful
    rw [remove_of_none hlookup]
    by_cases hother : window = other
    · subst hother
      refine ⟨fun a b ha _ _ ha' ↦ absurd ha' (hcareful a ha), ?_,
        fun t ht ↦ absurd rfl (Registry.mem_without.mp ht).2, fun _ ↦ .inl hcareful,
        fun b hb ↦ absurd rfl (Registry.mem_without.mp hb).2,
        fun t b ht ↦ absurd rfl (Registry.mem_without.mp ht).2⟩
      intro b t hb ht hpending
      obtain ⟨c, hlt, hc⟩ := h.chained b t hb ht hpending
      exact ⟨c, hlt, hc.carry hc.serves (fun front hfront ↦ ⟨front, hfront⟩)
        fun d hd hdb hd' ↦ ⟨hd, hdb, hd'⟩⟩
    · exact h.elsewhere hsound (fun _ hid ↦ hid) (fun _ _ ↦ rfl) (fun _ _ ↦ rfl)
        (.without hother _) (.without hother _)
  | some i =>
    rw [IsCareful, remove_of_some hlookup] at hcareful
    rw [remove_of_some hlookup]
    have hlive := Registry.mem_of_lookup hlookup
    have htouches := s.touches_stopWorker (r := (s.registry.removeWindow s.pool other).1) i
    by_cases hother : window = other
    · subst hother
      exact h.touch_last hsound htouches hlive (fun _ _ ↦ rfl)
        (fun b hb ↦ (Registry.mem_without.mp hb).1)
        (fun t ht ↦ absurd rfl (Registry.mem_without.mp ht).2) (fun _ ↦ .inl hcareful)
        fun t b ht ↦ absurd rfl (Registry.mem_without.mp ht).2
    · exact h.touch_other hsound htouches (hsound.serves hlive) hother (fun _ _ ↦ rfl)
        (.without hother _) (.without hother _)

/-! ## Careful runs -/

theorem ordered_start : (start : Workforce κ).Ordered window := by
  refine ⟨?_, ?_, ?_, ?_, ?_, ?_⟩
  · rintro a b ⟨w, hw, -⟩
    cases hw
  · rintro b t ⟨w, hw, -⟩
    cases hw
  · intro t ht
    cases ht
  · intro _
    exact .inl fun d ⟨w, hw, _⟩ ↦ by cases hw
  · intro b hb
    cases hb
  · intro t b ht
    cases ht

theorem Ordered.step (h : s.Ordered window) (hsound : s.Sound) {move : Move κ}
    (hcareful : s.IsCareful move) : (s.step move).Ordered window := by
  cases move with
  | lookUp inquiry => exact h.lookUp hsound inquiry
  | submit index => exact h.submit hsound hcareful
  | invalidate => exact h.invalidate hsound
  | remove other => exact h.remove hsound hcareful
  | poll id => exact h.poll hsound id
  | begin id => exact h.begin hsound id
  | finish id => exact h.finish hsound id

theorem Ordered.run (h : s.Ordered window) (hsound : s.Sound) {moves : List (Move κ)}
    (hcareful : s.CarefulFrom moves) : (s.run moves).Ordered window := by
  induction moves generalizing s with
  | nil => exact h
  | cons move moves ih => exact ih (h.step hsound hcareful.1) (hsound.step move) hcareful.2

/-- **Careful runs do not overlap.** After a run of careful moves at most one job of a window is
being run. -/
theorem atMostOne_of_careful {moves : List (Move κ)}
    (hcareful : (start : Workforce κ).CarefulFrom moves) : (start.run moves).AtMostOne :=
  (sound_start.run moves).atMostOne fun _ ↦ ordered_start.run sound_start hcareful

end Workforce

end CodeHints
