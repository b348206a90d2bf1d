import CodeHints.Proofs.Workforce.Stopping

/-!
# What becomes of a line

Whatever others do to a worker, it goes on with what it was doing: they may submit to it, hold it
and let it go, and shut it down, but they neither take a job from it nor put one before another one.
`Station.Extends` says so for one worker, and a move of others `Follows` if it is so for all of
them. The rest is done by the workers themselves, in turns of which we know everything.

From both together it is seen that a line is served from its front and in its order, for as long as
the worker is not shut down; see `Station.Advances`.
-/

namespace CodeHints

namespace Station

variable {α : Type} {st st' st'' : Station α}

def IsClosed (st : Station α) : Prop := ∃ w, st.worker = some w ∧ w.isClosed = true

/-! ## What others may do to a worker -/

/-- The worker goes on with what it was doing, and its queue may have become longer. -/
structure Extends (st st' : Station α) : Prop where
  handed : st'.handed = st.handed
  running : st'.running = st.running
  worker : ∀ w, st.worker = some w → ∃ w', st'.worker = some w' ∧ w'.name = w.name ∧
    w'.consumer = w.consumer ∧ (w.isClosed = true → w'.isClosed = true) ∧ w.queue <+: w'.queue

namespace Extends

theorem refl (st : Station α) : st.Extends st :=
  ⟨rfl, rfl, fun w hw ↦ ⟨w, hw, rfl, rfl, fun h ↦ h, List.prefix_refl _⟩⟩

theorem trans (h : st.Extends st') (h' : st'.Extends st'') : st.Extends st'' := by
  refine ⟨h'.handed.trans h.handed, h'.running.trans h.running, fun w hw ↦ ?_⟩
  obtain ⟨w', hw', hname, hconsumer, hclosed, hqueue⟩ := h.worker w hw
  obtain ⟨w'', hw'', hname', hconsumer', hclosed', hqueue'⟩ := h'.worker w' hw'
  exact ⟨w'', hw'', hname'.trans hname, hconsumer'.trans hconsumer, fun hc ↦ hclosed' (hclosed hc),
    hqueue.trans hqueue'⟩

theorem mapWorker (st : Station α) {f : SerialWorker α → SerialWorker α}
    (hname : ∀ w, (f w).name = w.name) (hconsumer : ∀ w, (f w).consumer = w.consumer)
    (hclosed : ∀ w, w.isClosed = true → (f w).isClosed = true)
    (hqueue : ∀ w, w.queue <+: (f w).queue) : st.Extends (st.mapWorker f) :=
  ⟨rfl, rfl, fun w hw ↦
    ⟨f w, congrArg (Option.map f) hw, hname w, hconsumer w, hclosed w, hqueue w⟩⟩

end Extends

/-! ## The order of a line -/

/-- Unless the worker is shut down meanwhile, what begins was at the front of its line, and what is
new is at its end. -/
structure Advances (st st' : Station α) (begun : List (Job α)) : Prop where
  closed : st.IsClosed → st'.IsClosed
  line : (st'.IsClosed → st.IsClosed) → ∃ added, st.line ++ added = begun ++ st'.line

namespace Advances

theorem refl (st : Station α) : st.Advances st [] :=
  ⟨fun h ↦ h, fun _ ↦ ⟨[], List.append_nil _⟩⟩

theorem trans {begun more : List (Job α)} (h : st.Advances st' begun)
    (h' : st'.Advances st'' more) : st.Advances st'' (begun ++ more) := by
  refine ⟨fun hc ↦ h'.closed (h.closed hc), fun hclosed ↦ ?_⟩
  obtain ⟨added, hline⟩ := h.line fun hc ↦ hclosed (h'.closed hc)
  obtain ⟨added', hline'⟩ := h'.line fun hc ↦ h.closed (hclosed hc)
  refine ⟨added ++ added', ?_⟩
  rw [← List.append_assoc, hline, List.append_assoc, hline', List.append_assoc]

end Advances

theorem isClosed_congr (h : st'.face = st.face) : st'.IsClosed ↔ st.IsClosed := by
  have hiff (st : Station α) : st.IsClosed ↔ st.worker.map SerialWorker.isClosed = some true := by
    rw [Option.map_eq_some_iff]
    rfl
  rw [hiff, hiff, isClosed_of_face h]

theorem line_of_isClosed (h : st.IsClosed) : st.line = st.handed := by
  obtain ⟨w, hw, hclosed⟩ := h
  exact line_closed hw hclosed

/-- A worker with something in its line that it has not handed over is there, and takes jobs. -/
theorem exists_of_line (hline : st.line ≠ []) (hhanded : st.handed = []) :
    ∃ w, st.worker = some w ∧ w.isClosed = false ∧ st.line = w.queue := by
  cases hw : st.worker with
  | none => exact absurd (by rw [line, hhanded, hw]; rfl) hline
  | some w =>
    cases hclosed : w.isClosed with
    | true => exact absurd ((line_closed hw hclosed).trans hhanded) hline
    | false => exact ⟨w, rfl, hclosed, line_of_open hhanded hw hclosed⟩

theorem Occupied.handed_eq_nil (h : st.Occupied) (hrunning : st.running ≠ []) :
    st.handed = [] := by
  cases hhanded : st.handed with
  | nil => rfl
  | cons first rest => exact absurd (h.handed_eq (by rw [hhanded]; rfl)).2 hrunning

theorem polled_of_isBusy (h : st.isBusy = true) (isResolved : SignalId → Bool) :
    (st.polled isResolved).2 = st := by
  obtain ⟨w, hw, hc⟩ : ∃ w, st.worker = some w ∧ w.consumer = .busy := by
    simpa [isBusy, Option.any_eq_true] using h
  obtain ⟨worker, handed, running⟩ := st
  obtain rfl : worker = some w := hw
  simp only [polled, SerialWorker.turn, hc]

namespace Extends

theorem isClosed (h : st.Extends st') (hclosed : st.IsClosed) : st'.IsClosed := by
  obtain ⟨w, hw, hclosed⟩ := hclosed
  obtain ⟨w', hw', -, -, hmono, -⟩ := h.worker w hw
  exact ⟨w', hw', hmono hclosed⟩

theorem advances (h : st.Extends st') : st.Advances st' [] := by
  refine ⟨h.isClosed, fun hsame ↦ ?_⟩
  rw [List.nil_append]
  by_cases hclosed : st'.IsClosed
  · refine ⟨[], ?_⟩
    rw [List.append_nil, line_of_isClosed hclosed, line_of_isClosed (hsame hclosed), h.handed]
  · cases hw : st.worker with
    | none => exact ⟨_, by rw [line, line, hw, h.handed, List.append_assoc]; rfl⟩
    | some w =>
      obtain ⟨w', hw', -, -, hmono, added, hqueue⟩ := h.worker w hw
      have hopen' : w'.isClosed = false :=
        Bool.not_eq_true _ ▸ fun hc ↦ hclosed ⟨w', hw', hc⟩
      have hopen : w.isClosed = false :=
        Bool.not_eq_true _ ▸ fun hc ↦ hclosed ⟨w', hw', hmono hc⟩
      refine ⟨added, ?_⟩
      rw [line, line, h.handed, hw, hw', Option.map_some, Option.map_some, Option.getD_some,
        Option.getD_some, SerialWorker.upcoming_of_open hopen',
        SerialWorker.upcoming_of_open hopen, ← hqueue, List.append_assoc]

end Extends

end Station

namespace Workforce

variable {κ : Type} {s s' s'' : Workforce κ}

/-! ## Moves of others -/

/-- Every signal that is known stays known, and what need not be waited for any more stays so. -/
def Settles (s s' : Workforce κ) : Prop :=
  ∀ t : SignalId, t.index < s.pool.signals.length →
    t.index < s'.pool.signals.length ∧ (s.pool.isResolved t = true → s'.pool.isResolved t = true)

theorem Settles.of_signals (h : s'.pool.signals = s.pool.signals) : s.Settles s' := by
  intro t ht
  rw [h, WorkerPool.isResolved_congr h]
  exact ⟨ht, fun hr ↦ hr⟩

theorem Settles.trans (h : s.Settles s') (h' : s'.Settles s'') : s.Settles s'' := fun t ht ↦
  ⟨(h' t (h t ht).1).1, fun hr ↦ (h' t (h t ht).1).2 ((h t ht).2 hr)⟩

/-- Every worker goes on with what it was doing. -/
structure Follows (s s' : Workforce κ) : Prop where
  station : ∀ id, (s.station id).Extends (s'.station id)
  settles : s.Settles s'

theorem Follows.trans (h : s.Follows s') (h' : s'.Follows s'') : s.Follows s'' :=
  ⟨fun id ↦ (h.station id).trans (h'.station id), h.settles.trans h'.settles⟩

theorem follows_of_pool (h : s'.pool = s.pool) : s.Follows s' := by
  refine ⟨fun id ↦ ?_, .of_signals (congrArg _ h)⟩
  rw [Workforce.station, Workforce.station, h]
  exact .refl _

theorem Touches.follows {i : WorkerId} {f : SerialWorker (Inquiry κ) → SerialWorker (Inquiry κ)}
    (h : s.Touches s' i f) (hclosed : ∀ w, w.isClosed = true → (f w).isClosed = true)
    (hqueue : ∀ w, w.queue <+: (f w).queue) (hsettles : s.Settles s') : s.Follows s' := by
  refine ⟨fun id ↦ ?_, hsettles⟩
  rw [h.station]
  split
  · exact .mapWorker _ h.name h.consumer hclosed hqueue
  · exact .refl _

theorem follows_hold (s : Workforce κ) (inquiry : Inquiry κ) (i : WorkerId) :
    s.Follows (s.hold inquiry i) :=
  (s.touches_hold inquiry i).follows (fun _ h ↦ h) (fun _ ↦ List.prefix_refl _) (.of_signals rfl)

theorem Sound.follows_enlist (h : s.Sound) (window : WindowKey) :
    s.Follows (s.enlist window) := by
  refine ⟨fun id ↦ ?_, .of_signals rfl⟩
  rw [station_enlist]
  split
  · next hid =>
    subst hid
    rw [h.station_new]
    exact ⟨rfl, rfl, fun w hw ↦ by cases hw⟩
  · exact .refl _

theorem Sound.follows_lookUp (h : s.Sound) (inquiry : Inquiry κ) :
    s.Follows (s.lookUp inquiry) := by
  cases hlookup : s.registry.workers.lookup inquiry.ask.window with
  | some id =>
    rw [lookUp_of_some hlookup]
    exact s.follows_hold inquiry id
  | none =>
    rw [lookUp_of_none hlookup]
    exact (h.follows_enlist _).trans (follows_hold _ _ _)

theorem follows_submit (s : Workforce κ) (index : Nat) : s.Follows (s.submit index) := by
  cases hheld : s.held[index]? with
  | none =>
    rw [submit_of_none hheld]
    exact follows_of_pool rfl
  | some found =>
    obtain ⟨inquiry, i⟩ := found
    cases hsubmit : s.pool.submit i (.task inquiry) with
    | error e =>
      have htouches : s.Touches ⟨s.registry, s.pool.release i, s.held.eraseIdx index⟩ i .release :=
        ⟨fun id ↦ WorkerPool.station_modify s.pool i id _, fun _ ↦ rfl, fun _ ↦ rfl⟩
      rw [submit_of_error hheld hsubmit]
      exact htouches.follows (fun _ h ↦ h) (fun _ ↦ List.prefix_refl _) (.of_signals rfl)
    | ok pool =>
      obtain ⟨-, -, -, hsignals, -⟩ := WorkerPool.station_submit hsubmit
      rw [submit_of_ok hheld hsubmit]
      exact (touches_accepted hsubmit _).follows (fun _ h ↦ h) (fun _ ↦ List.prefix_append _ _)
        (.of_signals hsignals)

theorem Sound.follows_letGo (h : s.Sound) {window : WindowKey} {i : WorkerId}
    (hlive : (window, i) ∈ s.registry.workers) : s.Follows (s.letGo window i) := by
  obtain ⟨w, hw, -, hopen, -⟩ := h.live window i hlive
  obtain ⟨-, hsignals, -⟩ := Registry.letGo_spec s.registry window hw hopen
  refine (h.touches_letGo hlive).follows (fun _ h ↦ h) (fun _ ↦ List.prefix_append _ _) ?_
  intro t ht
  have hsame := WorkerPool.isResolved_append (t := t) hsignals ht
  refine ⟨?_, fun hr ↦ hsame.trans hr⟩
  change t.index < (s.registry.letGo s.pool window i).2.signals.length
  rw [hsignals, List.length_append]
  exact Nat.lt_add_right _ ht

theorem Sound.follows_invalidate (h : s.Sound) : s.Follows s.invalidate :=
  (invalidate_induction (P := s.Follows) h (follows_of_pool rfl)
    (fun _ _ _ hsound hs hlive ↦ hs.trans (hsound.follows_letGo hlive))
    fun _ _ _ _ hs ↦ hs.trans (follows_of_pool rfl)).2

/-- Stopping workers lets them go on with the job that they have handed over. -/
theorem follows_stopAll (ids : List WorkerId) {r : Registry} {pool : WorkerPool (Inquiry κ)}
    (hpool : pool = s.pool.stopAll ids) : s.Follows ⟨r, pool, s.held⟩ := by
  subst hpool
  induction ids generalizing s r with
  | nil => exact follows_of_pool rfl
  | cons first rest ih =>
    have hstop : s.Follows ⟨r, Registry.stopWorker s.pool first, s.held⟩ :=
      (s.touches_stopWorker first).follows (fun _ _ ↦ rfl) (fun _ ↦ List.prefix_refl _)
        (.of_signals rfl)
    exact hstop.trans ih

theorem follows_remove (s : Workforce κ) (window : WindowKey) : s.Follows (s.remove window) :=
  follows_stopAll _ (s.pool_remove window)

theorem follows_shutdown (s : Workforce κ) : s.Follows s.shutdown :=
  follows_stopAll _ s.pool_shutdown

/-! ## All moves -/

/-- What may happen to a workforce in one move: others do something, or a worker has its turn. -/
inductive Goes (s : Workforce κ) : Option (Move κ) → Workforce κ → Prop where
  | others {s' : Workforce κ} (h : s.Follows s') : Goes s none s'
  | turn {move : Move κ} {s' : Workforce κ} (h : Move.IsTurn move)
    (hpool : s'.pool = (s.step move).pool) : Goes s (some move) s'

/-- The job that begins in a turn, with its worker. -/
def starts (s : Workforce κ) : Option (Move κ) → List (WorkerId × Job (Inquiry κ))
  | some (.begin id) => ((s.pool.begin? id).map fun x ↦ (id, x.1)).toList
  | _ => []

/-- In a turn a worker looks the same to others, and of its line exactly that begins which is no
longer in it. -/
theorem Sound.turn_spec (h : s.Sound) {move : Move κ} (hturn : Move.IsTurn move) (id : WorkerId) :
    ((s.step move).station id).face = (s.station id).face ∧
      (s.station id).line =
        WorkerPool.jobsAt (s.starts (some move)) id ++ ((s.step move).station id).line := by
  cases move with
  | poll i =>
    have hpoll : (s.step (.poll i)).station id = _ := s.pool.station_poll i id
    rw [hpoll]
    split
    · have hspec := (s.station id).polled_spec s.pool.isResolved
      exact ⟨hspec.face_eq, hspec.line_eq.symm⟩
    · exact ⟨rfl, rfl⟩
  | finish i =>
    have hfinish : (s.step (.finish i)).station id = _ := s.pool.station_finish i id
    rw [hfinish]
    split
    · exact ⟨Station.finished_face _, (Station.finished_line _).symm⟩
    · exact ⟨rfl, rfl⟩
  | begin i =>
    cases hbegin : s.pool.begin? i with
    | none =>
      rw [begin_of_none hbegin, starts, hbegin]
      exact ⟨rfl, rfl⟩
    | some found =>
      obtain ⟨job, pool⟩ := found
      obtain ⟨hhead, hbegun, -⟩ := WorkerPool.begin?_spec hbegin
      have hbegun' : Workforce.station { s with pool := pool } id = _ := hbegun id
      rw [begin_of_some hbegin, starts, hbegin, hbegun', Option.map_some, Option.toList_some,
        WorkerPool.jobsAt_single]
      split
      · next hid =>
        subst hid
        exact ⟨rfl, (h.station id).line_of_handed hhead⟩
      · exact ⟨rfl, rfl⟩
  | _ => exact hturn.elim

theorem station_turn_of_ne {move : Move κ} (hturn : Move.IsTurn move) {id : WorkerId}
    (hpoll : move ≠ .poll id) (hbegin : move ≠ .begin id) (hfinish : move ≠ .finish id) :
    (s.step move).station id = s.station id := by
  cases move with
  | poll i =>
    have hid : id ≠ i := by rintro rfl; exact hpoll rfl
    exact (s.pool.station_poll i id).trans (if_neg hid)
  | finish i =>
    have hid : id ≠ i := by rintro rfl; exact hfinish rfl
    exact (s.pool.station_finish i id).trans (if_neg hid)
  | begin i =>
    have hid : id ≠ i := by rintro rfl; exact hbegin rfl
    cases hbegun : s.pool.begin? i with
    | none => rw [begin_of_none hbegun]
    | some found =>
      obtain ⟨job, pool⟩ := found
      rw [begin_of_some hbegun]
      exact ((WorkerPool.begin?_spec hbegun).2.1 id).trans (if_neg hid)
  | _ => exact hturn.elim

theorem Sound.settles_turn (h : s.Sound) {move : Move κ} (hturn : Move.IsTurn move) :
    s.Settles (s.step move) := by
  cases move with
  | poll i =>
    refine .of_signals (WorkerPool.poll_signals _ i ?_)
    exact WorkerPool.Linked.signalsOf_poll (h.closed i)
  | finish i => exact .of_signals (WorkerPool.finish_signals _ i)
  | begin i =>
    cases hbegin : s.pool.begin? i with
    | none =>
      rw [begin_of_none hbegin]
      exact .of_signals rfl
    | some found =>
      obtain ⟨job, pool⟩ := found
      rw [begin_of_some hbegin]
      intro t ht
      have hsignals := (WorkerPool.begin?_spec hbegin).2.2
      refine ⟨?_, fun hr ↦ ?_⟩
      · cases job <;> simpa [hsignals] using ht
      · rw [← Bool.not_eq_false] at hr ⊢
        exact fun hpending ↦ hr ((WorkerPool.pending_begun hbegin t).mp hpending).2
  | _ => exact hturn.elim

namespace Goes

variable {turn : Option (Move κ)}

theorem station_turn {move : Move κ} (h : s.Goes (some move) s') (id : WorkerId) :
    s'.station id = (s.step move).station id := by
  cases h with
  | turn _ hpool => rw [Workforce.station, hpool]

/-- A worker goes on with what it was doing, unless it has a turn in which it can do something. -/
theorem extends_of_idle (h : s.Goes turn s') (id : WorkerId)
    (hpoll : turn = some (.poll id) →
      ((s.station id).polled s.pool.isResolved).2 = s.station id)
    (hbegin : turn = some (.begin id) → (s.station id).handed = [])
    (hfinish : turn = some (.finish id) → (s.station id).running = []) :
    (s.station id).Extends (s'.station id) := by
  cases h with
  | others h => exact h.station id
  | @turn move _ hturn hpool =>
    suffices hsame : (s.step move).station id = s.station id by
      rw [(Goes.turn hturn hpool).station_turn, hsame]
      exact .refl _
    by_cases hid : move = .poll id ∨ move = .begin id ∨ move = .finish id
    · obtain rfl | rfl | rfl := hid
      · exact (s.pool.station_poll id id).trans ((if_pos rfl).trans (hpoll rfl))
      · refine congrArg (Workforce.station · id) (begin_of_none ?_)
        cases hbegun : s.pool.begin? id with
        | none => rfl
        | some found =>
          have hhead := (WorkerPool.begin?_spec hbegun).1
          rw [show (s.pool.station id).handed = [] from hbegin rfl] at hhead
          cases hhead
      · refine (s.pool.station_finish id id).trans ((if_pos rfl).trans ?_)
        rw [Station.finished, if_pos (hfinish rfl)]
    · rw [not_or, not_or] at hid
      exact station_turn_of_ne hturn hid.1 hid.2.1 hid.2.2

theorem settles (h : s.Goes turn s') (hsound : s.Sound) : s.Settles s' := by
  cases h with
  | others h => exact h.settles
  | turn h hpool =>
    intro t ht
    rw [hpool]
    exact hsound.settles_turn h t ht

/-- **A line is served from its front and in its order.** -/
theorem advances (h : s.Goes turn s') (hsound : s.Sound) (id : WorkerId) :
    (s.station id).Advances (s'.station id) (WorkerPool.jobsAt (s.starts turn) id) := by
  cases h with
  | others h => exact (h.station id).advances
  | turn hturn hpool =>
    obtain ⟨hface, hline⟩ := hsound.turn_spec hturn id
    rw [(Goes.turn hturn hpool).station_turn]
    exact ⟨(Station.isClosed_congr hface).mpr, fun _ ↦ ⟨[], by rw [List.append_nil, hline]⟩⟩

theorem serves (h : s.Goes turn s') (hsound : s.Sound) {id : WorkerId} {window : WindowKey}
    (hserves : s.Serves id window) : s'.Serves id window := by
  obtain ⟨w, hw, hname⟩ := hserves
  cases h with
  | others h =>
    obtain ⟨w', hw', hsame, -⟩ := (h.station id).worker w hw
    exact ⟨w', hw', hsame.trans hname⟩
  | turn hturn hpool =>
    obtain ⟨w', hw', hsame, -⟩ := Station.exists_of_face_eq (hsound.turn_spec hturn id).1 hw
    exact ⟨w', (Goes.turn hturn hpool).station_turn id ▸ hw', hsame.trans hname⟩

theorem serves_of_starts (h : s.Goes turn s') (hsound : s.Sound) {id : WorkerId}
    {inquiry : Inquiry κ} (hmem : (id, .task inquiry) ∈ s.starts turn) :
    s.Serves id inquiry.ask.window := by
  cases h with
  | others h => cases hmem
  | turn hturn hpool =>
    have hjob : .task inquiry ∈ WorkerPool.jobsAt (s.starts (some _)) id :=
      List.mem_map_of_mem (List.mem_filter.mpr ⟨hmem, decide_eq_true rfl⟩)
    refine hsound.placed id inquiry (List.mem_append_right _ ?_)
    rw [(hsound.turn_spec hturn id).2]
    exact List.mem_append_left _ hjob

theorem signalsIn (h : s.Goes turn s') (hsound : s.Sound) (hsound' : s'.Sound) {id : WorkerId}
    {t : SignalId} (hmem : t ∈ s.pool.signalsIn id) :
    .signal t ∈ WorkerPool.jobsAt (s.starts turn) id ∨ t ∈ s'.pool.signalsIn id := by
  have hline : .signal t ∈ (s.station id).line := WorkerPool.mem_signalsOf.mp hmem
  have hsplit : .signal t ∈ WorkerPool.jobsAt (s.starts turn) id ++ (s'.station id).line := by
    cases h with
    | turn hturn hpool =>
      rw [(Goes.turn hturn hpool).station_turn, ← (hsound.turn_spec hturn id).2]
      exact hline
    | others h =>
      have hadvances := (h.station id).advances
      by_cases hclosed : (s'.station id).IsClosed
      · -- a worker that is shut down has no signals in its queue, so this one was handed over
        obtain ⟨w', hw', hclosed'⟩ := hclosed
        have hnone := hsound'.closed id w' hw' hclosed'
        rw [Station.line_closed hw' hclosed', (h.station id).handed]
        refine (List.mem_append.mp hline).resolve_right fun hqueue ↦ ?_
        cases hw : (s.station id).worker with
        | none => simp [hw] at hqueue
        | some w =>
          obtain ⟨v, hv, -, -, -, hgrows⟩ := (h.station id).worker w hw
          obtain rfl := Option.some.inj (hw'.symm.trans hv)
          rw [hw, Option.map_some, Option.getD_some, SerialWorker.upcoming] at hqueue
          split at hqueue
          · cases hqueue
          · have hsignal := WorkerPool.mem_signalsOf.mpr (hgrows.subset hqueue)
            rw [hnone] at hsignal
            cases hsignal
      · obtain ⟨added, heq⟩ := hadvances.line fun hc ↦ absurd hc hclosed
        exact heq ▸ List.mem_append_left _ hline
  exact (List.mem_append.mp hsplit).imp_right WorkerPool.mem_signalsOf.mpr

end Goes

end Workforce

end CodeHints
