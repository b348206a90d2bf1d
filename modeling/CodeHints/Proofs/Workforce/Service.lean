import CodeHints.Proofs.Pool.Tasks
import CodeHints.Proofs.Workforce.Progress

/-!
# First come, first served

The requests of a window are answered in the order in which they were submitted, although every
invalidation lets the worker of the window go and the next request starts another one. After several
invalidations the requests that wait are spread over as many lines, and the workers behind the first
one wait for signals.

`Workforce.waiting` reads the lines of all workers in the order in which these were started. A move
takes a request off its front, or puts one at its end, or leaves it as it is. That is all there is
to show: the lines of a window are served one after the other, because the workers are `Ordered`,
and a request is put into the last of them, because the registry has the latest worker.

## Service

A `Service` is a move for which nobody is turned away: a worker is looked up and submitted to at
once, and no window is removed. A `Ledger` goes along with the workforce and notes which requests
were accepted, begun and ended. It notes them as they come, for all windows together.
-/

namespace CodeHints

variable {κ : Type}

/-- What may happen as long as no window is removed. -/
inductive Service (κ : Type) where
  /-- Find the worker for a request, and submit to it at once. -/
  | request (inquiry : Inquiry κ)
  | invalidate
  | poll (id : WorkerId)
  | begin (id : WorkerId)
  /-- The job of a worker ends, by itself or by a breakdown. -/
  | finish (id : WorkerId)

/-- The requests of a window among others. -/
def ofWindow (window : WindowKey) (inquiries : List (Inquiry κ)) : List (Inquiry κ) :=
  inquiries.filter (·.ask.window = window)

@[simp] theorem ofWindow_append (window : WindowKey) (inquiries more : List (Inquiry κ)) :
    ofWindow window (inquiries ++ more) = ofWindow window inquiries ++ ofWindow window more :=
  List.filter_append ..

theorem ofWindow_self (inquiry : Inquiry κ) : ofWindow inquiry.ask.window [inquiry] = [inquiry] :=
  List.filter_cons_of_pos (decide_eq_true rfl)

theorem ofWindow_other {window : WindowKey} {inquiry : Inquiry κ}
    (h : inquiry.ask.window ≠ window) : ofWindow window [inquiry] = [] :=
  List.filter_cons_of_neg (by simpa using h)

/-- The request whose job begins when a worker begins what it has handed over. -/
def Workforce.begins (s : Workforce κ) (id : WorkerId) : List (Inquiry κ) :=
  match s.pool.begin? id with
  | some (job, _) => WorkerPool.tasksOf [job]
  | none => []

namespace Service

/-- The moves that make up a service. -/
def moves : Service κ → List (Move κ)
  | .request inquiry => [.lookUp inquiry, .submit 0]
  | .invalidate => [.invalidate]
  | .poll id => [.poll id]
  | .begin id => [.begin id]
  | .finish id => [.finish id]

/-- What is requested by a service. -/
def requested : Service κ → List (Inquiry κ)
  | .request inquiry => [inquiry]
  | _ => []

/-- A service in which the workers go on by themselves. -/
def IsTurn : Service κ → Prop
  | .poll _ | .begin _ | .finish _ => True
  | _ => False

/-- The request that is accepted in a service. -/
def accepts (s : Workforce κ) : Service κ → List (Inquiry κ)
  | .request inquiry =>
    let (id, _, pool) := s.registry.worker s.pool inquiry.ask.window
    match pool.submit id (.task inquiry) with
    | .ok _ => [inquiry]
    | .error _ => []
  | _ => []

/-- The request whose job begins in a service. -/
def begins (s : Workforce κ) : Service κ → List (Inquiry κ)
  | .begin id => s.begins id
  | _ => []

/-- The requests whose jobs end in a service. -/
def ends (s : Workforce κ) : Service κ → List (Inquiry κ)
  | .finish id => WorkerPool.tasksOf (s.station id).running
  | _ => []

end Service

namespace WorkerPool

variable {α : Type}

theorem mem_tasksOf {jobs : List (Job α)} {a : α} : a ∈ tasksOf jobs ↔ .task a ∈ jobs := by
  rw [tasksOf, List.mem_filterMap]
  constructor
  · rintro ⟨job, hmem, hjob⟩
    cases job with
    | task b => exact Option.some.inj hjob ▸ hmem
    | signal s => cases hjob
  · exact fun hmem ↦ ⟨_, hmem, rfl⟩

theorem running_poll (p : WorkerPool α) (id : WorkerId) : (p.poll id).2.running = p.running := by
  have hlost (signals : List SignalId) (p : WorkerPool α) :
      (signals.foldl (fun p signal ↦ p.setSignal signal .lost) p).running = p.running := by
    induction signals generalizing p with
    | nil => rfl
    | cons first rest ih => exact ih _
  unfold poll
  split
  · dsimp only
    split
    · rfl
    · rfl
    · exact hlost _ _
  · rfl

theorem running_begin? {p p' : WorkerPool α} {id : WorkerId} {job : Job α}
    (h : p.begin? id = some (job, p')) : p'.running = p.running ++ [(id, job)] := by
  unfold begin? at h
  cases hfind : p.handed.find? (·.1 = id) with
  | none => simp [hfind] at h
  | some found =>
    obtain ⟨other, first⟩ := found
    rw [hfind] at h
    cases first <;> cases h <;> rfl

theorem running_finish (p : WorkerPool α) (id : WorkerId) :
    (p.finish id).running = p.running.filter (·.1 ≠ id) := by
  unfold finish
  split
  · rfl
  · next hnone =>
    refine (List.filter_eq_self.mpr fun x hx ↦ ?_).symm
    rw [decide_eq_true_eq]
    rintro rfl
    exact hnone (List.any_eq_true.mpr ⟨x, hx, decide_eq_true rfl⟩)

theorem running_drained (p : WorkerPool α) (id : WorkerId) :
    (p.drained id).2.running = p.running := by
  unfold drained
  cases hsubmit : p.newSignal.2.submit id (.signal p.newSignal.1) with
  | ok p' =>
    obtain ⟨w, -, -, rfl⟩ := eq_modify_of_submit hsubmit
    simp only [hsubmit]
    rfl
  | error e =>
    simp only [hsubmit]
    rfl

end WorkerPool

namespace Workforce

variable {s s' : Workforce κ} {window : WindowKey}

/-! ## Those that wait, and those that are served -/

/-- The requests of a window that wait at a worker. -/
def waitingAt (s : Workforce κ) (window : WindowKey) (id : WorkerId) : List (Inquiry κ) :=
  ofWindow window (WorkerPool.tasksOf (s.station id).line)

/-- The requests of a window that wait, by the order of the workers. -/
def waiting (s : Workforce κ) (window : WindowKey) : List (Inquiry κ) :=
  (List.range s.pool.workers.length).flatMap fun n ↦ s.waitingAt window ⟨n⟩

/-- The requests of a window that are being answered. -/
def answering (s : Workforce κ) (window : WindowKey) : List (Inquiry κ) :=
  ofWindow window (WorkerPool.tasksOf (s.pool.running.map (·.2)))

theorem answering_congr (h : s'.pool.running = s.pool.running) :
    s'.answering window = s.answering window := by
  rw [answering, answering, h]

theorem waitingAt_of_line {id : WorkerId} {line : List (Job (Inquiry κ))}
    (h : (s.station id).line = line) :
    s.waitingAt window id = ofWindow window (WorkerPool.tasksOf line) := by
  rw [waitingAt, h]

theorem Sound.waiting_of_bound (h : s.Sound) {n : Nat} (hn : s.pool.workers.length ≤ n) :
    s.waiting window = (List.range n).flatMap fun k ↦ s.waitingAt window ⟨k⟩ := by
  obtain ⟨extra, rfl⟩ := Nat.exists_eq_add_of_le hn
  have hnone : ((List.range extra).map (s.pool.workers.length + ·)).flatMap
      (fun k ↦ s.waitingAt window ⟨k⟩) = [] := by
    rw [List.flatMap_eq_nil_iff]
    intro k hk
    obtain ⟨j, -, rfl⟩ := List.mem_map.mp hk
    have hline : (s.station ⟨s.pool.workers.length + j⟩).line = [] := by
      by_contra hline
      exact absurd (h.index_lt hline) (Nat.not_lt.mpr (Nat.le_add_right _ _))
    rw [waitingAt, hline]
    rfl
  rw [List.range_add, List.flatMap_append, hnone, List.append_nil]
  rfl

/-- The requests of a window that wait at workers before a certain one. -/
def waitingBefore (s : Workforce κ) (window : WindowKey) (id : WorkerId) : List (Inquiry κ) :=
  (List.range id.index).flatMap fun k ↦ s.waitingAt window ⟨k⟩

/-- The requests of a window that wait at the next `n` workers behind a certain one. -/
def waitingBehind (s : Workforce κ) (window : WindowKey) (id : WorkerId) (n : Nat) :
    List (Inquiry κ) :=
  (List.range n).flatMap fun k ↦ s.waitingAt window ⟨id.index + 1 + k⟩

theorem waitingBefore_eq_nil {id : WorkerId}
    (h : ∀ j : WorkerId, j.index < id.index → s.waitingAt window j = []) :
    s.waitingBefore window id = [] :=
  List.flatMap_eq_nil_iff.mpr fun k hk ↦ h ⟨k⟩ (List.mem_range.mp hk)

theorem waitingBehind_eq_nil {id : WorkerId} (n : Nat)
    (h : ∀ j : WorkerId, id.index < j.index → s.waitingAt window j = []) :
    s.waitingBehind window id n = [] := by
  refine List.flatMap_eq_nil_iff.mpr fun k _ ↦ h ⟨id.index + 1 + k⟩ ?_
  change id.index < id.index + 1 + k
  omega

/-- The lines before a worker, its own line, and the lines behind it. -/
theorem Sound.waiting_split (h : s.Sound) (id : WorkerId) {n : Nat}
    (hn : s.pool.workers.length ≤ n) : s.waiting window =
      s.waitingBefore window id ++ (s.waitingAt window id ++ s.waitingBehind window id n) := by
  rw [h.waiting_of_bound (n := id.index + 1 + n) (by omega), List.range_add,
    List.flatMap_append, List.range_succ, List.flatMap_append, List.flatMap_map,
    List.append_assoc, List.flatMap_singleton]
  rfl

/-- When the line of one worker changes, what waits before and behind it stays. -/
theorem Sound.waiting_change (h : s.Sound) (h' : s'.Sound) (id : WorkerId)
    (hothers : ∀ j, j ≠ id → s'.waitingAt window j = s.waitingAt window j) :
    ∃ n, s.waiting window = s.waitingBefore window id ++
          (s.waitingAt window id ++ s.waitingBehind window id n) ∧
      s'.waiting window = s.waitingBefore window id ++
          (s'.waitingAt window id ++ s.waitingBehind window id n) := by
  have hbefore : s'.waitingBefore window id = s.waitingBefore window id := by
    refine List.flatMap_congr fun k hk ↦ hothers ⟨k⟩ ?_
    rintro rfl
    exact Nat.lt_irrefl _ (List.mem_range.mp hk)
  have hbehind (n : Nat) : s'.waitingBehind window id n = s.waitingBehind window id n := by
    refine List.flatMap_congr fun k _ ↦ hothers ⟨id.index + 1 + k⟩ fun heq ↦ ?_
    have hindex := congrArg WorkerId.index heq
    dsimp only at hindex
    omega
  refine ⟨max s.pool.workers.length s'.pool.workers.length,
    h.waiting_split id (Nat.le_max_left _ _), ?_⟩
  rw [h'.waiting_split id (Nat.le_max_right s.pool.workers.length _), hbefore, hbehind]

theorem Sound.waiting_congr (h : s.Sound) (h' : s'.Sound)
    (hsame : ∀ id, s'.waitingAt window id = s.waitingAt window id) :
    s'.waiting window = s.waiting window := by
  obtain ⟨n, hs, hs'⟩ := h.waiting_change h' ⟨0⟩ fun j _ ↦ hsame j
  rw [hs, hs', hsame]

/-- What is put at the end of a line with nothing behind it is put at the end. -/
theorem Sound.waiting_push (h : s.Sound) (h' : s'.Sound) {id : WorkerId} {new : List (Inquiry κ)}
    (hat : s'.waitingAt window id = s.waitingAt window id ++ new)
    (hothers : ∀ j, j ≠ id → s'.waitingAt window j = s.waitingAt window j)
    (hlast : ∀ j : WorkerId, id.index < j.index → s.waitingAt window j = []) :
    s'.waiting window = s.waiting window ++ new := by
  obtain ⟨n, hs, hs'⟩ := h.waiting_change h' id hothers
  rw [hs, hs', hat, waitingBehind_eq_nil n hlast, List.append_nil, List.append_nil,
    List.append_assoc]

/-- What is taken off the front of a line with nothing before it is taken off the front. -/
theorem Sound.waiting_pop (h : s.Sound) (h' : s'.Sound) {id : WorkerId} {first : List (Inquiry κ)}
    (hat : s.waitingAt window id = first ++ s'.waitingAt window id)
    (hothers : ∀ j, j ≠ id → s'.waitingAt window j = s.waitingAt window j)
    (hfirst : ∀ j : WorkerId, j.index < id.index → s.waitingAt window j = []) :
    s.waiting window = first ++ s'.waiting window := by
  obtain ⟨n, hs, hs'⟩ := h.waiting_change h' id hothers
  rw [hs, hs', hat, waitingBefore_eq_nil hfirst, List.nil_append, List.nil_append,
    List.append_assoc]

/-! ## Who waits where -/

theorem mem_waitingAt {id : WorkerId} {inquiry : Inquiry κ} :
    inquiry ∈ s.waitingAt window id ↔
      .task inquiry ∈ (s.station id).line ∧ inquiry.ask.window = window := by
  rw [waitingAt, ofWindow, List.mem_filter, decide_eq_true_eq, WorkerPool.mem_tasksOf]

theorem mem_answering {inquiry : Inquiry κ} :
    inquiry ∈ s.answering window ↔
      ∃ id, .task inquiry ∈ (s.station id).running ∧ inquiry.ask.window = window := by
  rw [answering, ofWindow, List.mem_filter, decide_eq_true_eq, WorkerPool.mem_tasksOf,
    List.mem_map]
  constructor
  · rintro ⟨⟨⟨id, job⟩, hjob, rfl⟩, hwindow⟩
    exact ⟨id, WorkerPool.mem_jobsAt.mpr hjob, hwindow⟩
  · rintro ⟨id, hjob, hwindow⟩
    exact ⟨⟨(id, _), WorkerPool.mem_jobsAt.mp hjob, rfl⟩, hwindow⟩

theorem Sound.serves_of_waitingAt (h : s.Sound) {id : WorkerId} {inquiry : Inquiry κ}
    (hmem : inquiry ∈ s.waitingAt window id) : s.Serves id window ∧ s.HasTask id := by
  obtain ⟨hline, rfl⟩ := mem_waitingAt.mp hmem
  have hunfinished := List.mem_append_right (s.station id).running hline
  exact ⟨h.placed id inquiry hunfinished, inquiry, hunfinished⟩

/-- Nobody waits behind the worker that the registry has for the window. -/
theorem Ordered.waitingAt_behind (hordered : s.Ordered window) (h : s.Sound) {i j : WorkerId}
    (hlive : (window, i) ∈ s.registry.workers) (hlt : i.index < j.index) :
    s.waitingAt window j = [] := by
  rw [List.eq_nil_iff_forall_not_mem]
  intro inquiry hmem
  exact Nat.not_lt_of_le (hordered.latest i hlive j (h.serves_of_waitingAt hmem).1) hlt

/-- Nobody of the window waits before a worker that has handed over a request of it. -/
theorem Ordered.waitingAt_before (hordered : s.Ordered window) (h : s.Sound) {i j : WorkerId}
    {inquiry : Inquiry κ} (hhead : (s.station i).handed.head? = some (.task inquiry))
    (hwindow : inquiry.ask.window = window) (hlt : j.index < i.index) :
    s.waitingAt window j = [] := by
  have hline := (h.station i).line_of_handed hhead
  have hmem : inquiry ∈ s.waitingAt window i :=
    mem_waitingAt.mpr ⟨hline ▸ List.mem_cons_self, hwindow⟩
  obtain ⟨hserves, -⟩ := h.serves_of_waitingAt hmem
  rw [List.eq_nil_iff_forall_not_mem]
  intro other hother
  obtain ⟨hserves', htask⟩ := h.serves_of_waitingAt hother
  have hspent : ¬ (s.station i).IsSpent := by
    rw [Station.IsSpent, Station.unfinished, hline]
    simp
  have hwaits := hordered.behind j i hserves' hserves hlt htask (.inl hspent)
  rw [(h.idle_of_waits hwaits).1] at hhead
  cases hhead

/-! ## What a service does to those who wait -/

theorem line_poll (s : Workforce κ) (id j : WorkerId) :
    ((s.step (.poll id)).station j).line = (s.station j).line := by
  have hstation : (s.step (.poll id)).station j = _ := s.pool.station_poll id j
  rw [hstation]
  split
  · exact ((s.pool.station j).polled_spec _).line_eq
  · rfl

theorem line_finish (s : Workforce κ) (id j : WorkerId) :
    ((s.step (.finish id)).station j).line = (s.station j).line := by
  have hstation : (s.step (.finish id)).station j = _ := s.pool.station_finish id j
  rw [hstation]
  split
  · exact (s.pool.station j).finished_line
  · rfl

theorem Sound.line_lookUp (h : s.Sound) (inquiry : Inquiry κ) (id : WorkerId) :
    ((s.lookUp inquiry).station id).line = (s.station id).line := by
  cases hlookup : s.registry.workers.lookup inquiry.ask.window with
  | some i =>
    rw [lookUp_of_some hlookup]
    exact (s.touches_hold inquiry i).line (fun _ ↦ rfl) id
  | none =>
    rw [lookUp_of_none hlookup, ← h.line_enlist inquiry.ask.window id]
    exact ((s.enlist inquiry.ask.window).touches_hold inquiry _).line (fun _ ↦ rfl) id

theorem Sound.accepts_request (h : s.Sound) (inquiry : Inquiry κ) :
    Service.accepts s (.request inquiry) = [inquiry] := by
  have hopen : ∃ pool, (s.registry.worker s.pool inquiry.ask.window).2.2.submit
      (s.registry.worker s.pool inquiry.ask.window).1 (.task inquiry) = .ok pool := by
    rw [Registry.worker]
    split
    · next id hlookup =>
      obtain ⟨w, hw, -, hopen, -⟩ := h.live _ id (Registry.mem_of_lookup hlookup)
      exact WorkerPool.submit_of_open hw hopen _
    · have hnew := s.station_enlist inquiry.ask.window ⟨s.pool.workers.length⟩
      rw [if_pos rfl] at hnew
      exact WorkerPool.submit_of_open (congrArg Station.worker hnew) rfl _
  obtain ⟨pool, hpool⟩ := hopen
  simp only [Service.accepts, hpool]

theorem running_lookUp (s : Workforce κ) (inquiry : Inquiry κ) :
    (s.lookUp inquiry).pool.running = s.pool.running := by
  cases hlookup : s.registry.workers.lookup inquiry.ask.window with
  | some id =>
    rw [lookUp_of_some hlookup]
    rfl
  | none =>
    rw [lookUp_of_none hlookup]
    rfl

theorem running_submit (s : Workforce κ) (index : Nat) :
    (s.submit index).pool.running = s.pool.running := by
  cases hheld : s.held[index]? with
  | none => rw [submit_of_none hheld]
  | some found =>
    obtain ⟨inquiry, id⟩ := found
    cases hsubmit : s.pool.submit id (.task inquiry) with
    | error e =>
      rw [submit_of_error hheld hsubmit]
      rfl
    | ok pool =>
      rw [submit_of_ok hheld hsubmit]
      obtain ⟨w, -, -, rfl⟩ := WorkerPool.eq_modify_of_submit hsubmit
      rfl

/-- A request that is submitted at once is put at the end, and this is careful. -/
theorem Sound.request_spec (h : s.Sound) (hordered : ∀ window, s.Ordered window)
    (hheld : s.held = []) (inquiry : Inquiry κ) :
    s.CarefulFrom [.lookUp inquiry, .submit 0] ∧ ((s.lookUp inquiry).submit 0).held = [] ∧
      ∀ window, ((s.lookUp inquiry).submit 0).waiting window =
        s.waiting window ++ ofWindow window [inquiry] := by
  obtain ⟨id, hlive, hheld', -, -⟩ := lookUp_spec h inquiry
  rw [hheld] at hheld'
  have hsound := h.lookUp inquiry
  obtain ⟨hcareful, hline, -, hothers⟩ := submit_spec hsound hheld' hlive
  refine ⟨⟨trivial, hcareful, trivial⟩, by simp [Workforce.submit, hheld'], fun window ↦ ?_⟩
  -- the line of the worker grows by the request, and the other lines stay
  have hat : ((s.lookUp inquiry).submit 0).waitingAt window id =
      s.waitingAt window id ++ ofWindow window [inquiry] := by
    rw [List.length_nil, h.line_lookUp] at hline
    rw [waitingAt_of_line hline, WorkerPool.tasksOf_append, ofWindow_append]
    rfl
  have hothers' (j : WorkerId) (hj : j ≠ id) :
      ((s.lookUp inquiry).submit 0).waitingAt window j = s.waitingAt window j := by
    exact waitingAt_of_line ((congrArg Station.line (hothers j hj)).trans (h.line_lookUp inquiry j))
  by_cases hwindow : inquiry.ask.window = window
  · subst hwindow
    refine h.waiting_push (hsound.submit 0) hat hothers' fun j hlt ↦ ?_
    have hnone := ((hordered inquiry.ask.window).lookUp h inquiry).waitingAt_behind hsound hlive hlt
    rw [waitingAt, h.line_lookUp] at hnone
    exact hnone
  · rw [ofWindow_other hwindow, List.append_nil] at hat ⊢
    refine h.waiting_congr (hsound.submit 0) fun j ↦ ?_
    by_cases hj : j = id
    · rw [hj, hat]
    · exact hothers' j hj

/-- An invalidation puts signals at the ends of lines, and nothing else. -/
theorem Sound.invalidate_spec (h : s.Sound) :
    s.invalidate.held = s.held ∧ s.invalidate.pool.running = s.pool.running ∧
      ∀ window, s.invalidate.waiting window = s.waiting window := by
  refine (invalidate_induction (P := fun s' ↦ s'.held = s.held ∧
    s'.pool.running = s.pool.running ∧ ∀ window, s'.waiting window = s.waiting window)
    h ⟨rfl, rfl, fun _ ↦ rfl⟩ ?_ ?_).2
  · intro s' other id hsound ⟨hheld, hrunning, hwaiting⟩ hlive
    refine ⟨hheld, (s'.pool.running_drained id).trans hrunning, fun window ↦ ?_⟩
    · rw [← hwaiting, hsound.waiting_congr (hsound.letGo hlive)]
      intro j
      rw [waitingAt_of_line (hsound.line_letGo hlive j), WorkerPool.tasksOf_append, ofWindow_append]
      split <;> exact List.append_nil _
  · intro s' daemons generation _ hsame
    exact hsame

/-- After a turn of a consumer the same requests wait, and the same are answered. -/
theorem Sound.poll_spec (h : s.Sound) (id : WorkerId) (window : WindowKey) :
    (s.step (.poll id)).answering window = s.answering window ∧
      (s.step (.poll id)).waiting window = s.waiting window := by
  constructor
  · exact answering_congr (s.pool.running_poll id)
  · exact h.waiting_congr (h.poll id) fun j ↦ waitingAt_of_line (s.line_poll id j)

theorem length_answering (s : Workforce κ) (window : WindowKey) :
    (s.answering window).length = s.pool.running.countP (·.2.isFor window) := by
  rw [answering]
  induction s.pool.running with
  | nil => rfl
  | cons first rest ih =>
    rw [List.map_cons, List.countP_cons, ← ih, ← List.singleton_append,
      WorkerPool.tasksOf_append, ofWindow_append, List.length_append, Nat.add_comm]
    congr 1
    rcases first with ⟨id, inquiry | t⟩
    · by_cases hwindow : inquiry.ask.window = window
      · subst hwindow
        exact (congrArg List.length (ofWindow_self inquiry)).trans (by simp [Job.isFor])
      · exact (congrArg List.length (ofWindow_other hwindow)).trans (by simp [Job.isFor, hwindow])
    · rfl

/-- **The first one in turn.** The job that begins belongs to the first request of its window that
waits. -/
theorem Sound.begin_spec (h : s.Sound) (hordered : ∀ window, s.Ordered window) {id : WorkerId}
    {job : Job (Inquiry κ)} {pool : WorkerPool (Inquiry κ)}
    (hbegin : s.pool.begin? id = some (job, pool)) (window : WindowKey) :
    (s.step (.begin id)).answering window =
        s.answering window ++ ofWindow window (WorkerPool.tasksOf [job]) ∧
      s.waiting window = ofWindow window (WorkerPool.tasksOf [job]) ++
        (s.step (.begin id)).waiting window := by
  obtain ⟨hhead, hstation, -⟩ := WorkerPool.begin?_spec hbegin
  have hsound' := h.begin id
  rw [begin_of_some hbegin] at hsound' ⊢
  constructor
  · rw [answering, WorkerPool.running_begin? hbegin, List.map_append, WorkerPool.tasksOf_append,
      ofWindow_append]
    rfl
  have hline := (h.station id).line_of_handed hhead
  have hstation' (j : WorkerId) : Workforce.station { s with pool := pool } j = _ := hstation j
  have hat : s.waitingAt window id = ofWindow window (WorkerPool.tasksOf [job]) ++
      waitingAt { s with pool := pool } window id := by
    rw [waitingAt_of_line hline, ← List.singleton_append, WorkerPool.tasksOf_append,
      ofWindow_append, waitingAt, hstation', if_pos rfl]
  have hothers (j : WorkerId) (hj : j ≠ id) :
      waitingAt { s with pool := pool } window j = s.waitingAt window j := by
    rw [waitingAt, waitingAt, hstation', if_neg hj]
  rcases hjob : ofWindow window (WorkerPool.tasksOf [job]) with - | ⟨inquiry, rest⟩
  · rw [hjob, List.nil_append] at hat
    refine (h.waiting_congr hsound' fun j ↦ ?_).symm
    by_cases hj : j = id
    · rw [hj, hat]
    · exact hothers j hj
  · -- the job is a request of the window, and nobody of the window waits at an earlier worker
    rw [← hjob]
    have hmem : inquiry ∈ ofWindow window (WorkerPool.tasksOf [job]) := hjob ▸ List.mem_cons_self
    rw [ofWindow, List.mem_filter, decide_eq_true_eq, WorkerPool.mem_tasksOf,
      List.mem_singleton] at hmem
    obtain ⟨rfl, hwindow⟩ := hmem
    exact h.waiting_pop hsound' hat hothers fun j hlt ↦
      (hordered window).waitingAt_before h hhead hwindow hlt

private theorem eq_of_perm_of_length_le {β : Type} {l l' : List β} (h : l.Perm l')
    (hone : l.length ≤ 1) : l = l' := by
  match l with
  | [] => exact (List.nil_perm.mp h).symm
  | [x] => exact (List.singleton_perm.mp h)
  | _ :: _ :: _ => simp at hone

theorem Sound.finish_spec (h : s.Sound) (hordered : ∀ window, s.Ordered window) (id : WorkerId)
    (window : WindowKey) :
    s.answering window = ofWindow window (WorkerPool.tasksOf (s.station id).running) ++
        (s.step (.finish id)).answering window ∧
      (s.step (.finish id)).waiting window = s.waiting window := by
  constructor
  · have hperm {jobs jobs' : List (WorkerId × Job (Inquiry κ))} (hjobs : jobs.Perm jobs') :
        (ofWindow window (WorkerPool.tasksOf (jobs.map (·.2)))).Perm
          (ofWindow window (WorkerPool.tasksOf (jobs'.map (·.2)))) :=
      ((hjobs.map _).filterMap _).filter _
    refine eq_of_perm_of_length_le ?_ ?_
    · have hsplit := hperm (List.filter_append_perm (fun job : WorkerId × Job (Inquiry κ) ↦
        decide (job.1 = id)) s.pool.running).symm
      rw [List.map_append, WorkerPool.tasksOf_append, ofWindow_append] at hsplit
      rw [answering, answering, Workforce.step, WorkerPool.running_finish]
      simpa [WorkerPool.station, WorkerPool.jobsAt] using hsplit
    · rw [length_answering]
      exact h.atMostOne hordered window
  · exact h.waiting_congr (h.finish id) fun j ↦ waitingAt_of_line (s.line_finish id j)

theorem mem_begins {id : WorkerId} {inquiry : Inquiry κ} :
    inquiry ∈ s.begins id ↔ ∃ pool, s.pool.begin? id = some (.task inquiry, pool) := by
  rw [begins]
  cases hbegin : s.pool.begin? id with
  | none => simp
  | some found =>
    obtain ⟨job, pool⟩ := found
    simp only [WorkerPool.mem_tasksOf, List.mem_singleton, Option.some.injEq, Prod.mk.injEq]
    constructor
    · rintro rfl
      exact ⟨pool, rfl, rfl⟩
    · rintro ⟨_, hjob, -⟩
      exact hjob.symm

/-- A turn of the workers begins a job that is in a line, or leaves it there with the same jobs
behind it. -/
private theorem begins_or_line_of_turn (h : s.Sound) {id : WorkerId} {inquiry : Inquiry κ}
    {front rest : List (Job (Inquiry κ))} {move : Move κ} (hturn : Move.IsTurn move)
    (hline : (s.station id).line = front ++ .task inquiry :: rest) :
    inquiry ∈ s.begins id ∨
      ∃ front, ((s.step move).station id).line = front ++ .task inquiry :: rest := by
  cases move with
  | poll i => exact .inr ⟨front, (s.line_poll i id).trans hline⟩
  | finish i => exact .inr ⟨front, (s.line_finish i id).trans hline⟩
  | begin i =>
    cases hbegin : s.pool.begin? i with
    | none => exact .inr ⟨front, by rw [begin_of_none hbegin, hline]⟩
    | some found =>
      obtain ⟨job, pool⟩ := found
      obtain ⟨hhead, hstation, -⟩ := WorkerPool.begin?_spec hbegin
      rw [begin_of_some hbegin]
      have hstation' : Workforce.station { s with pool := pool } id = _ := hstation id
      by_cases hid : id = i
      · subst hid
        rw [if_pos rfl] at hstation'
        have hfirst := (h.station id).line_of_handed hhead
        rw [hline] at hfirst
        -- what begins is the first of the line, and that is our job if nothing is before it
        rcases front with _ | ⟨first, front⟩
        · obtain ⟨rfl, -⟩ := List.cons.inj hfirst
          exact .inl (mem_begins.mpr ⟨pool, hbegin⟩)
        · refine .inr ⟨front, ?_⟩
          rw [hstation']
          exact (List.cons.inj hfirst).2.symm
      · rw [if_neg hid] at hstation'
        exact .inr ⟨front, by rw [hstation']; exact hline⟩
  | _ => exact hturn.elim

/-- A job that leaves a line by turns of the workers has begun. -/
private theorem begins_of_turns (h : s.Sound) {id : WorkerId} {inquiry : Inquiry κ}
    {front rest : List (Job (Inquiry κ))} {moves : List (Move κ)}
    (hturns : ∀ move ∈ moves, Move.IsTurn move)
    (hline : (s.station id).line = front ++ .task inquiry :: rest)
    (hafter : ((s.run moves).station id).line = rest) :
    ∃ before, (∀ move ∈ before, Move.IsTurn move) ∧ inquiry ∈ (s.run before).begins id := by
  induction moves generalizing s front with
  | nil =>
    have hlength := congrArg List.length (hline.symm.trans hafter)
    simp at hlength
    omega
  | cons move moves ih =>
    rw [List.forall_mem_cons] at hturns
    obtain hnow | ⟨front', hline'⟩ := begins_or_line_of_turn h hturns.1 hline
    · exact ⟨[], by simp, hnow⟩
    · obtain ⟨before, hbefore, hbegins⟩ := ih (h.step move) hturns.2 hline' hafter
      exact ⟨move :: before, List.forall_mem_cons.mpr ⟨hturns.1, hbefore⟩, hbegins⟩

/-- **Every task in a line can be made to begin**, by moves of the workers alone. -/
theorem Sound.exists_begins (h : s.Sound) {id : WorkerId} {inquiry : Inquiry κ}
    (hline : .task inquiry ∈ (s.station id).line) :
    ∃ moves, (∀ move ∈ moves, Move.IsTurn move) ∧ inquiry ∈ (s.run moves).begins id := by
  obtain ⟨front, rest, hsplit⟩ := List.append_of_mem hline
  have hstill : id ≠ ⟨s.pool.workers.length⟩ := by
    rintro rfl
    rw [h.station_new] at hsplit
    simp [Station.line] at hsplit
  have hnone : s.pool.signalsIn ⟨s.pool.workers.length⟩ = [] :=
    congrArg (fun st : Station (Inquiry κ) ↦ WorkerPool.signalsOf st.line) h.station_new
  obtain ⟨moves, hmoves⟩ := exists_drives h hstill hnone hsplit
  exact begins_of_turns h hmoves.turns hsplit hmoves.line

/-- A request that waits can be made to be answered by moves of the workers alone. -/
theorem Sound.exists_answering (h : s.Sound) {inquiry : Inquiry κ}
    (hmem : inquiry ∈ s.waiting window) :
    ∃ moves, (∀ move ∈ moves, Move.IsTurn move) ∧ inquiry ∈ (s.run moves).answering window := by
  obtain ⟨n, -, hat⟩ := List.mem_flatMap.mp hmem
  obtain ⟨hline, hwindow⟩ := mem_waitingAt.mp hat
  obtain ⟨moves, hturns, hbegins⟩ := h.exists_begins hline
  obtain ⟨pool, hbegin⟩ := mem_begins.mp hbegins
  refine ⟨moves ++ [.begin ⟨n⟩], ?_, ?_⟩
  · intro move hmove
    rcases List.mem_append.mp hmove with hold | hnew
    · exact hturns move hold
    · exact List.mem_singleton.mp hnew ▸ trivial
  · rw [run_append, run_cons, run_nil, begin_of_some hbegin]
    refine mem_answering.mpr ⟨⟨n⟩, WorkerPool.mem_jobsAt.mpr ?_, hwindow⟩
    rw [WorkerPool.running_begin? hbegin]
    exact List.mem_append_right _ (List.mem_singleton.mpr rfl)

/-- **A service takes requests from one end to the other.** Those that are accepted are put behind
those that wait, those that begin were the first that waited, and those that end were being
answered. -/
theorem Sound.service_spec (h : s.Sound) (hordered : ∀ window, s.Ordered window)
    (hheld : s.held = []) (service : Service κ) :
    s.CarefulFrom service.moves ∧ (s.run service.moves).held = [] ∧ ∀ window,
      s.waiting window ++ ofWindow window (service.accepts s) =
          ofWindow window (service.begins s) ++ (s.run service.moves).waiting window ∧
        s.answering window ++ ofWindow window (service.begins s) =
          ofWindow window (service.ends s) ++ (s.run service.moves).answering window := by
  cases service with
  | request inquiry =>
    obtain ⟨hcareful, hnone, hwaiting⟩ := h.request_spec hordered hheld inquiry
    refine ⟨hcareful, hnone, fun window ↦ ⟨?_, ?_⟩⟩
    · rw [h.accepts_request]
      exact (hwaiting window).symm
    · have hrunning := (running_submit (s.lookUp inquiry) 0).trans (running_lookUp s inquiry)
      exact (List.append_nil _).trans (answering_congr hrunning).symm
  | invalidate =>
    obtain ⟨hnone, hrunning, hwaiting⟩ := h.invalidate_spec
    refine ⟨⟨trivial, trivial⟩, hnone.trans hheld, fun window ↦ ⟨?_, ?_⟩⟩
    · exact (List.append_nil _).trans (hwaiting window).symm
    · exact (List.append_nil _).trans (answering_congr hrunning).symm
  | poll id =>
    refine ⟨⟨trivial, trivial⟩, hheld, fun window ↦ ?_⟩
    obtain ⟨hanswering, hwaiting⟩ := h.poll_spec id window
    exact ⟨(List.append_nil _).trans hwaiting.symm, (List.append_nil _).trans hanswering.symm⟩
  | begin id =>
    refine ⟨⟨trivial, trivial⟩, hheld, fun window ↦ ?_⟩
    change _ = _ ++ (s.step (.begin id)).waiting window ∧
      _ = [] ++ (s.step (.begin id)).answering window
    cases hbegin : s.pool.begin? id with
    | none =>
      rw [begin_of_none hbegin, Service.begins, begins, hbegin]
      exact ⟨List.append_nil _, List.append_nil _⟩
    | some found =>
      obtain ⟨job, pool⟩ := found
      obtain ⟨hanswering, hwaiting⟩ := h.begin_spec hordered hbegin window
      rw [Service.begins, begins, hbegin]
      exact ⟨(List.append_nil _).trans hwaiting, hanswering.symm⟩
  | finish id =>
    refine ⟨⟨trivial, trivial⟩, hheld, fun window ↦ ?_⟩
    obtain ⟨hanswering, hwaiting⟩ := h.finish_spec hordered id window
    exact ⟨(List.append_nil _).trans hwaiting.symm, (List.append_nil _).trans hanswering⟩

end Workforce

/-! ## Ledgers -/

/-- A workforce, and what has become of the requests, each list in the order of time. -/
structure Ledger (κ : Type) where
  workforce : Workforce κ
  accepted : List (Inquiry κ)
  begun : List (Inquiry κ)
  ended : List (Inquiry κ)

namespace Ledger

def start : Ledger κ := ⟨.start, [], [], []⟩

def step (s : Ledger κ) (service : Service κ) : Ledger κ where
  workforce := s.workforce.run service.moves
  accepted := s.accepted ++ service.accepts s.workforce
  begun := s.begun ++ service.begins s.workforce
  ended := s.ended ++ service.ends s.workforce

def run (services : List (Service κ)) : Ledger κ := services.foldl step start

theorem run_append_single (services : List (Service κ)) (service : Service κ) :
    run (services ++ [service]) = (run services).step service := by
  rw [run, List.foldl_append]
  rfl

/-- What holds after every service: the ledger is divided into those who were served and those who
wait, and the former into those who were answered and those who are being answered. -/
structure Balanced (s : Ledger κ) : Prop where
  sound : s.workforce.Sound
  ordered : ∀ window, s.workforce.Ordered window
  held : s.workforce.held = []
  accepted : ∀ window, ofWindow window s.accepted =
    ofWindow window s.begun ++ s.workforce.waiting window
  begun : ∀ window, ofWindow window s.begun =
    ofWindow window s.ended ++ s.workforce.answering window

theorem Balanced.step {s : Ledger κ} (h : s.Balanced) (service : Service κ) :
    (s.step service).Balanced := by
  obtain ⟨hcareful, hheld, hspec⟩ := h.sound.service_spec h.ordered h.held service
  refine ⟨h.sound.run _, fun window ↦ (h.ordered window).run h.sound hcareful, hheld, ?_, ?_⟩
  · intro window
    calc ofWindow window (s.accepted ++ service.accepts s.workforce)
        = ofWindow window s.begun ++
            (s.workforce.waiting window ++ ofWindow window (service.accepts s.workforce)) := by
          rw [ofWindow_append, h.accepted, List.append_assoc]
      _ = _ := by rw [(hspec window).1, ← List.append_assoc, ← ofWindow_append]; rfl
  · intro window
    calc ofWindow window (s.begun ++ service.begins s.workforce)
        = ofWindow window s.ended ++
            (s.workforce.answering window ++ ofWindow window (service.begins s.workforce)) := by
          rw [ofWindow_append, h.begun, List.append_assoc]
      _ = _ := by rw [(hspec window).2, ← List.append_assoc, ← ofWindow_append]; rfl

theorem Balanced.answering_le {s : Ledger κ} (h : s.Balanced) (window : WindowKey) :
    (s.workforce.answering window).length ≤ 1 := by
  rw [Workforce.length_answering]
  exact h.sound.atMostOne h.ordered window

theorem balanced_start : (start : Ledger κ).Balanced :=
  ⟨Workforce.sound_start, fun _ ↦ Workforce.ordered_start, rfl, fun _ ↦ rfl, fun _ ↦ rfl⟩

theorem balanced_run (services : List (Service κ)) : (run services).Balanced := by
  induction services using List.reverseRecOn with
  | nil => exact balanced_start
  | append_singleton services service ih =>
    rw [run_append_single]
    exact ih.step service

/-- As long as nobody is removed, every request is accepted. -/
theorem accepted_run (services : List (Service κ)) :
    (run services).accepted = services.flatMap (·.requested) := by
  induction services using List.reverseRecOn with
  | nil => rfl
  | append_singleton services service ih =>
    rw [run_append_single, List.flatMap_append, ← ih, List.flatMap_singleton]
    refine congrArg ((run services).accepted ++ ·) ?_
    cases service with
    | request inquiry => exact (balanced_run services).sound.accepts_request inquiry
    | _ => rfl

/-- Whatever the workers can do by themselves they can do as services. -/
theorem exists_run_of_turns (services : List (Service κ)) {moves : List (Move κ)}
    (h : ∀ move ∈ moves, Workforce.Move.IsTurn move) :
    ∃ more : List (Service κ), (∀ service ∈ more, service.IsTurn) ∧
      (run (services ++ more)).workforce = (run services).workforce.run moves := by
  induction moves using List.reverseRecOn with
  | nil => exact ⟨[], by simp, by rw [List.append_nil]; rfl⟩
  | append_singleton moves move ih =>
    obtain ⟨more, hmore, hrun⟩ := ih fun other hother ↦ h other (List.mem_append_left _ hother)
    have hturn := h move (List.mem_append_right _ (List.mem_singleton.mpr rfl))
    obtain ⟨service, hservice, hmoves⟩ : ∃ service : Service κ, service.IsTurn ∧
        service.moves = [move] := by
      cases move with
      | poll id => exact ⟨.poll id, trivial, rfl⟩
      | begin id => exact ⟨.begin id, trivial, rfl⟩
      | finish id => exact ⟨.finish id, trivial, rfl⟩
      | _ => exact hturn.elim
    refine ⟨more ++ [service], ?_, ?_⟩
    · intro other hother
      rcases List.mem_append.mp hother with hold | hnew
      · exact hmore other hold
      · exact List.mem_singleton.mp hnew ▸ hservice
    · rw [← List.append_assoc, run_append_single, Workforce.run_append, ← hrun, ← hmoves]
      rfl

/-- What the ledger of a window looks like. -/
structure ServesInOrder (services : List (Service κ)) (window : WindowKey) : Prop where
  /-- Nobody is turned away. -/
  accepted : (run services).accepted = services.flatMap (·.requested)
  /-- Jobs begin in the order in which their requests were accepted, and the others wait. -/
  begun : ofWindow window (run services).accepted =
    ofWindow window (run services).begun ++ (run services).workforce.waiting window
  /-- Jobs end in the order in which they began, and the others are being run. -/
  ended : ofWindow window (run services).begun =
    ofWindow window (run services).ended ++ (run services).workforce.answering window
  atMostOne : ((run services).workforce.answering window).length ≤ 1
  /-- Only the first request that waits may begin, and only when all before it have ended. -/
  next : ∀ id inquiry pool,
    (run services).workforce.pool.begin? id = some (.task inquiry, pool) →
      inquiry.ask.window = window →
      ((run services).workforce.waiting window).head? = some inquiry ∧
        ofWindow window (run services).begun = ofWindow window (run services).ended
  /-- Nobody waits in vain: the workers can go on so that any request is answered. -/
  reached : ∀ inquiry ∈ (run services).workforce.waiting window, ∃ more : List (Service κ),
    (∀ service ∈ more, service.IsTurn) ∧
      inquiry ∈ (run (services ++ more)).workforce.answering window

/-- **First come, first served.** For every window the accepted requests are those that have ended,
then at most one that is being answered, then those that wait, in the order in which they came. -/
theorem run_servesInOrder (services : List (Service κ)) (window : WindowKey) :
    ServesInOrder services window := by
  have h := balanced_run services
  refine ⟨accepted_run services, h.accepted window, h.begun window, h.answering_le window, ?_, ?_⟩
  · rintro id inquiry pool hbegin rfl
    obtain ⟨hanswering, hwaiting⟩ := h.sound.begin_spec h.ordered hbegin inquiry.ask.window
    change _ = _ ++ ofWindow inquiry.ask.window [inquiry] at hanswering
    change _ = ofWindow inquiry.ask.window [inquiry] ++ _ at hwaiting
    rw [ofWindow_self] at hanswering hwaiting
    -- the job that begins is the only one of its window that is being answered afterwards
    have hnone : (run services).workforce.answering inquiry.ask.window = [] := by
      have hone : (((run services).workforce.step (.begin id)).answering
          inquiry.ask.window).length ≤ 1 := (h.step (.begin id)).answering_le _
      rw [hanswering, List.length_append, List.length_singleton] at hone
      exact List.length_eq_zero_iff.mp (by omega)
    refine ⟨by rw [hwaiting]; rfl, ?_⟩
    rw [h.begun, hnone, List.append_nil]
  · intro inquiry hmem
    obtain ⟨moves, hturns, hanswering⟩ := h.sound.exists_answering hmem
    obtain ⟨more, hmore, hrun⟩ := exists_run_of_turns services hturns
    exact ⟨more, hmore, hrun ▸ hanswering⟩

end Ledger

end CodeHints
