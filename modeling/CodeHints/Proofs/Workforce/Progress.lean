import CodeHints.Proofs.Workforce.Overlap
import Mathlib.Data.List.Induction
import Mathlib.Logic.Basic

/-!
# What careless moves lead to

`atMostOne_of_careful` says that careful runs do not overlap. Here is the converse: a move that is
not careful can be followed by careful ones so that two jobs of a window are being run. The two
together say exactly which runs keep the jobs of a window apart.

## Driving a worker

The follow-up has to get a certain job to run. The workers can always be driven so far: the job at
the head of a line is handed over and begun, unless its worker waits for a signal, and then the
signal stands in the line of an earlier worker, which is driven first. So the argument goes by
strong induction on the index of the worker. It touches no later worker, and it can also leave any
one worker alone that holds no signals. That is what makes the overlap possible: once the first job
is being run, the second worker is driven around it.
-/

namespace CodeHints

namespace Workforce

variable {κ : Type} {s : Workforce κ}

/-- A move of the workers, as opposed to those who submit or change the registry. -/
def Move.IsTurn : Move κ → Prop
  | .poll _ | .begin _ | .finish _ => True
  | _ => False

/-- Moves of the workers after which a worker runs the job that stood in its line behind others.
Later workers and the worker `still` are left alone. -/
structure Drives (s : Workforce κ) (moves : List (Move κ)) (id still : WorkerId)
    (job : Job (Inquiry κ)) (rest : List (Job (Inquiry κ))) : Prop where
  turns : ∀ move ∈ moves, Move.IsTurn move
  running : ((s.run moves).station id).running = [job]
  line : ((s.run moves).station id).line = rest
  others : ∀ j, id.index < j.index ∨ j = still → (s.run moves).station j = s.station j
  fired : ∀ t, job = .signal t → (s.run moves).pool.isResolved t = true

theorem carefulFrom_of_turns {moves : List (Move κ)} (h : ∀ move ∈ moves, Move.IsTurn move) :
    s.CarefulFrom moves := by
  induction moves generalizing s with
  | nil => exact trivial
  | cons move moves ih =>
    refine ⟨?_, ih fun m hm ↦ h m (List.mem_cons_of_mem _ hm)⟩
    have hturn := h move List.mem_cons_self
    cases move <;> first | exact trivial | exact hturn.elim

theorem registry_of_turns {moves : List (Move κ)} (h : ∀ move ∈ moves, Move.IsTurn move) :
    (s.run moves).registry = s.registry ∧ (s.run moves).held = s.held := by
  induction moves generalizing s with
  | nil => exact ⟨rfl, rfl⟩
  | cons move moves ih =>
    have hturn := h move List.mem_cons_self
    have hrest := ih (s := s.step move) fun m hm ↦ h m (List.mem_cons_of_mem _ hm)
    rw [run_cons, hrest.1, hrest.2]
    cases move <;> first | exact ⟨rfl, rfl⟩ | exact hturn.elim

theorem drives_begin (hsound : s.Sound) {id : WorkerId} {job : Job (Inquiry κ)}
    {rest : List (Job (Inquiry κ))} (hhanded : (s.station id).handed = [job])
    (hline : (s.station id).line = job :: rest) {still : WorkerId} (hstill : id ≠ still) :
    s.Drives [.begin id] id still job rest := by
  obtain ⟨pool, hbegin⟩ := WorkerPool.begin?_of_handed hhanded
  obtain ⟨hhead, hstation, -⟩ := WorkerPool.begin?_spec hbegin
  have hrun : s.run [.begin id] = { s with pool := pool } := begin_of_some hbegin
  have hline' := (hsound.station id).line_of_handed hhead
  rw [hline, List.cons.injEq] at hline'
  refine ⟨?_, ?_, ?_, ?_, ?_⟩
  · intro move hmove
    rw [List.mem_singleton.mp hmove]
    exact trivial
  · rw [hrun, station, hstation, if_pos rfl]
    change (s.station id).running ++ [job] = [job]
    rw [((hsound.station id).handed_eq hhead).2, List.nil_append]
  · rw [hrun, station, hstation, if_pos rfl]
    exact hline'.2.symm
  · intro j hj
    rw [hrun, station, hstation, if_neg]
    rintro rfl
    exact hj.elim (Nat.lt_irrefl _) hstill
  · rintro t rfl
    rw [hrun, ← Bool.not_eq_false, WorkerPool.pending_begun hbegin]
    exact fun hpending ↦ hpending.1 rfl

theorem drives_ready (hsound : s.Sound) {id : WorkerId} {w : SerialWorker (Inquiry κ)}
    {job : Job (Inquiry κ)} {rest : List (Job (Inquiry κ))}
    (hw : (s.station id).worker = some w) (hready : Station.IsReady s.pool.isResolved w)
    (hline : (s.station id).line = job :: rest) {still : WorkerId} (hstill : id ≠ still) :
    s.Drives [.poll id, .begin id] id still job rest := by
  have hidle : (s.station id).handed = [] := by
    refine ((hsound.station id).eq_nil_of_not_busy ?_).1
    obtain hc | ⟨t, hc, -⟩ := hready.2 <;> simp [Station.isBusy, hw, hc]
  have hqueue : w.queue = job :: rest := by
    rw [← Station.line_of_open hidle hw hready.1]
    exact hline
  have hspec := (s.station id).polled_spec s.pool.isResolved
  have hstation (j : WorkerId) : (s.step (.poll id)).station j =
      if j = id then ((s.station j).polled s.pool.isResolved).2 else s.station j :=
    WorkerPool.station_poll s.pool id j
  have hpolled : ((s.step (.poll id)).station id).handed = [job] := by
    rw [hstation, if_pos rfl, hspec.handed_of_ready hw hready hqueue, hidle, List.nil_append]
  have hline' : ((s.step (.poll id)).station id).line = job :: rest := by
    rw [hstation, if_pos rfl, hspec.line_eq, hline]
  have hbegin := drives_begin (hsound.poll id) hpolled hline' hstill
  refine ⟨List.forall_mem_cons.mpr ⟨trivial, hbegin.turns⟩, hbegin.running, hbegin.line,
    fun j hj ↦ ?_, hbegin.fired⟩
  rw [run_cons, hbegin.others j hj, hstation, if_neg]
  rintro rfl
  exact hj.elim (Nat.lt_irrefl _) hstill

/-- One drive after another one that leaves the worker of the second one alone, or leaves it with
the line that the second one begins with. -/
theorem Drives.trans {moves more : List (Move κ)} {c id still : WorkerId}
    {job job' : Job (Inquiry κ)} {rest rest' : List (Job (Inquiry κ))}
    (h : s.Drives moves c still job rest) (h' : (s.run moves).Drives more id still job' rest')
    (hle : c.index ≤ id.index) : s.Drives (moves ++ more) id still job' rest' := by
  refine ⟨?_, ?_, ?_, ?_, ?_⟩
  · intro move hmove
    exact (List.mem_append.mp hmove).elim (h.turns move) (h'.turns move)
  · rw [run_append]
    exact h'.running
  · rw [run_append]
    exact h'.line
  · intro j hj
    rw [run_append, h'.others j hj]
    exact h.others j (hj.imp_left fun hlt ↦ Nat.lt_of_le_of_lt hle hlt)
  · rw [run_append]
    exact h'.fired

/-- The job at the head of a line can be made to run when its worker runs none, if every job in
the line of an earlier worker can. -/
private theorem drives_head (hsound : s.Sound) {id still : WorkerId} {job : Job (Inquiry κ)}
    {rest : List (Job (Inquiry κ))} (hstill : id ≠ still) (hnone : s.pool.signalsIn still = [])
    (hrunning : (s.station id).running = []) (hline : (s.station id).line = job :: rest)
    (hearlier : ∀ (s : Workforce κ) (c : WorkerId) front job rest, s.Sound →
      s.pool.signalsIn still = [] → c.index < id.index → c ≠ still →
      (s.station c).line = front ++ job :: rest → ∃ moves, s.Drives moves c still job rest) :
    ∃ moves, s.Drives moves id still job rest := by
  cases hhanded : (s.station id).handed with
  | cons first more =>
    have hhead : (s.station id).handed.head? = some first := by rw [hhanded]; rfl
    have hsingle := ((hsound.station id).handed_eq hhead).1
    have hfirst := (hsound.station id).line_of_handed hhead
    rw [hline, List.cons.injEq] at hfirst
    rw [← hfirst.1] at hsingle
    exact ⟨_, drives_begin hsound hsingle hline hstill⟩
  | nil =>
    cases hw : (s.station id).worker with
    | none => simp [Station.line, hhanded, hw] at hline
    | some w =>
      have hopen : w.isClosed = false := by
        cases hclosed : w.isClosed with
        | false => rfl
        | true => rw [Station.line_closed hw hclosed, hhanded] at hline; cases hline
      have hqueue : w.queue = job :: rest := by
        rw [← Station.line_of_open hhanded hw hopen]
        exact hline
      cases hc : w.consumer with
      | idle => exact ⟨_, drives_ready hsound hw ⟨hopen, .inl hc⟩ hline hstill⟩
      | stopped =>
        obtain hclosed | ⟨-, hnil⟩ := (hsound.station id).stopped w hw hc
        · rw [hopen] at hclosed; cases hclosed
        · rw [hqueue] at hnil; cases hnil
      | waiting t =>
        cases hresolved : s.pool.isResolved t with
        | true => exact ⟨_, drives_ready hsound hw ⟨hopen, .inr ⟨t, hc, hresolved⟩⟩ hline hstill⟩
        | false =>
          -- the signal stands in the line of an earlier worker, which is driven until it fires
          obtain ⟨c, hlt, hmem⟩ := (hsound.linked.awaited id t ⟨w, hw, hc⟩).2 hresolved
          have hcstill : c ≠ still := by
            rintro rfl
            rw [hnone] at hmem
            cases hmem
          obtain ⟨front, back, hsplit⟩ := List.append_of_mem (WorkerPool.mem_signalsOf.mp hmem)
          obtain ⟨moves, hmoves⟩ := hearlier s c front _ back hsound hnone hlt hcstill hsplit
          have hsame := hmoves.others id (.inl hlt)
          have hready := drives_ready (hsound.run moves) (hsame ▸ hw)
            ⟨hopen, .inr ⟨t, hc, hmoves.fired t rfl⟩⟩ (hsame ▸ hline) hstill
          exact ⟨_, hmoves.trans hready (Nat.le_of_lt hlt)⟩
      | busy =>
        have hocc := (hsound.station id).occupied
        rw [hhanded, hrunning, if_pos (by simp [Station.isBusy, hw, hc])] at hocc
        cases hocc

/-- **Every job in a line can be made to run.** The worker `still` is left alone; it must not hold a
signal, since other workers may have to wait for it. -/
theorem exists_drives (hsound : s.Sound) {id still : WorkerId} (hstill : id ≠ still)
    (hnone : s.pool.signalsIn still = []) {front rest : List (Job (Inquiry κ))}
    {job : Job (Inquiry κ)} (hline : (s.station id).line = front ++ job :: rest) :
    ∃ moves, s.Drives moves id still job rest := by
  -- the induction is on the worker, and for each worker on what stands before the job
  induction hn : id.index using Nat.strongRecOn generalizing s id front job rest with
  | _ n ih =>
    subst hn
    -- a job that the worker is still running is brought to its end first
    have hhead {s : Workforce κ} {job : Job (Inquiry κ)} {rest : List (Job (Inquiry κ))}
        (hsound : s.Sound) (hnone : s.pool.signalsIn still = [])
        (hline : (s.station id).line = job :: rest) :
        ∃ moves, s.Drives moves id still job rest := by
      have hstation := WorkerPool.station_finish s.pool id
      have hat : (s.step (.finish id)).station id = (s.station id).finished :=
        (hstation id).trans (if_pos rfl)
      have hoff (j : WorkerId) (hj : j ≠ id) : (s.step (.finish id)).station j = s.station j :=
        (hstation j).trans (if_neg hj)
      have hnone' : (s.step (.finish id)).pool.signalsIn still = [] := by
        rw [← hnone]
        exact congrArg (WorkerPool.signalsOf ·.line) (hoff still (Ne.symm hstill))
      obtain ⟨moves, hmoves⟩ := drives_head (hsound.finish id) hstill hnone'
        (by rw [hat, Station.finished_running]) (by rw [hat, Station.finished_line, hline])
        fun s c front job rest hs hnone hlt hc hline ↦ ih c.index hlt hs hc hnone hline rfl
      refine ⟨.finish id :: moves, List.forall_mem_cons.mpr ⟨trivial, hmoves.turns⟩,
        hmoves.running, hmoves.line, fun j hj ↦ ?_, hmoves.fired⟩
      rw [run_cons, hmoves.others j hj, hoff]
      rintro rfl
      exact hj.elim (Nat.lt_irrefl _) hstill
    induction front generalizing s with
    | nil => exact hhead hsound hnone hline
    | cons first front ihfront =>
      obtain ⟨moves, hmoves⟩ := hhead hsound hnone hline
      have hnone' : (s.run moves).pool.signalsIn still = [] := by
        rw [← hnone]
        exact congrArg (WorkerPool.signalsOf ·.line) (hmoves.others still (.inr rfl))
      obtain ⟨more, hmore⟩ := ihfront (hsound.run moves) hnone' hmoves.line
      exact ⟨_, hmoves.trans hmore (Nat.le_refl _)⟩

/-! ## Overlaps -/

/-- Two workers that run tasks of a window overlap. -/
theorem not_atMostOne {a b : WorkerId} {x y : Inquiry κ} (hne : a ≠ b)
    (hx : .task x ∈ (s.station a).running) (hy : .task y ∈ (s.station b).running)
    (hwindow : x.ask.window = y.ask.window) : ¬ s.AtMostOne := by
  intro hone
  have hcount := hone x.ask.window
  rw [List.countP_eq_length_filter] at hcount
  have hx' : (a, Job.task x) ∈ s.pool.running.filter (·.2.isFor x.ask.window) :=
    List.mem_filter.mpr ⟨WorkerPool.mem_jobsAt.mp hx, decide_eq_true rfl⟩
  have hy' : (b, Job.task y) ∈ s.pool.running.filter (·.2.isFor x.ask.window) :=
    List.mem_filter.mpr ⟨WorkerPool.mem_jobsAt.mp hy, decide_eq_true hwindow.symm⟩
  generalize s.pool.running.filter (·.2.isFor x.ask.window) = jobs at *
  match jobs with
  | [] => cases hx'
  | [_] =>
    rw [List.mem_singleton] at hx' hy'
    exact hne (Prod.mk.inj (hx'.trans hy'.symm)).1
  | _ :: _ :: _ => simp at hcount

/-- Looking a worker up for a request finds the one that the registry has, or starts one, which
waits for the signal that the registry keeps for the window, if there is one. -/
theorem lookUp_spec (hsound : s.Sound) (inquiry : Inquiry κ) :
    ∃ id, (inquiry.ask.window, id) ∈ (s.lookUp inquiry).registry.workers ∧
      (s.lookUp inquiry).held = s.held ++ [(inquiry, id)] ∧
      (∀ j, j ≠ id → (s.lookUp inquiry).station j = s.station j) ∧
      (s.registry.workers.lookup inquiry.ask.window = some id ∨
        id = ⟨s.pool.workers.length⟩ ∧ (s.lookUp inquiry).station id =
          ⟨some (SerialWorker.start (Registry.workerName inquiry.ask.window)
            (s.registry.retiring.lookup inquiry.ask.window)).retain, [], []⟩) := by
  cases hlookup : s.registry.workers.lookup inquiry.ask.window with
  | some id =>
    rw [lookUp_of_some hlookup]
    refine ⟨id, Registry.mem_of_lookup hlookup, rfl, fun j hj ↦ ?_, .inl rfl⟩
    exact (s.touches_hold inquiry id).other hj
  | none =>
    rw [lookUp_of_none hlookup]
    have htouches := (s.enlist inquiry.ask.window).touches_hold inquiry ⟨s.pool.workers.length⟩
    refine ⟨_, List.mem_append_right _ (List.mem_singleton.mpr rfl), rfl, fun j hj ↦ ?_,
      .inr ⟨rfl, ?_⟩⟩
    · rw [htouches.other hj, station_enlist, if_neg hj]
    · rw [htouches.self, station_enlist, if_pos rfl, hsound.station_new]
      rfl

/-- Submitting to a worker that the registry has is careful, and it is accepted. -/
theorem submit_spec (hsound : s.Sound) {inquiry : Inquiry κ} {id : WorkerId}
    {before : List (Inquiry κ × WorkerId)} (hheld : s.held = before ++ [(inquiry, id)])
    (hlive : (inquiry.ask.window, id) ∈ s.registry.workers) :
    s.IsCareful (.submit before.length) ∧
      ((s.submit before.length).station id).line = (s.station id).line ++ [.task inquiry] ∧
      (∀ w, (s.station id).worker = some w → w.consumer = .idle →
        ∃ v, ((s.submit before.length).station id).worker = some v ∧ v.isClosed = false ∧
          v.consumer = .idle) ∧
      ∀ j, j ≠ id → (s.submit before.length).station j = s.station j := by
  obtain ⟨w, hw, -, hopen, -⟩ := hsound.live _ id hlive
  have hget : s.held[before.length]? = some (inquiry, id) := by
    rw [hheld, List.getElem?_concat_length]
  obtain ⟨pool, hsubmit⟩ := WorkerPool.submit_of_open hw hopen (.task inquiry)
  rw [submit_of_ok hget hsubmit]
  have htouches := touches_accepted hsubmit (s.held.eraseIdx before.length)
  refine ⟨?_, ?_, ?_, fun j hj ↦ htouches.other hj⟩
  · intro other j hother v _ _
    obtain ⟨rfl, rfl⟩ := Prod.mk.inj (Option.some.inj (hother.symm.trans hget))
    exact Registry.lookup_of_mem hsound.keys hlive
  · rw [line_accepted hsubmit, if_pos rfl]
  · intro v hv hc
    obtain rfl := Option.some.inj (hv.symm.trans hw)
    rw [htouches.self]
    exact ⟨_, congrArg (Option.map _) hv, hopen, hc⟩

/-- **A task beside the line of its window leads to an overlap.** The task is being run by a worker
that the registry has not. A further request of the window is given to the worker that it has, or
to a new one, and this worker does not wait for the task. -/
private theorem overlap_of_running (hsound : s.Sound) {a : WorkerId} {inquiry : Inquiry κ}
    (hrunning : .task inquiry ∈ (s.station a).running)
    (hnotLive : s.registry.workers.lookup inquiry.ask.window ≠ some a)
    (hunguarded : s.pool.signalsIn a = [] ∨
      (s.registry.workers.lookup inquiry.ask.window = none ∧
        s.registry.retiring.lookup inquiry.ask.window = none)) :
    ∃ more, s.CarefulFrom more ∧ ¬ (s.run more).AtMostOne := by
  obtain ⟨id, hlive, hheld, hothers, hfound⟩ := lookUp_spec hsound inquiry
  -- the further request goes to another worker than the one that runs the task
  have hne : id ≠ a := by
    rintro rfl
    obtain hsome | ⟨rfl, -⟩ := hfound
    · exact hnotLive hsome
    · rw [hsound.station_new] at hrunning
      cases hrunning
  have hsound₁ := hsound.lookUp inquiry
  obtain ⟨hcareful, hline, hidle, hothers₂⟩ := submit_spec hsound₁ hheld hlive
  have hsound₂ := hsound₁.submit s.held.length
  have hkeep : ((s.lookUp inquiry).submit s.held.length).station a = s.station a :=
    (hothers₂ a hne.symm).trans (hothers a hne.symm)
  -- the worker that takes the further request is driven around the task
  have hdrives : ∃ moves, ((s.lookUp inquiry).submit s.held.length).Drives moves id a
      (.task inquiry) [] := by
    obtain hnone | ⟨hnobody, hnoSignal⟩ := hunguarded
    · -- nobody waits for a signal behind the task
      exact exists_drives hsound₂ hne
        (by rw [← hnone]; exact congrArg (WorkerPool.signalsOf ·.line) hkeep) hline
    · -- the registry knows nothing of the window, so a new worker is started that waits for nothing
      obtain hsome | ⟨-, hnew⟩ := hfound
      · rw [hnobody] at hsome
        cases hsome
      · rw [hnoSignal] at hnew
        obtain ⟨v, hv, hopen, hc⟩ := hidle _ (congrArg Station.worker hnew) rfl
        refine ⟨_, drives_ready hsound₂ hv ⟨hopen, .inl hc⟩ (hline.trans ?_) hne⟩
        rw [hnew]
        rfl
  obtain ⟨moves, hmoves⟩ := hdrives
  refine ⟨.lookUp inquiry :: .submit s.held.length :: moves,
    ⟨trivial, hcareful, carefulFrom_of_turns hmoves.turns⟩, ?_⟩
  refine not_atMostOne hne.symm (x := inquiry) (y := inquiry) ?_ ?_ rfl
  · rw [run_cons, run_cons]
    change .task inquiry ∈ ((((s.lookUp inquiry).submit s.held.length).run moves).station a).running
    rw [hmoves.others a (.inr rfl), hkeep]
    exact hrunning
  · rw [run_cons, run_cons]
    change .task inquiry ∈
      ((((s.lookUp inquiry).submit s.held.length).run moves).station id).running
    rw [hmoves.running]
    exact List.mem_singleton.mpr rfl

/-- The same for a task that stands in a line. It is driven until it is being run. -/
private theorem overlap_of_line (hsound : s.Sound) {a : WorkerId} {inquiry : Inquiry κ}
    {front rest : List (Job (Inquiry κ))}
    (hline : (s.station a).line = front ++ .task inquiry :: rest)
    (hnotLive : s.registry.workers.lookup inquiry.ask.window ≠ some a)
    (hunguarded : WorkerPool.signalsOf rest = [] ∨
      (s.registry.workers.lookup inquiry.ask.window = none ∧
        s.registry.retiring.lookup inquiry.ask.window = none)) :
    ∃ more, s.CarefulFrom more ∧ ¬ (s.run more).AtMostOne := by
  have hstill : a ≠ ⟨s.pool.workers.length⟩ := by
    rintro rfl
    rw [hsound.station_new] at hline
    simp [Station.line] at hline
  have hnone : s.pool.signalsIn ⟨s.pool.workers.length⟩ = [] :=
    congrArg (fun st : Station (Inquiry κ) ↦ WorkerPool.signalsOf st.line) hsound.station_new
  obtain ⟨moves, hmoves⟩ := exists_drives hsound hstill hnone hline
  obtain ⟨hregistry, -⟩ := registry_of_turns (s := s) hmoves.turns
  have hrunning : .task inquiry ∈ ((s.run moves).station a).running := by
    rw [hmoves.running]
    exact List.mem_singleton.mpr rfl
  obtain ⟨more, hcareful, hoverlap⟩ := overlap_of_running (hsound.run moves) hrunning
    (by rw [hregistry]; exact hnotLive)
    (by
      rw [hregistry]
      exact hunguarded.imp_left fun h ↦ (congrArg WorkerPool.signalsOf hmoves.line).trans h)
  exact ⟨moves ++ more, carefulFrom_append.mpr ⟨carefulFrom_of_turns hmoves.turns, hcareful⟩,
    by rw [run_append]; exact hoverlap⟩

/-- A removal that leaves a request behind can be followed by an overlap. -/
private theorem overlap_of_removal (hsound : s.Sound) {window : WindowKey}
    (hcareless : ¬ s.IsCareful (.remove window)) :
    ∃ more, (s.remove window).CarefulFrom more ∧ ¬ ((s.remove window).run more).AtMostOne := by
  simp only [IsCareful, not_forall, not_not] at hcareless
  obtain ⟨id, hserves, inquiry, hmem⟩ := hcareless
  have hsound' := hsound.remove window
  obtain rfl := (hsound'.placed id inquiry hmem).unique hserves
  have hworker : (s.remove inquiry.ask.window).registry.workers.lookup inquiry.ask.window = none :=
    Registry.lookup_without _ _
  have hretiring :
      (s.remove inquiry.ask.window).registry.retiring.lookup inquiry.ask.window = none :=
    Registry.lookup_without _ _
  have hnotLive : (s.remove inquiry.ask.window).registry.workers.lookup inquiry.ask.window ≠
      some id := by
    rw [hworker]
    exact (Option.some_ne_none id).symm
  rcases List.mem_append.mp hmem with hrunning | hline
  · exact overlap_of_running hsound' hrunning hnotLive (.inr ⟨hworker, hretiring⟩)
  · obtain ⟨front, rest, hsplit⟩ := List.append_of_mem hline
    exact overlap_of_line hsound' hsplit hnotLive (.inr ⟨hworker, hretiring⟩)

/-- A submission to a worker that was let go can be followed by an overlap. -/
private theorem overlap_of_submission (hsound : s.Sound) {index : Nat}
    (hcareless : ¬ s.IsCareful (.submit index)) :
    ∃ more, (s.submit index).CarefulFrom more ∧ ¬ ((s.submit index).run more).AtMostOne := by
  simp only [IsCareful, not_forall] at hcareless
  obtain ⟨inquiry, id, hheld, w, hw, hopen, hnotLive⟩ := hcareless
  have hsound' := hsound.submit index
  obtain ⟨pool, hsubmit⟩ := WorkerPool.submit_of_open hw hopen (.task inquiry)
  rw [submit_of_ok hheld hsubmit] at hsound' ⊢
  have hline : (station ⟨s.registry, pool.release id, s.held.eraseIdx index⟩ id).line =
      (s.station id).line ++ .task inquiry :: [] := by
    rw [line_accepted hsubmit, if_pos rfl]
  exact overlap_of_line hsound' hline hnotLive (.inl rfl)

/-- **Every careless move can be followed by an overlap**, and that by careful moves alone. -/
theorem overlap_of_careless (hsound : s.Sound) {move : Move κ} (hcareless : ¬ s.IsCareful move) :
    ∃ more, (s.step move).CarefulFrom more ∧ ¬ ((s.step move).run more).AtMostOne := by
  cases move with
  | remove window => exact overlap_of_removal hsound hcareless
  | submit index => exact overlap_of_submission hsound hcareless
  | _ => exact absurd trivial hcareless

/-- **Which runs keep the jobs of a window apart.** A run is careful exactly if neither it nor any
careful continuation of one of its beginnings ever has two jobs of a window running. -/
theorem careful_iff_atMostOne (moves : List (Move κ)) :
    (start : Workforce κ).CarefulFrom moves ↔
      ∀ before, before <+: moves → ∀ more, (start.run before).CarefulFrom more →
        ((start : Workforce κ).run (before ++ more)).AtMostOne := by
  constructor
  · rintro hcareful before ⟨after, rfl⟩ more hmore
    exact atMostOne_of_careful
      (carefulFrom_append.mpr ⟨(carefulFrom_append.mp hcareful).1, hmore⟩)
  · -- the first careless move of the run would lead to an overlap
    induction moves using List.reverseRecOn with
    | nil => exact fun _ ↦ trivial
    | append_singleton moves move ih =>
      intro h
      have hbefore := ih fun before hfront ↦ h before (hfront.trans (List.prefix_append _ _))
      refine carefulFrom_append.mpr ⟨hbefore, ?_, trivial⟩
      by_contra hcareless
      obtain ⟨more, hmore, hoverlap⟩ :=
        overlap_of_careless (sound_start.run moves) hcareless
      have hrun (more : List (Move κ)) : (start : Workforce κ).run (moves ++ [move] ++ more) =
          ((start.run moves).step move).run more := by
        rw [run_append, run_append]
        rfl
      refine hoverlap ?_
      rw [← hrun]
      refine h _ (List.prefix_refl _) more ?_
      rw [run_append]
      exact hmore

/-- A request about a text in the first window. -/
def sampleInquiry (source : String) : Inquiry Unit :=
  ⟨⟨⟨1⟩, ⟨0⟩, ⟨[]⟩, ⟨none, source, 0, 0, .autocomplete false⟩⟩, ()⟩

/-- A window is removed while a request of it is being answered. The next request of the window
gets a worker that knows nothing of this, and both are answered at once. -/
theorem removal_not_atMostOne :
    ¬ ((start : Workforce Unit).run
      [.lookUp (sampleInquiry "first"), .submit 0, .poll ⟨0⟩, .begin ⟨0⟩, .remove ⟨1⟩,
        .lookUp (sampleInquiry "second"), .submit 0, .poll ⟨1⟩, .begin ⟨1⟩]).AtMostOne := by
  intro h
  exact absurd (h ⟨1⟩) (by decide)

end Workforce

end CodeHints
