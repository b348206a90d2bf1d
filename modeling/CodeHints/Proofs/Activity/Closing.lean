import CodeHints.Proofs.Activity.Shutdown
import CodeHints.Proofs.Router

/-!
# What is left of a window that is closed

Closing a window forgets its environment and its worker, stops the worker, and detaches the window,
so that nothing is delivered to it any more. Whatever else there is of the window at that moment
goes on. A timer that is armed will fire, and a worker will be looked up for its request, which
starts a new one. A job that was handed over, or that sits on a worker that was let go, will begin.
And an errand may hand over its environment, which the registry keeps as long as the generation is
the same.

So a window that is closed need not stay forgotten, even if nobody asks about it again.
`Sound.staysForgotten_iff` says when it does: nothing of it may be ahead, and no errand of it may
still cache. In one direction the state of being `Forgotten` is preserved by every move that spares
the window. In the other one the pipeline is led to the point where the job begins, or where the
environment is handed over, which takes nothing but turns of its own and the right replies.
-/

namespace CodeHints

variable {κ : Type}

/-! ## Accesses that are ahead -/

namespace Resumption

variable {σ α β : Type}

theorem AccessAhead.bind {r : Resumption σ α} (h : r.AccessAhead) (f : α → Resumption σ β) :
    (r.bind f).AccessAhead := by
  induction r with
  | done a => exact h.elim
  | access update next _ => exact trivial
  | call question next ih =>
    obtain ⟨reply, hreply⟩ := h
    exact ⟨reply, ih reply hreply⟩

/-- What comes after code that may end in a value has its accesses ahead. -/
theorem Yields.accessAhead {analyzer : Analyzer} {r : Resumption σ α} {a : α}
    (h : r.Yields analyzer a) {f : α → Resumption σ β} (hf : (f a).AccessAhead) :
    (r.bind f).AccessAhead := by
  induction h with
  | done a => exact hf
  | access s _ _ => exact trivial
  | call reply _ _ ih => exact ⟨reply, ih hf⟩

theorem exists_yields_create (window : WindowKey) (vars : Variables) (settings : Settings) :
    ∃ daemon, (Daemon.create (engine : Engine (Resumption σ)) window vars settings).Yields .any
      (.value daemon) := by
  unfold Daemon.create ResolvedEnvironment.resolve ResolvedEnvironment.choose
  split
  · exact ⟨_, .call (.value ⟨"/usr/bin/python3", []⟩) trivial (.done _)⟩
  · exact ⟨_, .call (.value ⟨"/usr/bin/python3", []⟩) trivial (.done _)⟩

end Resumption

theorem EngineCall.exists_replies (question : EngineCall) (reply : question.Reply) :
    ∃ replies : (question : EngineCall) → question.Reply, replies question = reply := by
  classical
  have other (question : EngineCall) : question.Reply := by
    cases question <;> exact .failed (.analysis "")
  exact ⟨Function.update other question reply, Function.update_self ..⟩

namespace ActivityMove

/-- Nobody asks about the window or opens an inbox for it, and nobody hands over an environment for
it who is not one of the errands. -/
def Spares (window : WindowKey) : ActivityMove κ → Prop
  | .ask _ inquiry => inquiry.ask.window ≠ window
  | .visit request => request.window ≠ window
  | .interfere (.attach other) => other ≠ window
  | .interfere (.insert other _ _) => other ≠ window
  | _ => True

variable {move : ActivityMove κ}

theorem IsTurn.spares (h : move.IsTurn) (window : WindowKey) : move.Spares window := by
  cases move with
  | ask now inquiry => exact h.elim
  | visit ask => exact h.elim
  | interfere interference => exact h.elim
  | _ => exact trivial

theorem Spares.window_ne {window : WindowKey} (h : move.Spares window) {inquiry : Inquiry κ}
    (hasked : inquiry ∈ move.asked) : inquiry.ask.window ≠ window := by
  cases move with
  | ask now other => exact List.mem_singleton.mp hasked ▸ h
  | _ => cases hasked

end ActivityMove

namespace Activity

variable {s : Activity κ} {window : WindowKey}

/-! ## An errand is led to its end -/

/-- The pipeline can get by itself to the point where the window has an environment. -/
def MayKnow (s : Activity κ) (window : WindowKey) : Prop :=
  ∃ turns, (∀ move ∈ turns, ActivityMove.IsTurn move) ∧
    ∃ found, (window, found) ∈ (s.run turns).pipeline.registry.daemons

theorem MayKnow.cons (move : ActivityMove κ) (hturn : move.IsTurn)
    (h : (s.step move).MayKnow window) : s.MayKnow window := by
  obtain ⟨turns, hturns, hfound⟩ := h
  exact ⟨move :: turns, List.forall_mem_cons.mpr ⟨hturn, hturns⟩, hfound⟩

section Drive

variable {index : Nat} {job : Option (WorkerId × κ)} {ask : Ask}
  {rest : Resumption (Pipeline κ) (Outcome DaemonError (Option Answer))}

/-- From the look into the registry on, an errand needs the right replies, and then it hands over
its environment. -/
private theorem mayKnow_of_looked {settings seen : Settings} {generation : Nat}
    (hahead : rest.AccessAhead) (h : s.Sound)
    (hget : s.errands[index]? = some ⟨job, ask, .looked settings seen generation, rest⟩)
    (hgeneration : generation = s.pipeline.registry.generation)
    (hnone : s.pipeline.registry.daemons.lookup ask.window = none) : s.MayKnow ask.window := by
  induction rest generalizing s with
  | done outcome => exact hahead.elim
  | access update next _ =>
    obtain ⟨daemon, -, hupdate, -⟩ := (h.errands _ (List.mem_of_getElem? hget)).conforms
    refine ⟨[.act index], fun move hmove ↦ List.mem_singleton.mp hmove ▸ trivial,
      ⟨s.pipeline.registry.resolved, daemon⟩, ?_⟩
    rw [run_cons, run_nil, act_of_access hget, hupdate, hgeneration]
    dsimp only
    rw [Registry.insert_of_none hnone]
    exact List.mem_append_right _ (List.mem_singleton.mpr rfl)
  | call question next ih =>
    -- the reply is chosen so that there is an access ahead of what follows
    obtain ⟨reply, hreply⟩ := hahead
    obtain ⟨replies, rfl⟩ := question.exists_replies reply
    have hstep := reply_of_call hget replies
    refine .cons (.reply index replies) trivial (ih _ hreply (h.step _) ?_ ?_ ?_)
    · rw [hstep]
      exact List.getElem?_set_self (List.getElem?_eq_some_iff.mp hget).1
    · rw [hstep]
      exact hgeneration
    · rw [hstep]
      exact hnone

/-- An errand that is about to look into the registry finds no environment there. -/
private theorem mayKnow_of_read {settings : Settings} (h : s.Sound)
    (hget : s.errands[index]? = some ⟨job, ask, .read settings, rest⟩)
    (hnone : s.pipeline.registry.daemons.lookup ask.window = none) : s.MayKnow ask.window := by
  have hlookup := Registry.lookup_eq_missing.mpr ⟨hnone, rfl⟩
  obtain rfl : rest = (Pipeline.getOrCreate Resumption.atomic Resumption.engine ask.window ask.vars
    settings).bind (Resumption.answerIn ask.context) :=
    (h.errands _ (List.mem_of_getElem? hget)).literal
  rw [Resumption.getOrCreate_eq, Resumption.bind] at hget
  have hstep := act_of_access hget
  have hget' := getElem?_act hget
  simp only [Stage.next, hlookup] at hget'
  refine .cons (.act index) trivial (mayKnow_of_looked ?_ (h.step _) hget' ?_ ?_)
  · -- the analyzer may reply with an environment, and then there is one to be handed over
    obtain ⟨daemon, hyields⟩ := Resumption.exists_yields_create ask.window ask.vars settings
    exact (hyields.accessAhead
      (f := Resumption.handOver ask.window s.pipeline.registry.generation) trivial).bind _
  · rw [hstep]
  · rw [hstep]
    exact hnone

private theorem mayKnow_of_asked (h : s.Sound)
    (hget : s.errands[index]? = some ⟨job, ask, .asked, rest⟩)
    (hnone : s.pipeline.registry.daemons.lookup ask.window = none) : s.MayKnow ask.window := by
  obtain rfl : rest = Pipeline.askSync Resumption.atomic Resumption.engine ask :=
    (h.errands _ (List.mem_of_getElem? hget)).literal
  rw [Resumption.askSync_eq] at hget
  refine .cons (.act index) trivial (mayKnow_of_read (h.step _) (getElem?_act hget) ?_)
  rw [act_of_access hget]
  exact hnone

end Drive

/-- **An errand that may cache** can bring an environment for its window, if there is none. -/
theorem Sound.mayKnow (h : s.Sound) {e : Errand κ} (he : e ∈ s.errands)
    (hmay : e.MayCache s.pipeline.registry.generation)
    (hnone : s.pipeline.registry.daemons.lookup e.window = none) : s.MayKnow e.window := by
  obtain ⟨index, hget⟩ := List.mem_iff_getElem?.mp he
  obtain ⟨job, ask, stage, rest⟩ := e
  cases stage with
  | asked => exact mayKnow_of_asked h hget hnone
  | read settings => exact mayKnow_of_read h hget hnone
  | looked settings seen generation => exact mayKnow_of_looked hmay.2 h hget hmay.1 hnone
  | passed => exact hmay.elim

/-! ## A window that is forgotten -/

/-- Nothing is known of the window, and nothing is ahead that would change this. -/
structure Forgotten (s : Activity κ) (window : WindowKey) : Prop where
  ahead : ∀ inquiry, s.Ahead inquiry → inquiry.ask.window ≠ window
  workers : ∀ id, (window, id) ∉ s.pipeline.registry.workers
  daemons : ∀ found, (window, found) ∉ s.pipeline.registry.daemons
  errands : ∀ e ∈ s.errands, e.window = window →
    ¬ e.MayCache s.pipeline.registry.generation

theorem Forgotten.step (h : s.Sound) (hforgotten : s.Forgotten window) {move : ActivityMove κ}
    (hspares : move.Spares window) : (s.step move).Forgotten window := by
  have hproceeds := (h.step_spec move).2
  refine ⟨fun inquiry hahead ↦ ?_, fun id hid ↦ ?_, fun found hfound ↦ ?_, fun e he hwindow ↦ ?_⟩
  · rcases hproceeds.ahead inquiry hahead with hold | hasked
    · exact hforgotten.ahead inquiry hold
    · exact hspares.window_ne hasked
  · obtain hold | ⟨inquiry, hfired, hwindow⟩ := hproceeds.workers window id hid
    · exact hforgotten.workers id hold
    · exact hforgotten.ahead inquiry (.inr (.inl hfired)) hwindow
  · obtain hold | ⟨e, he, hwindow, hmay⟩ | ⟨generation, daemon, rfl⟩ :=
      hproceeds.daemons window found hfound
    · exact hforgotten.daemons found hold
    · exact hforgotten.errands e he hwindow hmay
    · exact hspares rfl
  · obtain (⟨id, inquiry, hbegins, rfl⟩ | ⟨ask, rfl, rfl⟩) | ⟨e', he', hcontinues⟩ :=
      hproceeds.errands e he
    · -- the job of a request begins that was ahead
      exact absurd hwindow (hforgotten.ahead inquiry (h.ahead_of_begins hbegins))
    · exact absurd hwindow hspares
    · refine mt hcontinues.mayCache (hforgotten.errands e' he' ?_)
      rw [← hwindow, Errand.window, Errand.window, hcontinues.ask]

theorem Forgotten.run (h : s.Sound) (hforgotten : s.Forgotten window)
    {moves : List (ActivityMove κ)} (hspares : ∀ move ∈ moves, move.Spares window) :
    (s.run moves).Forgotten window ∧ ∀ inquiry ∈ s.begunIn moves, inquiry.ask.window ≠ window := by
  induction moves generalizing s with
  | nil => exact ⟨hforgotten, fun _ hmem ↦ by cases hmem⟩
  | cons move moves ih =>
    rw [List.forall_mem_cons] at hspares
    obtain ⟨hrun, hbegun⟩ := ih (h.step move) (hforgotten.step h hspares.1) hspares.2
    refine ⟨hrun, fun inquiry hmem ↦ ?_⟩
    rcases List.mem_append.mp hmem with hnow | hlater
    · exact hforgotten.ahead inquiry (h.ahead_of_begins hnow)
    · exact hbegun inquiry hlater

/-- As long as it is spared, no job of the window begins, and the registry knows nothing of it. -/
def StaysForgotten (s : Activity κ) (window : WindowKey) : Prop :=
  ∀ moves, (∀ move ∈ moves, ActivityMove.Spares window move) →
    (∀ inquiry ∈ s.begunIn moves, inquiry.ask.window ≠ window) ∧
      (∀ id, (window, id) ∉ (s.run moves).pipeline.registry.workers) ∧
      ∀ found, (window, found) ∉ (s.run moves).pipeline.registry.daemons

/-- **A window stays forgotten** if nothing of it is ahead, and not otherwise. -/
theorem Sound.staysForgotten_iff (h : s.Sound) :
    s.StaysForgotten window ↔ s.Forgotten window := by
  constructor
  · -- turns of the pipeline spare every window, so they may be used to bring something about
    intro hstays
    obtain ⟨-, hworkers, hdaemons⟩ := hstays [] (by simp)
    refine ⟨fun inquiry hahead ↦ ?_, hworkers, hdaemons, fun e he hwindow hmay ↦ ?_⟩
    · obtain ⟨turns, hturns, hbegun⟩ := h.mayBegin_of_ahead hahead
      exact (hstays turns fun move hmove ↦ (hturns move hmove).spares window).1 inquiry hbegun
    · subst hwindow
      obtain ⟨turns, hturns, found, hfound⟩ :=
        h.mayKnow he hmay (Registry.lookup_eq_none.mpr hdaemons)
      exact (hstays turns fun move hmove ↦ (hturns move hmove).spares _).2.2 found hfound
  · intro hforgotten moves hspares
    obtain ⟨hrun, hbegun⟩ := hforgotten.run h hspares
    exact ⟨hbegun, hrun.workers, hrun.daemons⟩

/-! ## A window that is detached -/

theorem windows_interfere (p : Pipeline κ) {interference : Interference} {x : WindowKey × InboxId}
    (hx : x ∈ (interference.apply p).router.windows) :
    x ∈ p.router.windows ∨ interference = .attach x.1 := by
  cases interference with
  | attach other =>
    rcases List.mem_append.mp hx with hold | hnew
    · exact .inl (List.mem_of_mem_filter hold)
    · exact .inr (congrArg _ (congrArg Prod.fst (List.mem_singleton.mp hnew)).symm)
  | close other => exact .inl (List.mem_of_mem_filter hx)
  | detach other => exact .inl (List.mem_of_mem_filter hx)
  | detachAll => cases hx
  | observeForRegistry =>
    obtain ⟨observer, heq | heq⟩ := p.observeForRegistry_cases
    · rw [Interference.apply, heq] at hx
      exact .inl hx
    · rw [Interference.apply, heq] at hx
      exact .inl hx
  | observeForLog =>
    obtain ⟨observer, log, heq⟩ := p.observeForLog_cases
    rw [Interference.apply, heq] at hx
    exact .inl hx
  | _ => exact .inl hx

theorem Sound.windows_step (h : s.Sound) {move : ActivityMove κ} {x : WindowKey × InboxId}
    (hx : x ∈ (s.step move).pipeline.router.windows) :
    x ∈ s.pipeline.router.windows ∨ move = .interfere (.attach x.1) := by
  cases move with
  | interfere interference => exact (windows_interfere s.pipeline hx).imp_right (congrArg _)
  | shutdownRequests => cases hx
  | shutdown =>
    cases hdown : s.pipeline.isShutDown with
    | true =>
      rw [step_shutdown_of_true hdown] at hx
      exact .inl hx
    | false =>
      rw [step_shutdown_of_false hdown] at hx
      cases hx
  | act index =>
    refine .inl ?_
    rw [Activity.step, act] at hx
    split at hx
    · next e hget =>
      split at hx
      · next p e' hact =>
        obtain ⟨job, ask, stage, update, next, rfl, rfl, -⟩ |
          ⟨id, receiver, ask, stage, answer, rfl, rfl, -⟩ := Errand.act?_eq_some hact
        · obtain ⟨-, hsame | ⟨_, _, _, _, -, hsame⟩⟩ :=
            (h.errands _ (List.mem_of_getElem? hget)).conforms.act s.pipeline
          · rw [hsame] at hx
            exact hx
          · rw [hsame] at hx
            exact hx
        · rw [Router.windows_deliver] at hx
          exact hx
      · exact hx
    · exact hx
  | take inbox =>
    refine .inl ?_
    rw [Activity.step, take, Pipeline.take?] at hx
    cases htake : s.pipeline.router.take? inbox with
    | none =>
      rw [htake] at hx
      exact hx
    | some found =>
      rw [htake] at hx
      exact Router.windows_take? htake ▸ hx
  | fire now ticket =>
    rw [Activity.step, fire] at hx
    split at hx <;> exact .inl hx
  | lookUp index =>
    rw [Activity.step, lookUp] at hx
    split at hx <;> exact .inl hx
  | begin id =>
    rw [Activity.step, begin, Pipeline.begin?] at hx
    cases hbegin : s.pipeline.pool.begin? id <;> rw [hbegin] at hx <;> exact .inl hx
  | reply index replies =>
    rw [Activity.step, reply] at hx
    split at hx
    · split at hx <;> exact .inl hx
    · exact .inl hx
  | _ => exact .inl hx

/-- As long as it is spared, a window that is detached stays so. -/
theorem Sound.windows_run (h : s.Sound) {moves : List (ActivityMove κ)}
    (hspares : ∀ move ∈ moves, move.Spares window)
    (hnone : ∀ inbox, (window, inbox) ∉ s.pipeline.router.windows) :
    ∀ inbox, (window, inbox) ∉ (s.run moves).pipeline.router.windows := by
  induction moves generalizing s with
  | nil => exact hnone
  | cons move moves ih =>
    rw [List.forall_mem_cons] at hspares
    refine ih (h.step move) hspares.2 fun inbox hmem ↦ ?_
    obtain hold | rfl := h.windows_step hmem
    · exact hnone inbox hold
    · exact hspares.1 rfl

/-! ## Closing a window -/

/-- Closing the window of a request does not stop it: its timer is armed or has just fired, or its
job has been handed over, or it is with a worker that was let go, or is about to be submitted to
one. -/
def Outlasts (s : Activity κ) (inquiry : Inquiry κ) : Prop :=
  inquiry ∈ s.pipeline.debouncer.tasks ∨ inquiry ∈ s.fired ∨ s.workforce.Escapes inquiry

theorem Sound.ahead_close (h : s.Sound) {inquiry : Inquiry κ}
    (hwindow : inquiry.ask.window = window) :
    (s.step (.interfere (.close window))).Ahead inquiry ↔ s.Outlasts inquiry := by
  subst hwindow
  exact or_congr_right (or_congr_right h.workforce.pends_remove)

theorem Sound.forgotten_close (h : s.Sound) :
    (s.step (.interfere (.close window))).Forgotten window ↔
      (∀ inquiry, s.Outlasts inquiry → inquiry.ask.window ≠ window) ∧
        ∀ e ∈ s.errands, e.window = window → ¬ e.MayCache s.pipeline.registry.generation := by
  constructor
  · intro hforgotten
    refine ⟨fun inquiry hlasts hwindow ↦ ?_, hforgotten.errands⟩
    exact hforgotten.ahead inquiry ((h.ahead_close hwindow).mpr hlasts) hwindow
  · rintro ⟨hlasts, herrands⟩
    refine ⟨fun inquiry hahead hwindow ↦ ?_, fun id hid ↦ ?_, fun found hfound ↦ ?_, herrands⟩
    · exact hlasts inquiry ((h.ahead_close hwindow).mp hahead) hwindow
    · exact (Registry.mem_without.mp hid).2 rfl
    · exact (Registry.mem_without.mp hfound).2 rfl

/-- **What becomes of a window that is closed**, as long as it is spared. The jobs of it that may
begin are those of the requests that outlast the closing. If there are none, and no environment is
being resolved for it, then it stays forgotten. And whatever happens, nothing is delivered to it. -/
theorem close_spec (settings : Settings) (hasLog : Bool) (moves : List (ActivityMove κ))
    (window : WindowKey) :
    let s : Activity κ := (start settings hasLog).run moves
    let t := s.step (.interfere (.close window))
    (∀ inquiry, inquiry.ask.window = window →
        (t.MayBegin (ActivityMove.Spares window) inquiry ↔ s.Outlasts inquiry)) ∧
      ((∀ inquiry, s.Outlasts inquiry → inquiry.ask.window ≠ window) →
        (∀ e ∈ s.errands, e.window = window → ¬ e.MayCache s.pipeline.registry.generation) →
          t.StaysForgotten window) ∧
      ∀ more, (∀ move ∈ more, ActivityMove.Spares window move) → ∀ delivery,
        (t.run more).pipeline.router.deliver window delivery =
          (false, (t.run more).pipeline.router) := by
  intro s t
  have h : s.Sound := (sound_start settings hasLog).run moves
  have ht : t.Sound := h.step _
  refine ⟨fun inquiry hwindow ↦ ?_, fun hlasts herrands ↦ ?_, fun more hspares delivery ↦ ?_⟩
  · refine (ht.mayBegin_iff (fun _ hturn ↦ hturn.spares window) fun _ hspares hasked ↦ ?_).trans
      (h.ahead_close hwindow)
    exact hspares.window_ne hasked hwindow
  · exact ht.staysForgotten_iff.mpr (h.forgotten_close.mpr ⟨hlasts, herrands⟩)
  · refine Router.deliver_of_detached ?_ delivery
    refine ht.windows_run hspares fun inbox hmem ↦ ?_
    exact of_decide_eq_true (List.mem_filter.mp hmem).2 rfl

/-- The timer of a request is armed. -/
def heldBack : Activity Unit :=
  (start .default false).run [.ask 0 (Workforce.sampleInquiry "first")]

/-- **A closed window may come back**, although nobody asks about it: the timer fires that was
armed, or the job begins that sits on a worker that was let go. -/
theorem exists_close_not_staysForgotten :
    ¬ (heldBack.step (.interfere (.close ⟨1⟩))).StaysForgotten ⟨1⟩ ∧
      ¬ (letGoInTime.step (.interfere (.close ⟨1⟩))).StaysForgotten ⟨1⟩ := by
  refine ⟨fun hstays ↦ ?_, fun hstays ↦ ?_⟩
  · have hforgotten := hstays
      [.fire 10 ⟨⟨⟨0⟩, .autocomplete⟩, 1, 10⟩, .lookUp 0, .submit 0, .poll ⟨0⟩, .begin ⟨0⟩]
      (by simp [ActivityMove.Spares])
    exact hforgotten.1 (Workforce.sampleInquiry "first") (List.mem_singleton_self _) rfl
  · have hforgotten := hstays [.poll ⟨0⟩, .begin ⟨0⟩] (by simp [ActivityMove.Spares])
    exact hforgotten.1 (Workforce.sampleInquiry "first") (List.mem_singleton_self _) rfl

end Activity

end CodeHints
