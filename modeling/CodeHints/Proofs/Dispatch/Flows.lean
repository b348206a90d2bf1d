import CodeHints.Proofs.Activity.Closing
import CodeHints.Proofs.Dispatch.Errands

/-!
# What flows in a move

A request is held back by a timer, then it is in flight until its job begins, and in the end its
answer waits in an inbox. `Flows` says for one move what goes from one of these places to the next
one. Some may get lost on the way, so the lists before and after the move are compared by
`List.Subperm`: what leaves a place and what stays there is among what was there and what arrives.

Inboxes are opened and given up, and windows get other ones. `Router.Routes` tells where the answers
go meanwhile.

For the workers a move is either a turn or something that they may ignore, which is `Sound.goes`.
-/

namespace CodeHints

open List (Subperm)

variable {κ : Type}

theorem Debouncer.mem_of_wake {α τ : Type} [DecidableEq α] {d d' : Debouncer α τ} {now : Nat}
    {ticket : Ticket α} {found : Option τ} {call : ArmedCall α τ}
    (hwake : d.wake now ticket = (found, d')) (hcall : call ∈ d'.armed) : call ∈ d.armed := by
  rw [wake] at hwake
  split at hwake
  · split at hwake
    · obtain ⟨-, rfl⟩ := Prod.mk.inj hwake
      exact (mem_erase.mp hcall).1
    · obtain ⟨-, rfl⟩ := Prod.mk.inj hwake
      exact hcall
  · obtain ⟨-, rfl⟩ := Prod.mk.inj hwake
    exact hcall

/-! ## Inboxes -/

namespace Router

variable {δ : Type} {r r' : Router δ} {opened : List WindowKey} {delivered : List (WindowKey × δ)}
  {taken : List δ}

/-- Inboxes are opened, deliveries go to inboxes of their windows, and some are taken out. -/
structure Routes (r r' : Router δ) (opened : List WindowKey) (delivered : List (WindowKey × δ))
    (taken : List δ) : Prop where
  inboxes : r'.inboxes.length = r.inboxes.length + opened.length
  /-- A window that comes to be attached gets one of the new inboxes. -/
  windows : ∀ x ∈ r'.windows, x ∈ r.windows ∨
    r.inboxes.length ≤ x.2.index ∧ opened[x.2.index - r.inboxes.length]? = some x.1
  queued : ∀ inbox, ∀ a ∈ r'.queued inbox, a ∈ r.queued inbox ∨
    ∃ window, (window, a) ∈ delivered ∧ (window, inbox) ∈ r.windows
  waiting : Subperm (taken ++ r'.waiting) (delivered.map (·.2) ++ r.waiting)

theorem routes_of_windows (hinboxes : r'.inboxes = r.inboxes)
    (hwindows : ∀ x ∈ r'.windows, x ∈ r.windows) : r.Routes r' [] [] [] := by
  refine ⟨congrArg List.length hinboxes, fun x hx ↦ .inl (hwindows x hx), fun inbox a ha ↦ ?_, ?_⟩
  · rw [queued, inbox?, hinboxes] at ha
    exact .inl ha
  · rw [waiting, hinboxes]
    exact .refl _

theorem Routes.refl (r : Router δ) : r.Routes r [] [] [] := routes_of_windows rfl fun _ hx ↦ hx

theorem routes_attach (r : Router δ) (window : WindowKey) :
    r.Routes (r.attach window).2 [window] [] [] := by
  refine ⟨List.length_append, fun x hx ↦ ?_, fun inbox a ha ↦ .inl ?_, ?_⟩
  · rcases List.mem_append.mp hx with hold | hnew
    · exact .inl (List.mem_of_mem_filter hold)
    · rw [List.mem_singleton.mp hnew, Nat.sub_self]
      exact .inr ⟨Nat.le_refl _, rfl⟩
  · rw [queued, inbox?, attach] at ha
    dsimp only at ha
    rw [queued, inbox?]
    by_cases hlt : inbox.index < r.inboxes.length
    · rwa [List.getElem?_append_left hlt] at ha
    · rw [List.getElem?_append_right (Nat.le_of_not_lt hlt)] at ha
      cases hindex : inbox.index - r.inboxes.length with
      | zero => rw [hindex] at ha; cases ha
      | succ n => rw [hindex] at ha; cases ha
  · rw [waiting_attach]
    exact .refl _

theorem mem_queued_modify {id inbox : InboxId} {f : Inbox δ → Inbox δ} {a : δ}
    (h : a ∈ (r.modify id f).queued inbox) :
    a ∈ r.queued inbox ∨ inbox = id ∧ ∃ box, r.inbox? id = some box ∧ a ∈ (f box).queue := by
  rw [queued, inbox?, modify, List.getElem?_modify] at h
  split at h
  · next hid =>
    obtain rfl : id = inbox := congrArg InboxId.mk hid
    cases hbox : r.inboxes[id.index]? with
    | none => simp [hbox] at h
    | some box =>
      rw [hbox] at h
      exact .inr ⟨rfl, box, hbox, h⟩
  · exact .inl (by simpa [queued, inbox?] using h)

theorem routes_deliver (r : Router δ) (window : WindowKey) (a : δ) :
    r.Routes (r.deliver window a).2 [] [(window, a)] [] := by
  refine ⟨?_, fun x hx ↦ .inl (r.windows_deliver window a ▸ hx), fun inbox b hb ↦ ?_, ?_⟩
  · rw [deliver]
    split
    · exact List.length_modify ..
    · rfl
  · cases htarget : r.target? window with
    | none =>
      rw [deliver, htarget] at hb
      exact .inl hb
    | some id =>
      rw [deliver, htarget] at hb
      obtain hold | ⟨rfl, box, hbox, hmem⟩ := mem_queued_modify hb
      · exact .inl hold
      · rcases List.mem_append.mp hmem with hold | hnew
        · refine .inl ?_
          rw [queued, hbox]
          exact hold
        · obtain rfl := List.mem_singleton.mp hnew
          obtain ⟨hlookup, -⟩ := Option.filter_eq_some_iff.mp htarget
          exact .inr ⟨window, List.mem_singleton.mpr rfl, Registry.mem_of_lookup hlookup⟩
  · exact (List.sublist_append_right _ _).subperm.trans (r.waiting_deliver window a).symm.subperm

theorem routes_take? {id : InboxId} {a : δ} (h : r.take? id = some (a, r')) :
    a ∈ r.queued id ∧ r.Routes r' [] [] [a] := by
  have hwindows := windows_take? h
  have hwaiting := waiting_take? h
  rw [take?] at h
  split at h
  · next first rest hqueued =>
    obtain ⟨rfl, rfl⟩ := Prod.mk.inj (Option.some.inj h)
    refine ⟨?_, List.length_modify .., fun x hx ↦ .inl (hwindows ▸ hx), fun inbox b hb ↦ .inl ?_,
      hwaiting.symm.subperm⟩
    · rw [hqueued]
      exact List.mem_cons_self
    · obtain hold | ⟨rfl, _, -, hmem⟩ := mem_queued_modify hb
      · exact hold
      · rw [hqueued]
        exact List.mem_cons_of_mem _ hmem
  · cases h

theorem routes_drop (r : Router δ) (id : InboxId) : r.Routes (r.drop id) [] [] [] := by
  refine ⟨List.length_modify .., fun x hx ↦ .inl hx, fun inbox a ha ↦ .inl ?_, ?_⟩
  · refine (mem_queued_modify ha).resolve_right ?_
    rintro ⟨-, _, -, ⟨⟩⟩
  · exact (List.sublist_append_right _ _).subperm.trans (r.waiting_drop id).symm.subperm

end Router

/-! ## Workers -/

namespace Workforce

variable {s : Workforce κ}

/-- The requests that workers were found for and whose jobs have not begun. -/
def unbegun (s : Workforce κ) : List (Inquiry κ) := s.held.map (·.1) ++ s.pool.pending

theorem Sound.orderly (h : s.Sound) : s.pool.Orderly := fun id ↦ (h.station id).toOccupied

theorem unbegun_lookUp (s : Workforce κ) (inquiry : Inquiry κ) :
    Subperm (s.lookUp inquiry).unbegun (inquiry :: s.unbegun) := by
  have hquiet : s.pool.Quiet (s.lookUp inquiry).pool :=
    (s.registry.quiet_worker s.pool inquiry.ask.window).trans
      (.modify _ _ (fun _ ↦ rfl) fun _ ↦ rfl)
  rw [unbegun, hquiet.pending, lookUp, List.map_append, List.append_assoc]
  exact List.perm_middle.subperm

theorem quiet_release (pool : WorkerPool (Inquiry κ)) (id : WorkerId) :
    pool.Quiet (pool.release id) := .modify _ _ (fun _ ↦ rfl) fun _ ↦ rfl

theorem unbegun_submit (s : Workforce κ) (index : Nat) :
    Subperm (s.submit index).unbegun s.unbegun := by
  cases hheld : s.held[index]? with
  | none => rw [submit_of_none hheld]
  | some found =>
    obtain ⟨inquiry, id⟩ := found
    have hperm : List.Perm s.unbegun
        (inquiry :: ((s.held.eraseIdx index).map (·.1) ++ s.pool.pending)) :=
      ((eraseIdx_perm hheld).map (·.1)).append_right _
    refine Subperm.trans ?_ hperm.symm.subperm
    cases hsubmit : s.pool.submit id (.task inquiry) with
    | error e =>
      rw [submit_of_error hheld hsubmit, unbegun, (quiet_release _ _).pending]
      exact (List.sublist_cons_self _ _).subperm
    | ok pool =>
      rw [submit_of_ok hheld hsubmit, unbegun, (quiet_release _ _).pending]
      exact (((WorkerPool.pending_submit hsubmit).1.append_left _).trans
        List.perm_middle).subperm

theorem unbegun_poll (s : Workforce κ) (id : WorkerId) :
    Subperm (s.step (.poll id)).unbegun s.unbegun :=
  (List.subperm_append_left _).mpr
    ((List.sublist_append_right _ _).subperm.trans (s.pool.pending_poll id).symm.subperm)

theorem unbegun_finish (s : Workforce κ) (id : WorkerId) :
    (s.step (.finish id)).unbegun = s.unbegun :=
  congrArg (s.held.map (·.1) ++ ·) (WorkerPool.Quiet.finish s.pool id).pending

theorem Sound.unbegun_begin (h : s.Sound) (id : WorkerId) :
    Subperm (s.begins id ++ (s.step (.begin id)).unbegun) s.unbegun := by
  cases hbegin : s.pool.begin? id with
  | none =>
    rw [begin_of_none hbegin, begins, hbegin]
    exact .refl _
  | some found =>
    obtain ⟨job, pool⟩ := found
    rw [begin_of_some hbegin, begins, hbegin]
    have hpending := (WorkerPool.pending_begin? h.orderly hbegin).1
    refine (List.Perm.trans ?_ (hpending.symm.append_left (s.held.map (·.1)))).subperm
    rw [unbegun, ← List.append_assoc, ← List.append_assoc]
    exact List.perm_append_comm.append_right _

end Workforce

/-! ## Moves -/

namespace Interference

theorem routes (p : Pipeline κ) (interference : Interference) :
    p.router.Routes (interference.apply p).router
      (ActivityMove.opens (.interfere interference : ActivityMove κ)) [] [] := by
  cases interference with
  | attach window => exact p.router.routes_attach window
  | close window => exact Router.routes_of_windows rfl fun _ hx ↦ List.mem_of_mem_filter hx
  | detach window => exact Router.routes_of_windows rfl fun _ hx ↦ List.mem_of_mem_filter hx
  | detachAll => exact Router.routes_of_windows rfl fun _ hx ↦ by cases hx
  | observeForRegistry =>
    obtain ⟨observer, heq | heq⟩ := p.observeForRegistry_cases <;>
    · rw [apply, heq]
      exact .refl _
  | observeForLog =>
    obtain ⟨observer, log, heq⟩ := p.observeForLog_cases
    rw [apply, heq]
    exact .refl _
  | _ => exact .refl _

end Interference

namespace Activity

variable {s t : Activity κ} {move : ActivityMove κ}

/-- The requests whose timers have fired and whose jobs have not begun. -/
def inFlight (s : Activity κ) : List (Inquiry κ) := s.fired ++ s.workforce.unbegun

/-- A timer that is armed after a move was armed before, under a key that is not given up, or its
request is made in the move. -/
def Arms (s : Activity κ) (move : ActivityMove κ) (call : ArmedCall DebounceKey (Inquiry κ)) :
    Prop :=
  call ∈ s.pipeline.debouncer.armed ∧ s.givesUp move call.ticket.key = false ∨
    call.task ∈ move.asked ∧ call.ticket.key = call.task.ask.key

/-- What becomes of the requests that have not begun and of the answers, in a move. -/
structure Flows (s : Activity κ) (move : ActivityMove κ) (t : Activity κ) : Prop where
  armed : ∀ call ∈ t.pipeline.debouncer.armed, s.Arms move call
  heldBack : Subperm (s.firing move ++ t.pipeline.debouncer.tasks)
    (move.asked ++ s.pipeline.debouncer.tasks)
  inFlight : Subperm (s.begins move ++ t.inFlight) (s.firing move ++ s.inFlight)
  routes : s.pipeline.router.Routes t.pipeline.router move.opens (s.delivers move)
    ((s.takes move).map (·.2))

private theorem armed_same (s : Activity κ) (move : ActivityMove κ)
    (h : ∀ key, s.givesUp move key = false) :
    ∀ call ∈ s.pipeline.debouncer.armed, s.Arms move call := fun _ hcall ↦ .inl ⟨hcall, h _⟩

private theorem flows_act (h : s.Sound) (index : Nat) :
    s.Flows (.act index) (s.step (.act index)) := by
  have harmed := s.armed_same (.act index) fun _ ↦ rfl
  obtain ⟨job, ask, stage, update, next, hget⟩ | ⟨id, receiver, ask, stage, answer, hget⟩ |
    ⟨hsame, hdelivers, -⟩ := s.act_cases index
  · have hdelivers : s.delivers (.act index) = [] := by
      rw [delivers, hget]
      cases job <;> rfl
    rw [act_of_access hget]
    -- the only thing that an access ever changes is the daemon of the window
    obtain ⟨-, -, hsame | ⟨generation, daemon, hsame, -⟩⟩ :=
        (h.errands _ (List.mem_of_getElem? hget)).act <;>
      rw [hsame] <;> exact ⟨harmed, .refl _, .refl _, hdelivers ▸ .refl _⟩
  · have hdelivers : s.delivers (.act index) = [(ask.window, ⟨receiver, answer⟩)] := by
      rw [delivers, hget]
      rfl
    rw [act_of_answer hget]
    exact ⟨harmed, .refl _, .refl _, hdelivers ▸ s.pipeline.router.routes_deliver _ _⟩
  · rw [hsame]
    exact ⟨harmed, .refl _, .refl _, hdelivers ▸ .refl _⟩

private theorem flows_fire (h : s.Sound) (now : Nat) (ticket : Ticket DebounceKey) :
    s.Flows (.fire now ticket) (s.step (.fire now ticket)) := by
  have harmed := s.armed_same (.fire now ticket) fun _ ↦ rfl
  cases hwake : s.pipeline.debouncer.wake now ticket with
  | mk found debouncer =>
    have hfiring : s.firing (.fire now ticket) = found.toList := by rw [firing, hwake]
    cases found with
    | none =>
      rw [fire_of_none hwake]
      exact ⟨harmed, hfiring ▸ .refl _, hfiring ▸ .refl _, .refl _⟩
    | some inquiry =>
      obtain ⟨hperm, -⟩ := Debouncer.tasks_wake h.unique hwake
      rw [fire_of_some hwake]
      refine ⟨fun call hcall ↦ harmed call (Debouncer.mem_of_wake hwake hcall), ?_, ?_, .refl _⟩
      · rw [hfiring]
        exact hperm.symm.subperm
      · rw [hfiring]
        exact (List.perm_append_comm.append_right _).subperm

private theorem flows_begin (h : s.Sound) (id : WorkerId) :
    s.Flows (.begin id) (s.step (.begin id)) := by
  have harmed := s.armed_same (.begin id) fun _ ↦ rfl
  have hbegins : Subperm (s.workforce.begins id ++
      (s.fired ++ (s.workforce.step (.begin id)).unbegun)) s.inFlight := by
    refine Subperm.trans (List.Perm.subperm ?_)
      ((List.subperm_append_left s.fired).mpr (h.workforce.unbegun_begin id))
    rw [← List.append_assoc, ← List.append_assoc]
    exact List.perm_append_comm.append_right _
  rw [← s.workforce_begin id] at hbegins
  cases hbegin : s.pipeline.pool.begin? id with
  | none =>
    rw [begin_of_none hbegin] at hbegins ⊢
    exact ⟨harmed, .refl _, hbegins, .refl _⟩
  | some found =>
    rw [begin_of_some hbegin] at hbegins ⊢
    exact ⟨harmed, .refl _, hbegins, .refl _⟩

private theorem flows_shutdown (s : Activity κ) (move : ActivityMove κ) (down : Bool)
    (hmove : move = .shutdown ∨ move = .shutdownRequests) : s.Flows move { s with
      pipeline := { s.pipeline with isShutDown := down }.shutdownRequests } := by
  have hpending := (s.pipeline.registry.quiet_shutdown s.pipeline.pool).pending
  obtain rfl | rfl := hmove <;>
    exact ⟨fun _ hcall ↦ by (cases hcall), List.nil_subperm,
      (List.subperm_append_left s.fired).mpr ((List.subperm_append_left _).mpr
        (List.Perm.of_eq hpending).subperm),
      Router.routes_of_windows rfl fun _ hx ↦ by cases hx⟩

/-- **Requests flow from timers to workers**, answers from errands to inboxes, and on the way some
are lost, but none is ever doubled. -/
theorem Sound.flows_step (h : s.Sound) (move : ActivityMove κ) : s.Flows move (s.step move) := by
  cases move with
  | ask now inquiry =>
    have hperm := s.pipeline.debouncer.tasks_schedule inquiry.ask.key
      (now + s.pipeline.store.current.completionTimeout) inquiry
    refine ⟨fun call hcall ↦ ?_,
      (List.sublist_append_right _ _).subperm.trans hperm.symm.subperm, .refl _, .refl _⟩
    obtain ⟨hold, hkey⟩ | rfl := Debouncer.mem_schedule.mp hcall
    · exact .inl ⟨hold, decide_eq_false hkey⟩
    · exact .inr ⟨List.mem_singleton.mpr rfl, rfl⟩
  | fire now ticket => exact flows_fire h now ticket
  | lookUp index =>
    cases hget : s.fired[index]? with
    | none =>
      rw [lookUp_of_none hget]
      exact ⟨s.armed_same _ fun _ ↦ rfl, .refl _, .refl _, .refl _⟩
    | some inquiry =>
      rw [lookUp_of_some hget]
      have hperm := (eraseIdx_perm hget).symm.append_right s.workforce.unbegun
      exact ⟨s.armed_same _ fun _ ↦ rfl, .refl _,
        ((List.subperm_append_left _).mpr (s.workforce.unbegun_lookUp inquiry)).trans
          (List.perm_middle.trans hperm).subperm, .refl _⟩
  | submit index =>
    exact ⟨s.armed_same _ fun _ ↦ rfl, .refl _,
      (List.subperm_append_left s.fired).mpr (s.workforce.unbegun_submit index), .refl _⟩
  | poll id =>
    exact ⟨s.armed_same _ fun _ ↦ rfl, .refl _,
      (List.subperm_append_left s.fired).mpr (s.workforce.unbegun_poll id), .refl _⟩
  | begin id => exact flows_begin h id
  | finish id =>
    exact ⟨s.armed_same _ fun _ ↦ rfl, .refl _, (List.subperm_append_left s.fired).mpr
      (List.Perm.of_eq (s.workforce.unbegun_finish id)).subperm, .refl _⟩
  | act index => exact flows_act h index
  | reply index replies =>
    rw [Activity.step, reply]
    split
    · split <;> exact ⟨s.armed_same _ fun _ ↦ rfl, .refl _, .refl _, .refl _⟩
    · exact ⟨s.armed_same _ fun _ ↦ rfl, .refl _, .refl _, .refl _⟩
  | take inbox =>
    rw [Activity.step, take, Pipeline.take?]
    cases htake : s.pipeline.router.take? inbox with
    | none =>
      exact ⟨s.armed_same _ fun _ ↦ rfl, .refl _, .refl _, by rw [takes, htake]; exact .refl _⟩
    | some found =>
      refine ⟨s.armed_same _ fun _ ↦ rfl, .refl _, .refl _, ?_⟩
      rw [takes, htake]
      exact (Router.routes_take? htake).2
  | interfere interference =>
    have hcalm := interference.calm s.pipeline
    refine ⟨hcalm.debouncer ▸ s.armed_same _ fun _ ↦ rfl, ?_,
      (List.subperm_append_left s.fired).mpr ?_, interference.routes s.pipeline⟩
    · rw [Activity.step, hcalm.debouncer]
      exact .refl _
    · exact (List.subperm_append_left _).mpr (List.Perm.of_eq hcalm.pool.pending).subperm
  | shutdownRequests => exact s.flows_shutdown _ _ (.inr rfl)
  | shutdown =>
    cases hdown : s.pipeline.isShutDown with
    | true =>
      rw [step_shutdown_of_true hdown]
      exact ⟨s.armed_same _ fun _ ↦ by rw [givesUp, hdown]; rfl, .refl _, .refl _, .refl _⟩
    | false =>
      rw [step_shutdown_of_false hdown]
      exact s.flows_shutdown _ _ (.inl rfl)
  | visit ask => exact ⟨s.armed_same _ fun _ ↦ rfl, .refl _, .refl _, .refl _⟩
  | drop inbox =>
    exact ⟨s.armed_same _ fun _ ↦ rfl, .refl _, .refl _, s.pipeline.router.routes_drop inbox⟩

theorem firing_of_givesUp {key : DebounceKey} (h : s.givesUp move key = true) :
    s.firing move = [] := by
  cases move with
  | fire now ticket => cases h
  | _ => rfl

theorem mem_queued_of_takes (s : Activity κ) {inbox : InboxId} {d : Delivery κ}
    (h : (inbox, d) ∈ s.takes move) : d ∈ s.pipeline.router.queued inbox := by
  cases move with
  | take other =>
    rw [takes] at h
    cases htake : s.pipeline.router.take? other with
    | none => rw [htake] at h; cases h
    | some found =>
      rw [htake] at h
      obtain ⟨rfl, rfl⟩ := Prod.mk.inj (List.mem_singleton.mp h)
      exact (Router.routes_take? htake).1
  | _ => cases h

/-! ## Workers -/

private theorem follows_interfere (h : s.Sound) (interference : Interference) :
    s.workforce.Follows (s.step (.interfere interference)).workforce := by
  cases interference with
  | invalidate => exact h.workforce.follows_invalidate
  | remove window => exact s.workforce.follows_remove window
  | close window => exact s.workforce.follows_remove window
  | stopWorkers => exact s.workforce.follows_shutdown
  | observeForRegistry =>
    rw [step, Interference.apply]
    obtain ⟨observer, heq | heq⟩ := s.pipeline.observeForRegistry_cases <;> rw [heq]
    · exact Workforce.follows_of_pool rfl
    · exact h.workforce.follows_invalidate
  | observeForLog =>
    rw [step, Interference.apply]
    obtain ⟨observer, log, heq⟩ := s.pipeline.observeForLog_cases
    rw [heq]
    exact Workforce.follows_of_pool rfl
  | _ => exact Workforce.follows_of_pool rfl

/-- **What a move is for the workers**: one of them has its turn, or they go on with what they are
doing. -/
theorem Sound.goes (h : s.Sound) (move : ActivityMove κ) :
    s.workforce.Goes move.turn? (s.step move).workforce := by
  have haside {t : Activity κ} (hpool : t.pipeline.pool = s.pipeline.pool) :
      s.workforce.Goes none t.workforce := .others (Workforce.follows_of_pool hpool)
  cases move with
  | poll id => exact .turn trivial rfl
  | finish id => exact .turn trivial rfl
  | begin id => exact .turn trivial (congrArg Workforce.pool (s.workforce_begin id))
  | lookUp index =>
    cases hget : s.fired[index]? with
    | none => exact haside (by rw [lookUp_of_none hget])
    | some inquiry =>
      rw [lookUp_of_some hget]
      exact .others (h.workforce.follows_lookUp inquiry)
  | submit index => exact .others (s.workforce.follows_submit index)
  | interfere interference => exact .others (follows_interfere h interference)
  | shutdownRequests => exact .others s.workforce.follows_shutdown
  | shutdown =>
    cases hdown : s.pipeline.isShutDown with
    | true => exact haside (by rw [step_shutdown_of_true hdown])
    | false =>
      rw [step_shutdown_of_false hdown]
      exact .others s.workforce.follows_shutdown
  | act index =>
    refine haside ?_
    obtain ⟨job, ask, stage, update, next, hget⟩ | ⟨id, receiver, ask, stage, answer, hget⟩ |
      ⟨hsame, -, -⟩ := s.act_cases index
    · rw [act_of_access hget]
      obtain ⟨-, -, hsame | ⟨generation, daemon, hsame, -⟩⟩ :=
        (h.errands _ (List.mem_of_getElem? hget)).act <;> rw [hsame]
    · rw [act_of_answer hget]
    · rw [hsame]
  | fire now ticket =>
    refine haside ?_
    rw [Activity.step, fire]
    split <;> rfl
  | reply index replies =>
    refine haside ?_
    rw [Activity.step, reply]
    split
    · split <;> rfl
    · rfl
  | take inbox =>
    refine haside ?_
    rw [Activity.step, take, Pipeline.take?]
    cases s.pipeline.router.take? inbox <;> rfl
  | _ => exact haside rfl

end Activity

end CodeHints
