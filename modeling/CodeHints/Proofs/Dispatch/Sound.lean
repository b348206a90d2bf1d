import CodeHints.Proofs.Dispatch.Flows

/-!
# What holds in every run

## Places

The number of a request is held back by a timer, in flight, with an errand, waiting in an inbox, or
among those whose callbacks were run. There are records of the numbers that have left one place for
the next one: those whose timers have fired, and those whose jobs have begun. `Conserves` says that
what is at a place, together with what has left it, is among what has ever come there. So nothing is
ever at two places, and a callback that is run has been through all of them.

## Answers

An errand that still has a taker is at the point to which `askSync` gets by what is in the log. The
errand of another request has another taker, so what this one meets with does not count for that
one. Once `askSync` has returned, the log has nothing to add, and what was returned stays so. That
is how an answer is still known to be what was returned when it is taken out of an inbox much later.

`Sound` has all this together with what is known of the requests, the workers and the inboxes, and
`Sound.run` carries it through every run.
-/

namespace CodeHints

open List (Subperm)

/-- The function need not be injective, as it must be for `List.Subperm.map`. -/
theorem subperm_map {α β : Type} {l l' : List α} (h : Subperm l l') (f : α → β) :
    Subperm (l.map f) (l'.map f) := by
  obtain ⟨m, hperm, hsub⟩ := h
  exact ⟨m.map f, hperm.map f, hsub.map f⟩

theorem subperm_flow {α : Type} {held held' arriving leaving gone all : List α}
    (h : Subperm (gone ++ held) all) (hflow : Subperm (leaving ++ held') (arriving ++ held)) :
    Subperm ((gone ++ leaving) ++ held') (all ++ arriving) := by
  have hgone := (List.subperm_append_left gone).mpr hflow
  rw [← List.append_assoc] at hgone
  refine hgone.trans (Subperm.trans (List.Perm.subperm ?_) ((List.subperm_append_right _).mpr h))
  rw [List.append_assoc]
  exact List.perm_append_comm.append_left _

theorem subperm_chain {α : Type} {first first' second second' arriving passing leaving : List α}
    (hsecond : Subperm (leaving ++ second') (passing ++ second))
    (hfirst : Subperm (passing ++ first') (arriving ++ first)) :
    Subperm (leaving ++ (second' ++ first')) (arriving ++ (second ++ first)) := by
  have hleft := (List.subperm_append_right first').mpr hsecond
  have hright := (List.subperm_append_left second).mpr hfirst
  rw [← List.append_assoc, ← List.append_assoc] at hright
  rw [← List.append_assoc]
  refine hleft.trans (Subperm.trans ?_ (hright.trans ?_))
  · exact (List.perm_append_comm.append_right _).subperm
  · rw [← List.append_assoc]
    exact (List.perm_append_comm.append_right _).subperm

namespace ActivityMove

theorem range_numbered (move : ActivityMove Nat) (n : Nat) :
    List.range (n + (move.numbered n).asked.length) =
      List.range n ++ (move.numbered n).asked.map (·.receiver) := by
  cases move with
  | ask now inquiry => exact List.range_succ
  | _ => exact (List.append_nil _).symm

theorem receiver_numbered {move : ActivityMove Nat} {n : Nat} {inquiry : Inquiry Nat}
    (h : inquiry ∈ (move.numbered n).asked) :
    inquiry.receiver = n ∧ (move.numbered n).asked = [inquiry] := by
  cases move with
  | ask now other =>
    obtain rfl := List.mem_singleton.mp h
    exact ⟨rfl, rfl⟩
  | _ => cases h

end ActivityMove

namespace Dispatching

variable {s : Dispatching} {n : Nat}

theorem mem_started {inquiry : Inquiry Nat} :
    inquiry ∈ s.started ↔ ∃ id, (id, .task inquiry) ∈ s.begun := by
  rw [started, WorkerPool.mem_tasksOf, List.mem_map]
  constructor
  · rintro ⟨⟨id, job⟩, hmem, rfl⟩
    exact ⟨id, hmem⟩
  · rintro ⟨id, hmem⟩
    exact ⟨_, hmem, rfl⟩

theorem started_step (s : Dispatching) (move : ActivityMove Nat) :
    (s.step move).started = s.started ++ s.activity.begins (s.made move) := by
  rw [started, step, List.map_append, WorkerPool.tasksOf_append, Activity.tasksOf_starts, started]

theorem length_asked_step (s : Dispatching) (move : ActivityMove Nat) :
    (s.step move).asked.length = s.asked.length + (s.made move).asked.length := by
  rw [step, List.length_append, List.length_map]

/-! ## Numbers -/

/-- The numbers of the answers that wait in an inbox. -/
def waiting (s : Dispatching) : List Nat :=
  s.activity.pipeline.router.waiting.map (·.receiver)

/-- What has left a place and what is there are among what has come there. -/
structure Conserves (s : Dispatching) : Prop where
  asked : Subperm (s.fired ++ numbers s.activity.pipeline.debouncer.tasks)
    (List.range s.asked.length)
  fired : Subperm (numbers s.started ++ numbers s.activity.inFlight) s.fired
  started : Subperm (s.answered ++ (s.waiting ++ s.activity.takers)) (numbers s.started)

theorem Conserves.step (h : s.Conserves) (hs : s.activity.Sound) (move : ActivityMove Nat) :
    (s.step move).Conserves := by
  have hflows := hs.flows_step (s.made move)
  have htakers := (s.activity.leads_step (s.made move)).takers
  refine ⟨?_, ?_, ?_⟩
  · have hflow := subperm_map hflows.heldBack Inquiry.receiver
    rw [List.map_append, List.map_append] at hflow
    rw [length_asked_step, ActivityMove.range_numbered]
    exact subperm_flow h.asked hflow
  · have hflow := subperm_map hflows.inFlight Inquiry.receiver
    rw [List.map_append, List.map_append] at hflow
    rw [started_step, numbers_append]
    exact subperm_flow h.fired hflow
  · have hflow := subperm_map hflows.routes.waiting Delivery.receiver
    rw [List.map_append, List.map_append, List.map_map, List.map_map] at hflow
    rw [started_step, numbers_append, answered, Dispatching.step, List.map_append]
    exact subperm_flow h.started (subperm_chain hflow htakers)

namespace Conserves

theorem count_fired_le (h : s.Conserves) (n : Nat) :
    s.fired.count n + (numbers s.activity.pipeline.debouncer.tasks).count n ≤ 1 := by
  rw [← List.count_append]
  exact Nat.le_trans (h.asked.count_le n) (List.nodup_iff_count_le_one.mp List.nodup_range n)

theorem count_started_le (h : s.Conserves) (n : Nat) :
    (numbers s.started).count n + (numbers s.activity.inFlight).count n ≤ 1 := by
  have hle := h.count_fired_le n
  have hfired := h.fired.count_le n
  rw [List.count_append] at hfired
  omega

/-- **No callback is run twice.** -/
theorem nodup_answered (h : s.Conserves) : s.answered.Nodup := by
  refine List.nodup_iff_count_le_one.mpr fun n ↦ ?_
  have hle := h.count_started_le n
  have hstarted := h.started.count_le n
  rw [List.count_append] at hstarted
  omega

theorem nodup_takers (h : s.Conserves) : s.activity.takers.Nodup := by
  refine List.nodup_iff_count_le_one.mpr fun n ↦ ?_
  have hle := h.count_started_le n
  have hstarted := h.started.count_le n
  rw [List.count_append, List.count_append] at hstarted
  omega

theorem lt_of_fired (h : s.Conserves) (hfired : n ∈ s.fired) : n < s.asked.length :=
  List.mem_range.mp (h.asked.subset (List.mem_append_left _ hfired))

theorem fired_of_started (h : s.Conserves) (hstarted : n ∈ numbers s.started) : n ∈ s.fired :=
  h.fired.subset (List.mem_append_left _ hstarted)

theorem started_of_answered (h : s.Conserves) (hran : n ∈ s.answered) : n ∈ numbers s.started :=
  h.started.subset (List.mem_append_left _ hran)

end Conserves

/-! ## What a job has met with -/

/-- What the job of a request meets with in a move. -/
def met (s : Dispatching) (move : ActivityMove Nat) (number : Nat) :
    List (Happening (Pipeline Nat)) :=
  ((s.activity.meets (s.made move)).filter (·.1 = number)).map (·.2)

theorem transcript_step (s : Dispatching) (move : ActivityMove Nat) (n : Nat) :
    (s.step move).transcript n = s.transcript n ++ s.met move n := by
  rw [transcript, step, List.filter_append, List.map_append]
  rfl

theorem getElem?_asked_step {ask : Ask} (h : s.asked[n]? = some ask) (move : ActivityMove Nat) :
    (s.step move).asked[n]? = some ask :=
  (List.getElem?_append_left (List.getElem?_eq_some_iff.mp h).1).trans h

theorem IsLeft.step {left left' : Resumption (Pipeline Nat) (Outcome DaemonError (Option Answer))}
    (h : s.IsLeft n left) {move : ActivityMove Nat}
    (hafter : left.after (s.met move n) = some left') : (s.step move).IsLeft n left' := by
  obtain ⟨ask, hask, hleft⟩ := h
  refine ⟨ask, getElem?_asked_step hask move, ?_⟩
  rw [transcript_step, Resumption.after_append, hleft]
  exact hafter

/-- Nothing new is left of a job that has met with nothing. -/
theorem IsLeft.of_step {left : Resumption (Pipeline Nat) (Outcome DaemonError (Option Answer))}
    {move : ActivityMove Nat} (h : (s.step move).IsLeft n left) (hmet : s.met move n = [])
    (hn : n < s.asked.length) : s.IsLeft n left := by
  obtain ⟨ask, hask, hleft⟩ := h
  rw [transcript_step, hmet, List.append_nil] at hleft
  exact ⟨ask, (List.getElem?_append_left hn).symm.trans hask, hleft⟩

/-! ## Soundness -/

/-- The request is the one with its number. -/
def Carries (s : Dispatching) (inquiry : Inquiry Nat) : Prop :=
  s.asked[inquiry.receiver]? = some inquiry.ask

/-- An answer is what `askSync` has returned to the job of its request, and the inbox is one of the
window of the request. -/
def Answers (s : Dispatching) (x : InboxId × Delivery Nat) : Prop :=
  ∃ ask id, s.asked[x.2.receiver]? = some ask ∧ (id, .task ⟨ask, x.2.receiver⟩) ∈ s.begun ∧
    s.Returned x.2.receiver (.value (some x.2.answer)) ∧ s.owners[x.1.index]? = some ask.window

/-- What holds after every run. -/
structure Sound (s : Dispatching) : Prop where
  activity : s.activity.Sound
  conserves : s.Conserves
  heldBack : ∀ inquiry ∈ s.activity.pipeline.debouncer.tasks, s.Carries inquiry
  inFlight : ∀ inquiry ∈ s.activity.inFlight, s.Carries inquiry
  started : ∀ inquiry ∈ s.started, s.Carries inquiry
  keyed : ∀ call ∈ s.activity.pipeline.debouncer.armed, call.ticket.key = call.task.ask.key
  withdrawn : ∀ n ∈ s.withdrawn, n < s.asked.length ∧ n ∉ s.fired ∧
    n ∉ numbers s.activity.pipeline.debouncer.tasks
  served : ∀ id inquiry, (id, .task inquiry) ∈ s.begun →
    s.activity.workforce.Serves id inquiry.ask.window
  errands : ∀ e ∈ s.activity.errands, ∀ id n, e.job = some (id, n) →
    (id, .task ⟨e.consultation.ask, n⟩) ∈ s.begun ∧
      (e.taker? = some n → s.IsLeft n e.consultation.rest)
  logged : ∀ x ∈ s.log, x.1 ∈ numbers s.started
  owners : s.owners.length = s.activity.pipeline.router.inboxes.length
  windows : ∀ x ∈ s.activity.pipeline.router.windows, s.owners[x.2.index]? = some x.1
  queued : ∀ inbox, ∀ d ∈ s.activity.pipeline.router.queued inbox, s.Answers (inbox, d)
  ran : ∀ x ∈ s.ran, s.Answers x

/-- Whoever takes the answer of an errand has a job that has begun. -/
theorem Sound.of_taker (h : s.Sound) {e : Errand Nat} (he : e ∈ s.activity.errands)
    (htaker : e.taker? = some n) : ∃ id, e.job = some (id, n) ∧
      (id, .task ⟨e.consultation.ask, n⟩) ∈ s.begun ∧ s.IsLeft n e.consultation.rest := by
  have hjob := e.taker?_toList_sublist
  rw [htaker, Option.toList_some, List.singleton_sublist, Option.mem_toList, Option.map_eq_some_iff]
    at hjob
  obtain ⟨⟨id, _⟩, hjob, rfl⟩ := hjob
  obtain ⟨hbegun, hleft⟩ := h.errands e he id _ hjob
  exact ⟨id, hjob, hbegun, hleft htaker⟩

theorem mem_numbers_started {id : WorkerId} {ask : Ask} (h : (id, .task ⟨ask, n⟩) ∈ s.begun) :
    n ∈ numbers s.started := List.mem_map.mpr ⟨_, mem_started.mpr ⟨id, h⟩, rfl⟩

theorem exists_of_met {move : ActivityMove Nat}
    {x : Nat × Happening (Pipeline Nat)} (hx : x ∈ s.activity.meets (s.made move)) :
    ∃ e ∈ s.activity.errands, e.taker? = some x.1 ∧
      ∀ outcome, e.consultation.rest ≠ .done outcome := by
  cases s.activity.leads_step (s.made move) with
  | begins new herrands hmeets => rw [hmeets] at hx; cases hx
  | ends herrands hmeets => rw [hmeets] at hx; cases hx
  | goesOn before e e' after herrands herrands' hbegins hgoes =>
    exact ⟨e, herrands ▸ List.mem_append_right _ List.mem_cons_self, hgoes.met x hx⟩

theorem met_eq_nil {move : ActivityMove Nat}
    (h : ∀ x ∈ s.activity.meets (s.made move), x.1 ≠ n) : s.met move n = [] := by
  rw [met, List.filter_eq_nil_iff.mpr fun x hx ↦ by simpa using h x hx]
  rfl

theorem Sound.returned_step (h : s.Sound) {outcome : Outcome DaemonError (Option Answer)}
    (hreturned : s.Returned n outcome) (move : ActivityMove Nat) :
    (s.step move).Returned n outcome := by
  refine hreturned.step ?_
  rw [met_eq_nil]
  · rfl
  · -- whatever meets with something now is not through, as the errand of this request is
    rintro x hx rfl
    obtain ⟨e, he, htaker, hrest⟩ := exists_of_met hx
    obtain ⟨-, -, -, hleft⟩ := h.of_taker he htaker
    exact hrest outcome (hleft.unique hreturned)

theorem Sound.answers_step (h : s.Sound) {x : InboxId × Delivery Nat} (hx : s.Answers x)
    (move : ActivityMove Nat) : (s.step move).Answers x := by
  obtain ⟨ask, id, hask, hbegun, hreturned, howner⟩ := hx
  exact ⟨ask, id, getElem?_asked_step hask move, List.mem_append_left _ hbegun,
    h.returned_step hreturned move,
    (List.getElem?_append_left (List.getElem?_eq_some_iff.mp howner).1).trans howner⟩

/-! ## One move -/

section Step

variable {inquiry : Inquiry Nat} {move : ActivityMove Nat}

theorem Carries.step (h : s.Carries inquiry) : (s.step move).Carries inquiry :=
  getElem?_asked_step h move

theorem carries_asked (h : inquiry ∈ (s.made move).asked) : (s.step move).Carries inquiry := by
  obtain ⟨hreceiver, hasked⟩ := ActivityMove.receiver_numbered h
  rw [Carries, Dispatching.step, hreceiver, hasked]
  exact List.getElem?_concat_length

private theorem Sound.heldBack_step (h : s.Sound)
    (hq : inquiry ∈ s.activity.firing (s.made move) ∨
      inquiry ∈ (s.step move).activity.pipeline.debouncer.tasks) :
    (s.step move).Carries inquiry := by
  have hflow := (h.activity.flows_step (s.made move)).heldBack
  rcases List.mem_append.mp (hflow.subset (List.mem_append.mpr hq)) with hnew | hold
  · exact carries_asked hnew
  · exact (h.heldBack inquiry hold).step

private theorem Sound.inFlight_step (h : s.Sound)
    (hq : inquiry ∈ s.activity.begins (s.made move) ∨ inquiry ∈ (s.step move).activity.inFlight) :
    (s.step move).Carries inquiry := by
  have hflow := (h.activity.flows_step (s.made move)).inFlight
  rcases List.mem_append.mp (hflow.subset (List.mem_append.mpr hq)) with hnew | hold
  · exact h.heldBack_step (.inl hnew)
  · exact (h.inFlight inquiry hold).step

private theorem Sound.started_step (h : s.Sound) (hq : inquiry ∈ (s.step move).started) :
    (s.step move).Carries inquiry := by
  rw [Dispatching.started_step, List.mem_append] at hq
  rcases hq with hold | hnew
  · exact (h.started inquiry hold).step
  · exact h.inFlight_step (.inl hnew)

private theorem Sound.keyed_step (h : s.Sound) :
    ∀ call ∈ (s.step move).activity.pipeline.debouncer.armed,
      call.ticket.key = call.task.ask.key := by
  intro call hcall
  obtain ⟨hold, -⟩ | ⟨-, hkey⟩ := (h.activity.flows_step (s.made move)).armed call hcall
  · exact h.keyed call hold
  · exact hkey

/-- A request that is withdrawn has no timer any more that could fire. -/
private theorem Sound.not_held_of_withdrawn (h : s.Sound) (hn : n ∈ s.withdrawn) :
    n ∉ numbers (s.activity.firing (s.made move)) ∧
      n ∉ numbers (s.step move).activity.pipeline.debouncer.tasks := by
  obtain ⟨hlt, -, htasks⟩ := h.withdrawn n hn
  have hflow := subperm_map (h.activity.flows_step (s.made move)).heldBack Inquiry.receiver
  rw [List.map_append, List.map_append] at hflow
  rw [← not_or, ← List.mem_append]
  intro hmem
  rcases List.mem_append.mp (hflow.subset hmem) with hasked | htask
  · obtain ⟨inquiry, hinquiry, rfl⟩ := List.mem_map.mp hasked
    exact Nat.ne_of_lt hlt (ActivityMove.receiver_numbered hinquiry).1
  · exact htasks htask

/-- The timer of a request that is being withdrawn is given up. -/
private theorem Sound.not_held_of_withdraws (h : s.Sound) (hn : n ∈ s.withdraws (s.made move)) :
    n < s.asked.length ∧ n ∉ s.fired ∧ n ∉ numbers (s.activity.firing (s.made move)) ∧
      n ∉ numbers (s.step move).activity.pipeline.debouncer.tasks := by
  obtain ⟨hunfired, hgivesUp⟩ := List.mem_filter.mp hn
  obtain ⟨hlt, hfired⟩ := List.mem_filter.mp hunfired
  rw [List.mem_range] at hlt
  rw [Option.any_eq_true] at hgivesUp
  obtain ⟨key, hkey, hgivesUp⟩ := hgivesUp
  refine ⟨hlt, of_decide_eq_true hfired, ?_, fun hmem ↦ ?_⟩
  · rw [Activity.firing_of_givesUp hgivesUp]
    exact List.not_mem_nil
  · obtain ⟨inquiry, hinquiry, rfl⟩ := List.mem_map.mp hmem
    obtain ⟨call, hcall, rfl⟩ := List.mem_map.mp hinquiry
    obtain ⟨hold, hkeeps⟩ | ⟨hasked, -⟩ := (h.activity.flows_step (s.made move)).armed call hcall
    · -- the timer was armed under the key of its request, and this is the one that is given up
      rw [h.heldBack _ (List.mem_map_of_mem hold), Option.map_some] at hkey
      rw [h.keyed call hold, Option.some.inj hkey, hgivesUp] at hkeeps
      cases hkeeps
    · exact Nat.ne_of_lt hlt (ActivityMove.receiver_numbered hasked).1

private theorem Sound.withdrawn_step (h : s.Sound) :
    ∀ n ∈ (s.step move).withdrawn, n < (s.step move).asked.length ∧ n ∉ (s.step move).fired ∧
      n ∉ numbers (s.step move).activity.pipeline.debouncer.tasks := by
  intro n hn
  obtain ⟨hlt, hfired, hfiring, htasks⟩ : n < s.asked.length ∧ n ∉ s.fired ∧
      n ∉ numbers (s.activity.firing (s.made move)) ∧
        n ∉ numbers (s.step move).activity.pipeline.debouncer.tasks := by
    rcases List.mem_append.mp hn with hold | hnew
    · obtain ⟨hlt, hfired, -⟩ := h.withdrawn n hold
      exact ⟨hlt, hfired, h.not_held_of_withdrawn hold⟩
    · exact h.not_held_of_withdraws hnew
  refine ⟨?_, fun hmem ↦ (List.mem_append.mp hmem).elim hfired hfiring, htasks⟩
  rw [length_asked_step]
  exact Nat.lt_add_right _ hlt

private theorem Sound.served_step (h : s.Sound) : ∀ id inquiry,
    (id, .task inquiry) ∈ (s.step move).begun →
      (s.step move).activity.workforce.Serves id inquiry.ask.window := by
  intro id inquiry hmem
  have hgoes := h.activity.goes (s.made move)
  refine hgoes.serves h.activity.workforce ?_
  rcases List.mem_append.mp hmem with hold | hnew
  · exact h.served id inquiry hold
  · exact hgoes.serves_of_starts h.activity.workforce hnew

theorem Sound.not_started_of_begins (h : s.Sound)
    (hq : inquiry ∈ s.activity.begins (s.made move)) :
    inquiry.receiver ∉ numbers s.started := by
  intro hold
  have hnew : inquiry.receiver ∈ numbers (s.activity.begins (s.made move)) :=
    List.mem_map_of_mem hq
  -- after the move its number would be twice in the record of the jobs that have begun
  have hle := (h.conserves.step h.activity move).count_started_le inquiry.receiver
  rw [Dispatching.started_step, numbers_append, List.count_append] at hle
  have hold := List.count_pos_iff.mpr hold
  have hnew := List.count_pos_iff.mpr hnew
  omega

private theorem Sound.isLeft_begins (h : s.Sound) (hq : inquiry ∈ s.activity.begins (s.made move))
    (hmeets : s.activity.meets (s.made move) = []) :
    (s.step move).IsLeft inquiry.receiver
      (Pipeline.askSync Resumption.atomic Resumption.engine inquiry.ask) := by
  refine ⟨inquiry.ask, h.inFlight_step (.inl hq), ?_⟩
  have hnone : s.transcript inquiry.receiver = [] := by
    rw [transcript, List.filter_eq_nil_iff.mpr fun x hx hsame ↦ ?_]
    · rfl
    · rw [decide_eq_true_eq] at hsame
      exact h.not_started_of_begins hq (hsame ▸ h.logged x hx)
  rw [transcript_step, hnone, met, hmeets]
  rfl

/-- An errand that goes on does what is left of its code after what it has met with. -/
private theorem Sound.isLeft_goesOn (h : s.Sound) {e e' : Errand Nat}
    (he : e ∈ s.activity.errands)
    (hgoes : e.GoesOn e' (s.activity.meets (s.made move)) (s.activity.delivers (s.made move)))
    (htaker : e'.taker? = some n) : (s.step move).IsLeft n e'.consultation.rest := by
  obtain ⟨-, -, -, hleft⟩ := h.of_taker he (hgoes.taker?_eq htaker)
  refine hleft.step ?_
  rw [met, List.filter_eq_self.mpr fun x hx ↦ ?_]
  · exact hgoes.rest n htaker
  · have hsame := (hgoes.met x hx).1.symm.trans (hgoes.taker?_eq htaker)
    exact decide_eq_true (Option.some.inj hsame)

/-- An errand that does nothing in the move stays where it is in its code. -/
private theorem Sound.errand_stays (h : s.Sound) {e : Errand Nat} (he : e ∈ s.activity.errands)
    {id : WorkerId} (hjob : e.job = some (id, n))
    (hmet : e.taker? = some n → ∀ x ∈ s.activity.meets (s.made move), x.1 ≠ n) :
    (id, .task ⟨e.consultation.ask, n⟩) ∈ (s.step move).begun ∧
      (e.taker? = some n → (s.step move).IsLeft n e.consultation.rest) := by
  obtain ⟨hbegun, hleft⟩ := h.errands e he id n hjob
  refine ⟨List.mem_append_left _ hbegun, fun htaker ↦ (hleft htaker).step ?_⟩
  rw [met_eq_nil (hmet htaker)]
  rfl

private theorem Sound.errands_step (h : s.Sound) : ∀ e ∈ (s.step move).activity.errands, ∀ id n,
    e.job = some (id, n) → (id, .task ⟨e.consultation.ask, n⟩) ∈ (s.step move).begun ∧
      (e.taker? = some n → (s.step move).IsLeft n e.consultation.rest) := by
  intro e he id n hjob
  cases s.activity.leads_step (s.made move) with
  | begins new herrands hmeets hdelivers htakers hnew =>
    have he : e ∈ s.activity.errands ++ new := herrands ▸ he
    rcases List.mem_append.mp he with hold | he
    · exact h.errand_stays hold hjob fun _ x hx ↦ by rw [hmeets] at hx; cases hx
    · obtain ⟨hstarts, hrest⟩ := hnew e he id n hjob
      refine ⟨List.mem_append_right _ hstarts, fun _ ↦ ?_⟩
      rw [hrest]
      exact h.isLeft_begins (Activity.mem_begins_of_starts hstarts) hmeets
  | ends herrands hmeets hdelivers hbegins =>
    exact h.errand_stays (herrands.subset he) hjob fun _ x hx ↦ by rw [hmeets] at hx; cases hx
  | goesOn before e₀ e₁ after herrands herrands' hbegins hgoes =>
    -- the errands beside the one that goes on have other takers
    have hother {other : Errand Nat} (hother : other ∈ before ∨ other ∈ after)
        (htaker : other.taker? = some n) :
        ∀ x ∈ s.activity.meets (s.made move), x.1 ≠ n := fun x hx hsame ↦
      Activity.taker?_ne_of_split h.conserves.nodup_takers herrands (hgoes.met x hx).1 hother
        (hsame ▸ htaker)
    have hmem : e₀ ∈ s.activity.errands := herrands ▸ List.mem_append_right _ List.mem_cons_self
    have he : e ∈ before ++ e₁ :: after := herrands' ▸ he
    rw [List.mem_append, List.mem_cons] at he
    rcases he with hbefore | rfl | hafter
    · exact h.errand_stays (herrands ▸ List.mem_append_left _ hbefore) hjob (hother (.inl hbefore))
    · obtain ⟨hbegun, -⟩ := h.errands e₀ hmem id n (hgoes.job ▸ hjob)
      exact ⟨List.mem_append_left _ (hgoes.ask ▸ hbegun), h.isLeft_goesOn hmem hgoes⟩
    · exact h.errand_stays (herrands ▸ List.mem_append_right _ (List.mem_cons_of_mem _ hafter)) hjob
        (hother (.inr hafter))

private theorem Sound.logged_step (h : s.Sound) :
    ∀ x ∈ (s.step move).log, x.1 ∈ numbers (s.step move).started := by
  intro x hx
  rw [Dispatching.started_step, numbers_append]
  refine List.mem_append_left _ ?_
  rcases List.mem_append.mp hx with hold | hnew
  · exact h.logged x hold
  · obtain ⟨e, he, htaker, -⟩ := exists_of_met hnew
    obtain ⟨id, -, hbegun, -⟩ := h.of_taker he htaker
    exact mem_numbers_started hbegun

private theorem Sound.windows_step (h : s.Sound) :
    ∀ x ∈ (s.step move).activity.pipeline.router.windows,
      (s.step move).owners[x.2.index]? = some x.1 := by
  intro x hx
  obtain hold | ⟨hle, hnew⟩ := (h.activity.flows_step (s.made move)).routes.windows x hx
  · have howner := h.windows x hold
    exact (List.getElem?_append_left (List.getElem?_eq_some_iff.mp howner).1).trans howner
  · rw [← h.owners] at hle hnew
    exact (List.getElem?_append_right hle).trans hnew

/-- What is delivered answers the request of the job. -/
private theorem Sound.answers_delivered (h : s.Sound) {inbox : InboxId} {window : WindowKey}
    {d : Delivery Nat} (hd : (window, d) ∈ s.activity.delivers (s.made move))
    (hwindow : (window, inbox) ∈ s.activity.pipeline.router.windows) : s.Answers (inbox, d) := by
  cases s.activity.leads_step (s.made move) with
  | begins new herrands hmeets hdelivers => rw [hdelivers] at hd; cases hd
  | ends herrands hmeets hdelivers => rw [hdelivers] at hd; cases hd
  | goesOn before e e' after herrands herrands' hbegins hgoes =>
    obtain ⟨htaker, rfl, hrest⟩ := hgoes.delivered _ hd
    have he : e ∈ s.activity.errands := herrands ▸ List.mem_append_right _ List.mem_cons_self
    obtain ⟨id, -, hbegun, hleft⟩ := h.of_taker he htaker
    rw [hrest] at hleft
    exact ⟨e.consultation.ask, id, h.started _ (mem_started.mpr ⟨id, hbegun⟩), hbegun, hleft,
      h.windows _ hwindow⟩

private theorem Sound.queued_step (h : s.Sound) (inbox : InboxId) :
    ∀ d ∈ (s.step move).activity.pipeline.router.queued inbox,
      (s.step move).Answers (inbox, d) := by
  intro d hd
  refine h.answers_step ?_ move
  obtain hold | ⟨window, hdelivered, hwindow⟩ :=
    (h.activity.flows_step (s.made move)).routes.queued inbox d hd
  · exact h.queued inbox d hold
  · exact h.answers_delivered hdelivered hwindow

private theorem Sound.ran_step (h : s.Sound) :
    ∀ x ∈ (s.step move).ran, (s.step move).Answers x := by
  intro x hx
  refine h.answers_step ?_ move
  rcases List.mem_append.mp hx with hold | hnew
  · exact h.ran x hold
  · obtain ⟨inbox, d⟩ := x
    exact h.queued inbox d (s.activity.mem_queued_of_takes hnew)

theorem Sound.step (h : s.Sound) (move : ActivityMove Nat) : (s.step move).Sound where
  activity := h.activity.step _
  conserves := h.conserves.step h.activity move
  heldBack _ hq := h.heldBack_step (.inr hq)
  inFlight _ hq := h.inFlight_step (.inr hq)
  started _ hq := h.started_step hq
  keyed := h.keyed_step
  withdrawn := h.withdrawn_step
  served := h.served_step
  errands := h.errands_step
  logged := h.logged_step
  owners := by
    have hinboxes := (h.activity.flows_step (s.made move)).routes.inboxes
    rw [Dispatching.step, List.length_append, h.owners]
    exact hinboxes.symm
  windows := h.windows_step
  queued := h.queued_step
  ran := h.ran_step

end Step

/-! ## Runs -/

theorem sound_start (settings : Settings) (hasLog : Bool) : (start settings hasLog).Sound where
  activity := Activity.sound_start settings hasLog
  conserves := ⟨.refl _, .refl _, .refl _⟩
  heldBack _ h := by cases h
  inFlight _ h := by cases h
  started _ h := by cases h
  keyed _ h := by cases h
  withdrawn _ h := by cases h
  served _ _ h := by cases h
  errands _ h := by cases h
  logged _ h := by cases h
  owners := rfl
  windows _ h := by cases h
  queued _ _ h := by cases h
  ran _ h := by cases h

theorem Sound.run (h : s.Sound) (moves : List (ActivityMove Nat)) : (s.run moves).Sound := by
  induction moves generalizing s with
  | nil => exact h
  | cons move moves ih => exact ih (h.step move)

end Dispatching

end CodeHints
