import CodeHints.Proofs.Listening.Basic
import Mathlib.Data.List.Perm.Basic

/-!
# Every request is in one place

A request of the listener is held back, or about to be submitted, or pending in the pool, or being
answered, or its answer waits in an inbox, or it has ended in one way. `Tracked.numbers` says that
this is so for every number that was given out, and for each of them once: the numbers of what is
outstanding and of what has ended are a rearrangement of all numbers. Nothing gets lost without a
fate, and nothing that has a fate ever turns up again.

The rest of `Sound` builds on this. Every answer that waits in an inbox is one that the analyzer may
give for the request it belongs to. And as long as the listener waits at a place, what it has
awaited from the beginning covers all that is outstanding there.

## Flows

Most moves only let requests move on, or end in one way. Such a move is a `Flow`, and it is shown
once that a flow keeps a state sound. Only a query, which begins to wait, and the arrival of an
answer have an influence on the bookkeeping of the listener.
-/

namespace CodeHints

variable {analyzer : Analyzer}

/-! ## Answers -/

/-- An answer that the analyzer may give to a request, in some environment. -/
def IsAnswer (analyzer : Analyzer) (context : RequestContext) (answer : Answer) : Prop :=
  ∃ env, (execute Resumption.engine env context :
    Resumption (Pipeline Recipient) _).Yields analyzer (some answer)

namespace Resumption

/-- A request for completions is answered by completions. -/
private theorem always_execute (env : ResolvedEnvironment) {context : RequestContext} {fuzzy : Bool}
    (hrequest : context.request = .autocomplete fuzzy) :
    (execute engine env context : Resumption (Pipeline Recipient) _).Always analyzer
      (fun _ ↦ True) fun outcome ↦
        ∀ answer, outcome = some answer → ∃ entries, answer = .completions entries := by
  have hnone : ∀ answer, (none : Option Answer) = some answer →
      ∃ entries, answer = .completions entries := fun _ h ↦ by cases h
  unfold execute ask Outcome.andThen
  intro analyzed _
  cases analyzed with
  | failed e => exact hnone
  | broken payload => exact hnone
  | value _ =>
    intro signatures _
    cases signatures with
    | failed e => exact hnone
    | broken payload => exact hnone
    | value signatures =>
      rw [hrequest]
      intro found _
      cases found with
      | failed e => exact hnone
      | broken payload => exact hnone
      | value found =>
        rintro _ ⟨⟩
        exact ⟨_, rfl⟩

/-- Code that answers a request: while it runs no request moves, and what it ends in is an answer,
if there is one. -/
def Answers (analyzer : Analyzer) (context : RequestContext)
    (rest : Resumption (Pipeline Recipient) (Outcome DaemonError (Option Answer))) : Prop :=
  rest.Always analyzer (fun update ↦ ∀ p : Pipeline Recipient, p.Calm (update p)) fun outcome ↦
    ∀ answer, outcome = .value (some answer) → IsAnswer analyzer context answer

private theorem answers_answerIn (context : RequestContext)
    (found : Outcome DaemonError Resolution) :
    (answerIn context found).Answers analyzer context := by
  cases found with
  | failed e => exact fun _ h ↦ by cases h
  | broken payload => exact fun _ h ↦ by cases h
  | value found =>
    refine Always.bind ((private_execute found.daemon.resolved context).always fun _ h ↦ h)
      fun outcome houtcome ↦ ?_
    rintro answer ⟨⟩
    exact ⟨_, houtcome⟩

theorem answers_askSync (ask : Ask) :
    (Pipeline.askSync atomic engine ask).Answers analyzer ask.context := by
  rw [askSync_eq]
  refine ⟨fun p ↦ .refl p, fun p ↦ ?_⟩
  dsimp only
  rw [getOrCreate_eq]
  refine ⟨fun p ↦ .refl p, fun p' ↦ ?_⟩
  dsimp only
  cases p'.registry.lookup ask.window with
  | cached found => exact answers_answerIn _ _
  | missing generation =>
    rw [bind_assoc]
    refine Always.bind ((private_create _ _ _).always fun _ h ↦ h) fun created _ ↦ ?_
    cases created with
    | failed e => exact answers_answerIn _ (.failed e)
    | broken payload => exact answers_answerIn _ (.broken payload)
    | value daemon => exact ⟨fun p ↦ ⟨rfl, .refl _, rfl⟩, fun _ ↦ answers_answerIn _ (.value _)⟩

end Resumption

theorem IsAnswer.of_autocomplete {context : RequestContext} {answer : Answer} {fuzzy : Bool}
    (h : IsAnswer analyzer context answer) (hrequest : context.request = .autocomplete fuzzy) :
    ∃ entries, answer = .completions entries := by
  obtain ⟨env, hyields⟩ := h
  exact (Resumption.always_execute env hrequest).of_yields hyields answer rfl

/-- What holds of a job that is being run. -/
def JobState.Conforms (analyzer : Analyzer) : JobState Recipient → Prop
  | .answering inquiry rest => rest.Answers analyzer inquiry.ask.context
  | .spent => True

theorem JobState.conforms_start (job : Job (Inquiry Recipient)) :
    (start job).Conforms analyzer := by
  cases job with
  | task inquiry => exact Resumption.answers_askSync inquiry.ask
  | signal id => exact trivial

namespace Listening

variable {s t : Listening}

theorem mem_outstandingAt {number location : Nat} :
    number ∈ s.outstandingAt location ↔ (number, location) ∈ s.outstanding := by
  simp only [outstandingAt, List.mem_map, List.mem_filter, decide_eq_true_eq]
  constructor
  · rintro ⟨⟨_, _⟩, ⟨hmem, rfl⟩, rfl⟩
    exact hmem
  · intro hmem
    exact ⟨_, ⟨hmem, rfl⟩, rfl⟩

theorem mem_outstanding {number location : Nat} :
    (number, location) ∈ s.outstanding ↔ .listener number location ∈ s.recipients := by
  rw [outstanding, List.mem_filterMap]
  constructor
  · rintro ⟨recipient, hmem, hentry⟩
    cases recipient with
    | listener n l =>
      obtain ⟨rfl, rfl⟩ := Prod.mk.inj (Option.some.inj hentry)
      exact hmem
    | other => cases hentry
  · intro hmem
    exact ⟨_, hmem, rfl⟩

/-! ## What holds after every run -/

/-- A request that the listener has made is what its number says. -/
def IsFaithful (s : Listening) (inquiry : Inquiry Recipient) : Prop :=
  ∀ number location, inquiry.receiver = .listener number location →
    s.issued[number]? = some ⟨location, inquiry.ask⟩

/-- An answer for the listener is one to the request with its number. -/
def IsGenuine (analyzer : Analyzer) (s : Listening) (delivery : Delivery Recipient) : Prop :=
  ∀ number location, delivery.receiver = .listener number location →
    ∃ ask, s.issued[number]? = some ⟨location, ask⟩ ∧
      IsAnswer analyzer ask.context delivery.answer

/-- The listener waits at a place, or has been given a list for it. -/
structure WaitsAt (analyzer : Analyzer) (s : Listening) (location : Nat) : Prop where
  /-- It has awaited all that is outstanding. -/
  outstanding : ∀ number ∈ s.outstandingAt location, number ∈ s.awaited
  place : ∀ number ∈ s.awaited, ∃ ask, s.issued[number]? = some ⟨location, ask⟩
  /-- Without a list nothing that it has awaited has arrived. -/
  unreceived : s.state.deliveredAt ≠ some location →
    ∀ number ∈ s.awaited, (number, .received) ∉ s.ended
  /-- The list answers something that it has awaited. -/
  served : s.state.deliveredAt = some location →
    ∃ number ∈ s.awaited, ∃ ask, s.issued[number]? = some ⟨location, ask⟩ ∧
      IsAnswer analyzer ask.context (.completions s.state.current)

/-- What holds of the requests after every run. -/
structure Tracked (analyzer : Analyzer) (s : Listening) : Prop where
  unique : s.pipeline.debouncer.Unique
  orderly : s.pipeline.pool.Orderly
  jobs : ∀ x ∈ s.jobs, x.2.Conforms analyzer
  numbers : List.Perm (s.outstanding.map (·.1) ++ s.ended.map (·.1)) (List.range s.issued.length)
  faithful : ∀ inquiry ∈ s.inquiries, s.IsFaithful inquiry
  genuine : ∀ delivery ∈ s.deliveries, s.IsGenuine analyzer delivery
  autocomplete : ∀ issue ∈ s.issued, ∃ fuzzy, issue.ask.context.request = .autocomplete fuzzy

/-- What holds after every run. -/
structure Sound (analyzer : Analyzer) (s : Listening) : Prop extends Tracked analyzer s where
  waits : ∀ location, s.state.lastRequest = some location → s.WaitsAt analyzer location

theorem Tracked.issued_of_outstanding (h : s.Tracked analyzer) {number location : Nat}
    (hmem : (number, location) ∈ s.outstanding) :
    ∃ ask, s.issued[number]? = some ⟨location, ask⟩ := by
  rw [mem_outstanding, recipients, List.mem_append, List.mem_map, List.mem_map] at hmem
  obtain ⟨inquiry, hinquiry, hreceiver⟩ | ⟨delivery, hdelivery, hreceiver⟩ := hmem
  · exact ⟨_, h.faithful inquiry hinquiry number location hreceiver⟩
  · obtain ⟨ask, hissued, -⟩ := h.genuine delivery hdelivery number location hreceiver
    exact ⟨ask, hissued⟩

theorem Tracked.not_ended (h : s.Tracked analyzer) {number location : Nat}
    (hmem : (number, location) ∈ s.outstanding) (fate : Fate) : (number, fate) ∉ s.ended := by
  intro hended
  have hnodup := h.numbers.nodup_iff.mpr List.nodup_range
  rw [List.nodup_append] at hnodup
  exact hnodup.2.2 number (List.mem_map.mpr ⟨_, hmem, rfl⟩) number
    (List.mem_map.mpr ⟨_, hended, rfl⟩) rfl

theorem Tracked.outstanding_of_issued (h : s.Tracked analyzer) {number location : Nat} {ask : Ask}
    (hissued : s.issued[number]? = some ⟨location, ask⟩)
    (hended : ∀ fate, (number, fate) ∉ s.ended) : (number, location) ∈ s.outstanding := by
  have hrange : number ∈ List.range s.issued.length :=
    List.mem_range.mpr (List.getElem?_eq_some_iff.mp hissued).1
  obtain hmem | hmem := List.mem_append.mp (h.numbers.mem_iff.mpr hrange)
  · obtain ⟨⟨_, place⟩, hentry, rfl⟩ := List.mem_map.mp hmem
    obtain ⟨other, hother⟩ := h.issued_of_outstanding hentry
    have heq := Option.some.inj (hissued.symm.trans hother)
    rw [(Issue.mk.inj heq).1]
    exact hentry
  · obtain ⟨⟨_, fate⟩, hentry, rfl⟩ := List.mem_map.mp hmem
    exact absurd hentry (hended fate)

/-! ## Flows -/

/-- Requests move on, and some of them end. -/
structure Flow (analyzer : Analyzer) (s t : Listening) (fate : Fate) (gone : List Recipient) :
    Prop where
  unique : t.pipeline.debouncer.Unique
  orderly : t.pipeline.pool.Orderly
  jobs : ∀ x ∈ t.jobs, x.2.Conforms analyzer
  issued : t.issued = s.issued
  ended : t.ended = s.ended ++ (gone.filterMap Recipient.entry?).map fun x ↦ (x.1, fate)
  outstanding : List.Perm s.outstanding (gone.filterMap Recipient.entry? ++ t.outstanding)
  inquiries : ∀ inquiry ∈ t.inquiries, inquiry ∈ s.inquiries ∨ inquiry.receiver = .other
  deliveries : ∀ delivery ∈ t.deliveries,
    delivery ∈ s.deliveries ∨ s.IsGenuine analyzer delivery

variable {fate : Fate} {gone : List Recipient}

theorem Tracked.flow (h : s.Tracked analyzer) (hflow : Flow analyzer s t fate gone) :
    t.Tracked analyzer := by
  have hgenuine {delivery : Delivery Recipient} (hs : s.IsGenuine analyzer delivery) :
      t.IsGenuine analyzer delivery := by
    rw [IsGenuine, hflow.issued]
    exact hs
  refine ⟨hflow.unique, hflow.orderly, hflow.jobs, ?_, ?_, ?_, ?_⟩
  · -- the numbers of those that end pass over from one list to the other
    rw [hflow.issued, hflow.ended]
    refine List.Perm.trans ?_ h.numbers
    have hperm := (hflow.outstanding.map (·.1)).append_right (s.ended.map (·.1))
    refine List.Perm.trans ?_ hperm.symm
    refine List.perm_iff_count.mpr fun number ↦ ?_
    simp only [List.map_append, List.map_map, Function.comp_def, List.count_append]
    omega
  · intro inquiry hinquiry number location hreceiver
    rw [hflow.issued]
    obtain hold | hother := hflow.inquiries inquiry hinquiry
    · exact h.faithful inquiry hold number location hreceiver
    · rw [hother] at hreceiver
      cases hreceiver
  · intro delivery hdelivery
    obtain hold | hnew := hflow.deliveries delivery hdelivery
    · exact hgenuine (h.genuine delivery hold)
    · exact hgenuine hnew
  · rw [hflow.issued]
    exact h.autocomplete

theorem Flow.outstandingAt (hflow : Flow analyzer s t fate gone) {number location : Nat}
    (hmem : number ∈ t.outstandingAt location) : number ∈ s.outstandingAt location := by
  rw [mem_outstandingAt] at hmem ⊢
  exact hflow.outstanding.mem_iff.mpr (List.mem_append_right _ hmem)

theorem Flow.ended_of_ne (hflow : Flow analyzer s t fate gone) {number : Nat} {other : Fate}
    (hfate : fate ≠ other) (hended : (number, other) ∈ t.ended) : (number, other) ∈ s.ended := by
  rw [hflow.ended] at hended
  obtain hold | hnew := List.mem_append.mp hended
  · exact hold
  · obtain ⟨x, -, heq⟩ := List.mem_map.mp hnew
    exact absurd (Prod.mk.inj heq).2 hfate

/-- **A flow keeps a state sound**, unless it takes answers to the listener. -/
theorem Sound.flow (h : s.Sound analyzer) (hflow : Flow analyzer s t fate gone)
    (hstate : t.state = s.state) (hawaited : t.awaited = s.awaited) (hfate : fate ≠ .received) :
    t.Sound analyzer := by
  refine ⟨h.toTracked.flow hflow, fun location hlast ↦ ?_⟩
  rw [hstate] at hlast
  have hwaits := h.waits location hlast
  refine ⟨?_, ?_, ?_, ?_⟩
  · rw [hawaited]
    exact fun number hmem ↦ hwaits.outstanding number (hflow.outstandingAt hmem)
  · rw [hawaited, hflow.issued]
    exact hwaits.place
  · rw [hstate, hawaited]
    exact fun hdelivered number hmem hended ↦
      hwaits.unreceived hdelivered number hmem (hflow.ended_of_ne hfate hended)
  · rw [hstate, hawaited, hflow.issued]
    exact hwaits.served

end Listening

end CodeHints
