import CodeHints.Proofs.Listening.Basic
import Mathlib.Data.List.Induction

/-!
# What a query does

The editor queries a listener as often as it likes, and answers arrive in any order, late, several
times or not at all. Here the listener is left alone with these two kinds of events, each of which
has the bookkeeping for itself while it happens. What a query does depends on the bookkeeping only:
it may begin to wait, go on waiting, be given the list that has arrived, or be declined
(`CompletionState.Queried`).

## The marker

The bookkeeping keeps the place of the last request until a query comes to its list. Two things may
happen to this marker, and both are done by queries for the place: it is set, which makes a request,
and it is cleared, which takes the list. While it stays where it is, nothing is requested. So
between two queries that set it at the same place it must have left the place, either to another one
or to none at all (`exists_moves`).

An answer is only taken up while the marker is at its place. When a query comes to a list, that list
has therefore arrived after the marker was set, see `HasArrived`.

Main result: `attend_neverRepeats`.
-/

namespace CodeHints

inductive ListenerEvent where
  /-- The editor queries it for completions, under the settings that are in effect. -/
  | query (settings : Settings) (view : View) (locations : List Nat)
  /-- An answer to a request for a place arrives. -/
  | deliver (visibility : Visibility) (location : Nat) (answer : Answer) (isPopupVisible : Bool)

namespace CompletionState

variable {s : CompletionState} {e : ListenerEvent} {location : Nat}

/-! ## Queries -/

/-- What a query comes to. -/
inductive Queried (s : CompletionState) : List Nat → QueryOutcome → Prop where
  | declined (locations : List Nat) : Queried s locations ⟨.decline, s, none⟩
  /-- The listener begins to wait. -/
  | begun (location : Nat) (rest : List Nat) (h : s.lastRequest ≠ some location) :
      Queried s (location :: rest) ⟨.pending, s.markRequested location, some location⟩
  /-- It is still waiting. -/
  | waiting (location : Nat) (rest : List Nat) (hlast : s.lastRequest = some location)
      (hdelivered : s.deliveredAt ≠ some location) :
      Queried s (location :: rest) ⟨.pending, s, none⟩
  | served (location : Nat) (rest : List Nat) (hlast : s.lastRequest = some location)
      (hdelivered : s.deliveredAt = some location) (hcurrent : s.current ≠ []) :
      Queried s (location :: rest) ⟨.completions s.current, { s with lastRequest := none }, none⟩
  /-- The list is empty, and the wait is over. -/
  | ended (location : Nat) (rest : List Nat) (hlast : s.lastRequest = some location)
      (hdelivered : s.deliveredAt = some location) (hcurrent : s.current = []) :
      Queried s (location :: rest) ⟨.decline, { s with lastRequest := none }, none⟩

theorem queried (s : CompletionState) (settings : Settings) (view : View) (locations : List Nat) :
    s.Queried locations (s.query settings view locations) := by
  cases locations with
  | nil => exact .declined []
  | cons location rest =>
    rw [query]
    split
    · exact .declined _
    split
    · exact .declined _
    by_cases hlast : s.lastRequest = some location
    · have hexpects : s.expects location = true := decide_eq_true hlast
      rw [hexpects, Bool.not_true, if_neg Bool.false_ne_true, isInFlight, hexpects, Bool.true_and]
      by_cases hdelivered : s.deliveredAt = some location
      · rw [if_neg (by simpa using hdelivered), consume, hexpects, decide_eq_true hdelivered,
          Bool.true_and, if_pos rfl]
        cases hempty : s.current.isEmpty with
        | true => exact .ended location rest hlast hdelivered (List.isEmpty_iff.mp hempty)
        | false =>
          exact .served location rest hlast hdelivered (List.isEmpty_eq_false_iff.mp hempty)
      · rw [if_pos (by simpa using hdelivered)]
        exact .waiting location rest hlast hdelivered
    · have hexpects : s.expects location = false := decide_eq_false hlast
      rw [hexpects, Bool.not_false, if_pos rfl]
      exact .begun location rest hlast

theorem markRequested_deliveredAt (s : CompletionState) (location : Nat) :
    (s.markRequested location).deliveredAt ≠ some location := by
  rw [markRequested]
  dsimp only
  split
  · exact (Option.some_ne_none location).symm
  · next h => exact h

/-! ## Answers -/

/-- A list is only taken up for the place that the marker is at. -/
theorem receive_eq (s : CompletionState) (visibility : Visibility) (place : Nat) (answer : Answer)
    (isPopupVisible : Bool) :
    (∃ entries, answer = .completions entries ∧ s.lastRequest = some place ∧
      (s.receive visibility place answer isPopupVisible).2 =
        { s with current := entries, previous := s.current, deliveredAt := some place }) ∨
    (¬(s.lastRequest = some place ∧ ∃ entries, answer = .completions entries) ∧
      (s.receive visibility place answer isPopupVisible).2 = s) := by
  cases answer with
  | template text => exact .inr ⟨fun ⟨_, _, h⟩ ↦ (by cases h), rfl⟩
  | completions entries =>
    rw [receive]
    by_cases hlast : s.lastRequest = some place
    · have hexpects : s.expects place = true := decide_eq_true hlast
      rw [hexpects]
      exact .inl ⟨entries, rfl, hlast, rfl⟩
    · have hexpects : s.expects place = false := decide_eq_false hlast
      rw [hexpects]
      exact .inr ⟨fun h ↦ hlast h.1, rfl⟩

theorem receive_lastRequest (s : CompletionState) (visibility : Visibility) (place : Nat)
    (answer : Answer) (isPopupVisible : Bool) :
    (s.receive visibility place answer isPopupVisible).2.lastRequest = s.lastRequest := by
  obtain ⟨entries, -, -, h⟩ | ⟨-, h⟩ := s.receive_eq visibility place answer isPopupVisible <;>
    rw [h]

/-! ## Events -/

def handle (s : CompletionState) : ListenerEvent → CompletionState
  | .query settings view locations => (s.query settings view locations).state
  | .deliver visibility location answer isPopupVisible =>
    (s.receive visibility location answer isPopupVisible).2

def attend (s : CompletionState) (events : List ListenerEvent) : CompletionState :=
  events.foldl handle s

/-- What is asked at an event. A place in a view without a window cannot be asked about. -/
def asked (s : CompletionState) (requester : InstanceId) : ListenerEvent → Option Ask
  | .query settings view locations =>
    (s.query settings view locations).request.bind fun location ↦
      Ask.ofView? view requester (some location) (.autocomplete settings.fuzzy)
  | .deliver .. => none

theorem handle_query {settings : Settings} {view : View} {locations : List Nat}
    {outcome : QueryOutcome} (h : s.query settings view locations = outcome) :
    s.handle (.query settings view locations) = outcome.state := congrArg QueryOutcome.state h

theorem asked_query {settings : Settings} {view : View} {locations : List Nat}
    {outcome : QueryOutcome} (h : s.query settings view locations = outcome)
    (requester : InstanceId) :
    s.asked requester (.query settings view locations) = outcome.request.bind fun location ↦
      Ask.ofView? view requester (some location) (.autocomplete settings.fuzzy) := by
  rw [asked, h]

/-- The marker is set at a place where it was not. -/
def Starts (s : CompletionState) (e : ListenerEvent) (location : Nat) : Prop :=
  s.lastRequest ≠ some location ∧ (s.handle e).lastRequest = some location

/-- The marker is taken away from a place. -/
def Consumes (s : CompletionState) (e : ListenerEvent) (location : Nat) : Prop :=
  s.lastRequest = some location ∧ (s.handle e).lastRequest = none

theorem attend_cons (s : CompletionState) (e : ListenerEvent) (events : List ListenerEvent) :
    s.attend (e :: events) = (s.handle e).attend events := rfl

theorem attend_append (s : CompletionState) (events more : List ListenerEvent) :
    s.attend (events ++ more) = (s.attend events).attend more := List.foldl_append

/-- When the marker leaves a place, an event moves it to another place or takes it away. -/
theorem exists_moves {events : List ListenerEvent} (h : s.lastRequest = some location)
    (hleft : (s.attend events).lastRequest ≠ some location) :
    ∃ early e late, events = early ++ e :: late ∧
      ((∃ other, other ≠ location ∧ (s.attend early).Starts e other) ∨
        (s.attend early).Consumes e location) := by
  induction events generalizing s with
  | nil => exact absurd h hleft
  | cons e rest ih =>
    by_cases hstays : (s.handle e).lastRequest = some location
    · obtain ⟨early, d, late, rfl, hmoves⟩ := ih hstays hleft
      exact ⟨e :: early, d, late, rfl, hmoves⟩
    · refine ⟨[], e, rest, rfl, ?_⟩
      cases hnext : (s.handle e).lastRequest with
      | none => exact .inr ⟨h, hnext⟩
      | some other =>
        have hother : other ≠ location := fun heq ↦ hstays (heq ▸ hnext)
        refine .inl ⟨other, hother, fun hsame ↦ hother ?_, hnext⟩
        exact Option.some.inj (hsame.symm.trans h)

/-! ## What has arrived -/

/-- A list for a place was taken up as the last one of a history, and the marker has been at the
place ever since. -/
def HasArrived (events : List ListenerEvent) (location : Nat) (entries : List Entry) : Prop :=
  ∃ early visibility isPopupVisible late,
    events = early ++ .deliver visibility location (.completions entries) isPopupVisible :: late ∧
    (∀ seen, seen <+: late → (empty.attend (early ++ .deliver visibility location
      (.completions entries) isPopupVisible :: seen)).lastRequest = some location) ∧
    ∀ visibility entries isPopupVisible,
      .deliver visibility location (.completions entries) isPopupVisible ∉ late

/-- An event that is no list for the place does not change what has arrived, as long as the marker
stays there. -/
theorem HasArrived.append {events : List ListenerEvent} {entries : List Entry}
    (h : HasArrived events location entries)
    (hlast : (empty.attend (events ++ [e])).lastRequest = some location)
    (he : ∀ visibility entries isPopupVisible,
      e ≠ .deliver visibility location (.completions entries) isPopupVisible) :
    HasArrived (events ++ [e]) location entries := by
  obtain ⟨early, visibility, isPopupVisible, late, rfl, hstays, hnot⟩ := h
  refine ⟨early, visibility, isPopupVisible, late ++ [e], by simp, fun seen hseen ↦ ?_, ?_⟩
  · obtain rfl | hseen := List.prefix_concat_iff.mp hseen
    · simpa using hlast
    · exact hstays seen hseen
  · intro visibility entries isPopupVisible hmem
    obtain hmem | hmem := List.mem_append.mp hmem
    · exact hnot _ _ _ hmem
    · exact he _ _ _ (List.mem_singleton.mp hmem).symm

/-- The list at hand for the place of the marker has arrived since the marker was set. -/
theorem hasArrived_attend (events : List ListenerEvent) {location : Nat}
    (hlast : (empty.attend events).lastRequest = some location)
    (hdelivered : (empty.attend events).deliveredAt = some location) :
    HasArrived events location (empty.attend events).current := by
  induction events using List.reverseRecOn with
  | nil => cases hlast
  | append_singleton events e ih =>
    have hlast' := hlast
    rw [attend_append, attend_cons] at hlast hdelivered ⊢
    generalize hs : empty.attend events = s at *
    cases e with
    | query settings view locations =>
      change (s.query settings view locations).state.lastRequest = _ at hlast
      change (s.query settings view locations).state.deliveredAt = _ at hdelivered
      change HasArrived _ _ (s.query settings view locations).state.current
      have hqueried := s.queried settings view locations
      generalize s.query settings view locations = outcome at *
      cases hqueried with
      | declined => exact (ih hlast hdelivered).append hlast' nofun
      | waiting => exact (ih hlast hdelivered).append hlast' nofun
      | served => cases hlast
      | ended => cases hlast
      | begun place rest =>
        obtain rfl := Option.some.inj hlast
        exact absurd hdelivered (s.markRequested_deliveredAt place)
    | deliver visibility place answer isPopupVisible =>
      change (s.receive visibility place answer isPopupVisible).2.lastRequest = _ at hlast
      change (s.receive visibility place answer isPopupVisible).2.deliveredAt = _ at hdelivered
      change HasArrived _ _ (s.receive visibility place answer isPopupVisible).2.current
      obtain ⟨entries, rfl, hplace, heq⟩ | ⟨hnot, heq⟩ :=
        s.receive_eq visibility place answer isPopupVisible
      · rw [heq] at hlast ⊢
        obtain rfl := Option.some.inj (hplace.symm.trans hlast)
        refine ⟨events, visibility, isPopupVisible, [], rfl, fun seen hseen ↦ ?_, nofun⟩
        rw [List.prefix_nil.mp hseen]
        exact hlast'
      · rw [heq] at hlast hdelivered ⊢
        refine (ih hlast hdelivered).append hlast' fun _ _ _ hsame ↦ ?_
        cases hsame
        exact hnot ⟨hlast, _, rfl⟩

/-! ## What an event asks -/

/-- What the requests are that the events of a run make. -/
def asks (s : CompletionState) (requester : InstanceId) : List ListenerEvent → List Ask
  | [] => []
  | e :: rest => (s.asked requester e).toList ++ (s.handle e).asks requester rest

theorem asks_append_single (s : CompletionState) (requester : InstanceId)
    (events : List ListenerEvent) (e : ListenerEvent) :
    s.asks requester (events ++ [e]) =
      s.asks requester events ++ ((s.attend events).asked requester e).toList := by
  induction events generalizing s with
  | nil => rw [List.nil_append, asks, asks, asks, List.append_nil, List.nil_append]; rfl
  | cons first rest ih =>
    rw [List.cons_append, asks, asks, ih, List.append_assoc]
    rfl

/-- What an event does after a history, and what it asks. -/
structure Prompts (requester : InstanceId) (events : List ListenerEvent) (e : ListenerEvent) :
    Prop where
  /-- It takes a query for the place to set the marker. The query makes a request for the place,
  unless the view has no window. -/
  starts : ∀ location, (empty.attend events).Starts e location →
    ∃ settings view rest, e = .query settings view (location :: rest) ∧
      ((empty.attend events).query settings view (location :: rest)).response = .pending ∧
      (view.window = none → (empty.attend events).asked requester e = none) ∧
      ∀ window, view.window = some window → (empty.attend events).asked requester e =
        some ⟨window, requester, view.vars, ⟨view.file, view.text, (view.lineAndColumn location).1,
          (view.lineAndColumn location).2, .autocomplete settings.fuzzy⟩⟩
  /-- It takes a query for the place to clear the marker. The query comes to the list that has
  arrived for the place, and asks nothing. -/
  consumes : ∀ location, (empty.attend events).Consumes e location →
    ∃ settings view rest entries, e = .query settings view (location :: rest) ∧
      HasArrived events location entries ∧
      ((empty.attend events).query settings view (location :: rest)).response =
        (if entries = [] then .decline else .completions entries) ∧
      (empty.attend events).asked requester e = none
  /-- Any other query does nothing. -/
  otherwise : ∀ settings view locations, e = .query settings view locations →
    (∀ location, ¬(empty.attend events).Starts e location ∧
      ¬(empty.attend events).Consumes e location) →
    (empty.attend events).asked requester e = none ∧
      (empty.attend events).handle e = empty.attend events

theorem prompts_deliver (requester : InstanceId) (events : List ListenerEvent)
    (visibility : Visibility) (place : Nat) (answer : Answer) (isPopupVisible : Bool) :
    Prompts requester events (.deliver visibility place answer isPopupVisible) := by
  have hkept : ((empty.attend events).handle
      (.deliver visibility place answer isPopupVisible)).lastRequest =
        (empty.attend events).lastRequest :=
    receive_lastRequest _ visibility place answer isPopupVisible
  refine ⟨fun location h ↦ ?_, fun location h ↦ ?_, fun _ _ _ h ↦ by cases h⟩
  · exact absurd (hkept.symm.trans h.2) h.1
  · have hnone := hkept.symm.trans h.2
    rw [h.1] at hnone
    cases hnone

theorem prompts_query (requester : InstanceId) (events : List ListenerEvent)
    (settings : Settings) (view : View) (locations : List Nat) :
    Prompts requester events (.query settings view locations) := by
  have harrived (location : Nat) := @hasArrived_attend events location
  generalize hs : empty.attend events = s at harrived
  have hqueried := s.queried settings view locations
  generalize houtcome : s.query settings view locations = outcome at hqueried
  have hhandle := handle_query houtcome
  have hasked := asked_query houtcome requester
  refine ⟨?_, ?_, ?_⟩ <;> rw [hs]
  · rintro location ⟨hbefore, hafter⟩
    rw [hhandle] at hafter
    cases hqueried with
    | declined => exact absurd hafter hbefore
    | waiting => exact absurd hafter hbefore
    | served => cases hafter
    | ended => cases hafter
    | begun place rest =>
      obtain rfl := Option.some.inj hafter
      refine ⟨settings, view, rest, rfl, congrArg QueryOutcome.response houtcome, ?_, ?_⟩
      · intro hwindow
        rw [hasked, Option.bind_some, Ask.ofView?, hwindow]
        rfl
      · intro window hwindow
        rw [hasked, Option.bind_some, Ask.ofView?, hwindow]
        rfl
  · rintro location ⟨hbefore, hafter⟩
    rw [hhandle] at hafter
    cases hqueried with
    | declined => cases hbefore.symm.trans hafter
    | waiting => cases hbefore.symm.trans hafter
    | begun => cases hafter
    | served place rest hlast hdelivered hcurrent =>
      obtain rfl := Option.some.inj (hbefore.symm.trans hlast)
      refine ⟨settings, view, rest, s.current, rfl, harrived _ hlast hdelivered, ?_, hasked⟩
      rw [houtcome, if_neg hcurrent]
    | ended place rest hlast hdelivered hcurrent =>
      obtain rfl := Option.some.inj (hbefore.symm.trans hlast)
      refine ⟨settings, view, rest, s.current, rfl, harrived _ hlast hdelivered, ?_, hasked⟩
      rw [houtcome, if_pos hcurrent]
  · intro _ _ _ _ hneither
    rw [hasked, hhandle]
    cases hqueried with
    | declined => exact ⟨rfl, rfl⟩
    | waiting => exact ⟨rfl, rfl⟩
    | begun place rest hlast => exact absurd ⟨hlast, by rw [hhandle]; rfl⟩ (hneither place).1
    | served place rest hlast => exact absurd ⟨hlast, by rw [hhandle]⟩ (hneither place).2
    | ended place rest hlast => exact absurd ⟨hlast, by rw [hhandle]⟩ (hneither place).2

theorem prompts (requester : InstanceId) (events : List ListenerEvent) (e : ListenerEvent) :
    Prompts requester events e := by
  cases e with
  | query settings view locations => exact prompts_query requester events settings view locations
  | deliver visibility place answer isPopupVisible =>
    exact prompts_deliver requester events visibility place answer isPopupVisible

end CompletionState

/-! ## The listener in the pipeline -/

namespace Listening

variable {analyzer : Analyzer}

/-- A listener goes through an event, and makes the requests that are asked there. -/
structure Handles (s t : Listening) (e : ListenerEvent) : Prop where
  requester : t.requester = s.requester
  state : t.state = s.state.handle e
  issued : t.issued.map (·.ask) = s.issued.map (·.ask) ++ (s.state.asked s.requester e).toList

/-- A listener takes no part. -/
structure Rests (s t : Listening) : Prop where
  requester : t.requester = s.requester
  state : t.state = s.state
  issued : t.issued = s.issued

theorem query_handles (s : Listening) (now : Nat) (view : View) (locations : List Nat) :
    s.Handles (s.query now view locations)
      (.query s.pipeline.store.current view locations) := by
  rw [query]
  generalize houtcome : s.state.query s.pipeline.store.current view locations = outcome
  have hhandle := CompletionState.handle_query houtcome
  have hasked := CompletionState.asked_query houtcome s.requester
  cases hrequest : outcome.request with
  | none =>
    refine ⟨rfl, hhandle.symm, ?_⟩
    rw [hasked, hrequest, Option.bind_none, Option.toList_none, List.append_nil]
  | some location =>
    rw [hrequest, Option.bind_some] at hasked
    dsimp only
    rw [request]
    cases hask : Ask.ofView? view s.requester (some location)
        (.autocomplete s.pipeline.store.current.fuzzy) with
    | none =>
      refine ⟨rfl, hhandle.symm, ?_⟩
      rw [hasked, hask, Option.toList_none, List.append_nil]
    | some ask =>
      refine ⟨rfl, hhandle.symm, ?_⟩
      rw [hasked, hask, Option.toList_some]
      exact List.map_append

theorem step_handles (s : Listening) (move : ListeningMove analyzer) :
    (∃ e, s.Handles (s.step move) e) ∨ s.Rests (s.step move) := by
  cases move with
  | query now view locations => exact .inl ⟨_, s.query_handles now view locations⟩
  | take inbox isPopupVisible =>
    rw [step, take, Pipeline.take?]
    cases s.pipeline.router.take? inbox with
    | none => exact .inr ⟨rfl, rfl, rfl⟩
    | some found =>
      obtain ⟨⟨receiver, answer⟩, router⟩ := found
      cases receiver with
      | listener number location =>
        exact .inl ⟨.deliver s.pipeline.store.current.visibility location answer isPopupVisible,
          rfl, rfl, (List.append_nil _).symm⟩
      | other => exact .inr ⟨rfl, rfl, rfl⟩
  | ask now ask => exact .inr ⟨rfl, rfl, rfl⟩
  | wake now ticket =>
    rw [step, wake]
    split <;> exact .inr ⟨rfl, rfl, rfl⟩
  | submit index =>
    rw [step, submit]
    split
    · exact .inr ⟨rfl, rfl, rfl⟩
    · split <;> exact .inr ⟨rfl, rfl, rfl⟩
  | poll id => exact .inr ⟨rfl, rfl, rfl⟩
  | begin id =>
    rw [step, begin]
    split <;> exact .inr ⟨rfl, rfl, rfl⟩
  | act index =>
    rw [step, act]
    split
    · split <;> exact .inr ⟨rfl, rfl, rfl⟩
    · exact .inr ⟨rfl, rfl, rfl⟩
  | reply index replies =>
    rw [step, reply]
    split
    · split <;> exact .inr ⟨rfl, rfl, rfl⟩
    · exact .inr ⟨rfl, rfl, rfl⟩
  | finish index =>
    rw [step, finish]
    split <;> exact .inr ⟨rfl, rfl, rfl⟩
  | drop inbox => exact .inr ⟨rfl, rfl, rfl⟩
  | shutdownRequests => exact .inr ⟨rfl, rfl, rfl⟩
  | shutdown =>
    rw [step, shutdown]
    split <;> exact .inr ⟨rfl, rfl, rfl⟩
  | interfere interference => exact .inr ⟨rfl, rfl, rfl⟩

/-- Whatever happens in the pipeline, the listener goes through a run of its own, and makes the
requests that are asked in it. -/
theorem exists_attend (settings : Settings) (hasLog : Bool) (requester : InstanceId)
    (moves : List (ListeningMove analyzer)) :
    ∃ events, ((start settings hasLog requester).run moves).requester = requester ∧
      ((start settings hasLog requester).run moves).state = CompletionState.empty.attend events ∧
      ((start settings hasLog requester).run moves).issued.map (·.ask) =
        CompletionState.empty.asks requester events := by
  induction moves using List.reverseRecOn with
  | nil => exact ⟨[], rfl, rfl, rfl⟩
  | append_singleton moves move ih =>
    obtain ⟨events, hrequester, hstate, hissued⟩ := ih
    rw [run, List.foldl_append]
    change ∃ events, (((start settings hasLog requester).run moves).step move).requester = _ ∧
      (((start settings hasLog requester).run moves).step move).state = _ ∧
      (((start settings hasLog requester).run moves).step move).issued.map _ = _
    generalize (start settings hasLog requester).run moves = s at *
    obtain ⟨e, h⟩ | h := s.step_handles move
    · refine ⟨events ++ [e], h.requester.trans hrequester, ?_, ?_⟩
      · rw [h.state, hstate, CompletionState.attend_append]
        rfl
      · rw [h.issued, hissued, hstate, hrequester, CompletionState.asks_append_single]
    · exact ⟨events, h.requester.trans hrequester, h.state.trans hstate, h.issued ▸ hissued⟩

end Listening

/-! ## The whole of it -/

/-- **Nothing is requested twice.** Between two events that set the marker at the same place there
is one that sets it at another place, or one that clears it. The marker is only set by queries that
make a request, unless their view has no window, and only cleared by queries that come to a list
which has arrived since. All other queries ask nothing and change nothing. This is so for any
queries and any answers, and in every run of the pipeline the listener goes through such a run and
makes the requests that are asked there. -/
theorem CompletionState.attend_neverRepeats (requester : InstanceId) :
    (∀ (before middle : List ListenerEvent) (first second : ListenerEvent) (location : Nat),
      (empty.attend before).Starts first location →
      (empty.attend (before ++ first :: middle)).Starts second location →
      ∃ early e late, middle = early ++ e :: late ∧
        ((∃ other, other ≠ location ∧
            (empty.attend (before ++ first :: early)).Starts e other) ∨
          (empty.attend (before ++ first :: early)).Consumes e location)) ∧
    (∀ events e, Prompts requester events e) ∧
    ∀ (analyzer : Analyzer) (settings : Settings) (hasLog : Bool)
      (moves : List (ListeningMove analyzer)), ∃ events,
      ((Listening.start settings hasLog requester).run moves).state = empty.attend events ∧
        ((Listening.start settings hasLog requester).run moves).issued.map (·.ask) =
          empty.asks requester events := by
  refine ⟨fun before middle first second location hfirst hsecond ↦ ?_, prompts requester, ?_⟩
  · have hattend (events : List ListenerEvent) : empty.attend (before ++ first :: events) =
        ((empty.attend before).handle first).attend events := by
      rw [attend_append, attend_cons]
    simp only [hattend] at hsecond ⊢
    exact exists_moves hfirst.2 hsecond.1
  · intro analyzer settings hasLog moves
    obtain ⟨events, -, h⟩ := Listening.exists_attend settings hasLog requester moves
    exact ⟨events, h⟩

def ListenerEvent.atStart : ListenerEvent :=
  .query .default { View.plain with window := some ⟨1⟩ } [0]

/-- A list for this place arrives, and a query comes to it. -/
def ListenerEvent.takingList : List ListenerEvent :=
  [.deliver .default 0 (.completions [⟨"a\tmodule", "a"⟩]) false, atStart]

/-- When its list has been taken a place is requested again. -/
theorem CompletionState.attend_requestsAgain :
    (empty.attend []).Starts .atStart 0 ∧
      (empty.attend (.atStart :: ListenerEvent.takingList)).Starts .atStart 0 ∧
      ∃ early e late, ListenerEvent.takingList = early ++ e :: late ∧
        ((∃ other, other ≠ 0 ∧ (empty.attend (.atStart :: early)).Starts e other) ∨
          (empty.attend (.atStart :: early)).Consumes e 0) := by
  have hfirst : (empty.attend []).Starts .atStart 0 := ⟨by decide, by decide⟩
  have hsecond : (empty.attend (.atStart :: ListenerEvent.takingList)).Starts .atStart 0 :=
    ⟨by decide, by decide⟩
  exact ⟨hfirst, hsecond, (attend_neverRepeats ⟨0⟩).1 [] _ .atStart .atStart 0 hfirst hsecond⟩

end CodeHints
