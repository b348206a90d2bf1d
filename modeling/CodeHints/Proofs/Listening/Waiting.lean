import CodeHints.Proofs.Listening.Moves
import CodeHints.Proofs.Listening.Queries

/-!
# What the listener tells the editor

The listener has two things to say about a place: that a list will follow, and the list. Both are
only as good as its bookkeeping, which knows for which place a request was made last, but not which
request it was, nor what has become of it.

* A list is the answer to a request for the right place, but not always to the last one. If the
  editor leaves a place and comes back to it, an answer that is still on its way from the first
  visit passes for the answer to the second (`served_answers_awaited`).
* The listener goes on waiting until a list arrives. If every request that it has awaited is lost,
  it waits forever (`pending_outstanding_iff`).

Both come from `Sound.run`, for which the two moves are left that change the bookkeeping.
-/

namespace CodeHints

/-! ## Queries -/

theorem Ask.request_ofView? {view : View} {requester : InstanceId} {location : Option Nat}
    {request : Request} {ask : Ask} (h : Ask.ofView? view requester location request = some ask) :
    ask.context.request = request := by
  rw [ofView?] at h
  obtain ⟨window, -, h⟩ := Option.bind_eq_some_iff.mp h
  obtain ⟨place, -, h⟩ := Option.bind_eq_some_iff.mp h
  rw [← Option.some.inj h]

namespace Listening

variable {analyzer : Analyzer} {s t : Listening}

theorem Tracked.request (h : s.Tracked analyzer) (now : Nat) (view : View) (location : Nat) :
    (s.request now view location).Tracked analyzer := by
  rw [Listening.request]
  split
  · next ask hask => exact h.issue now location (Ask.request_ofView? hask)
  · exact h

private theorem Tracked.withState (h : s.Tracked analyzer) (state : CompletionState)
    (awaited : List Nat) : Tracked analyzer { s with state := state, awaited := awaited } :=
  ⟨h.unique, h.orderly, h.jobs, h.numbers, h.faithful, h.genuine, h.autocomplete⟩

/-- The listener begins to wait at a place for everything that is outstanding there. -/
private theorem Tracked.begin (h : s.Tracked analyzer) {location : Nat}
    (hlast : s.state.lastRequest = some location)
    (hdelivered : s.state.deliveredAt ≠ some location) :
    Sound analyzer { s with awaited := s.outstandingAt location } := by
  refine ⟨h.withState s.state _, fun place hplace ↦ ?_⟩
  obtain rfl := Option.some.inj (hlast.symm.trans hplace)
  refine ⟨fun number hmem ↦ hmem, fun number hmem ↦ ?_, fun _ number hmem ↦ ?_, fun hsame ↦ ?_⟩
  · exact h.issued_of_outstanding (mem_outstandingAt.mp hmem)
  · exact h.not_ended (mem_outstandingAt.mp hmem) .received
  · exact absurd hsame hdelivered

theorem Sound.query (h : s.Sound analyzer) (now : Nat) (view : View) (locations : List Nat) :
    (s.query now view locations).Sound analyzer := by
  rw [Listening.query]
  have hqueried := s.state.queried s.pipeline.store.current view locations
  generalize s.state.query s.pipeline.store.current view locations = outcome at hqueried
  have hover : Sound analyzer { s with state := { s.state with lastRequest := none } } :=
    ⟨h.toTracked.withState _ s.awaited, fun _ hlast ↦ by cases hlast⟩
  cases hqueried with
  | declined => exact h
  | waiting => exact h
  | served => exact hover
  | ended => exact hover
  | begun location rest hlast =>
    have hmarked := (h.toTracked.withState (s.state.markRequested location) s.awaited).request now
      view location
    have hstate : (Listening.request { s with state := s.state.markRequested location } now view
        location).state = s.state.markRequested location := by
      rw [Listening.request]
      split <;> rfl
    refine hmarked.begin ?_ ?_
    · rw [hstate]
      rfl
    · rw [hstate]
      exact s.state.markRequested_deliveredAt location

/-! ## Answers that arrive -/

/-- An answer is taken out of an inbox. -/
private theorem flow_take {inbox : InboxId} {delivery : Delivery Recipient}
    {router : Router (Delivery Recipient)} (h : s.Sound analyzer)
    (htake : s.pipeline.router.take? inbox = some (delivery, router)) :
    Flow analyzer s (conclude { s with pipeline := { s.pipeline with router := router } } .received
      [delivery.receiver]) .received [delivery.receiver] := by
  have hintact : Intact analyzer s { s with pipeline := { s.pipeline with router := router } } :=
    ⟨h.unique, h.orderly, h.jobs, rfl, rfl, rfl, rfl⟩
  exact hintact.flow .received [] [delivery] (.refl _) (Router.waiting_take? htake)

private theorem WaitsAt.receive {number place location : Nat} {ask : Ask} {entries : List Entry}
    {visibility : Visibility} {isPopupVisible : Bool}
    (hwaits : s.WaitsAt analyzer location) (hlast : s.state.lastRequest = some location)
    (hflow : Flow analyzer s t .received [.listener number place])
    (hnumber : (number, place) ∈ s.outstanding)
    (hissued : s.issued[number]? = some ⟨place, ask⟩)
    (hanswer : IsAnswer analyzer ask.context (.completions entries))
    (hstate : t.state =
      (s.state.receive visibility place (.completions entries) isPopupVisible).2)
    (hawaited : t.awaited = s.awaited) : t.WaitsAt analyzer location := by
  -- nothing new is outstanding, and nothing is forgotten
  have houtstanding : ∀ other ∈ t.outstandingAt location, other ∈ t.awaited := by
    rw [hawaited]
    exact fun other hmem ↦ hwaits.outstanding other (hflow.outstandingAt hmem)
  have hplace : ∀ other ∈ t.awaited, ∃ ask, t.issued[other]? = some ⟨location, ask⟩ := by
    rw [hawaited, hflow.issued]
    exact hwaits.place
  by_cases hsame : location = place
  · subst hsame
    have hexpects : s.state.expects location = true := decide_eq_true hlast
    have htaken : t.state.deliveredAt = some location ∧ t.state.current = entries := by
      rw [hstate, CompletionState.receive, hexpects]
      exact ⟨rfl, rfl⟩
    refine ⟨houtstanding, hplace, fun hdelivered ↦ absurd htaken.1 hdelivered, fun _ ↦ ?_⟩
    refine ⟨number, ?_, ask, ?_, ?_⟩
    · rw [hawaited]
      exact hwaits.outstanding number (mem_outstandingAt.mpr hnumber)
    · rw [hflow.issued]
      exact hissued
    · rw [htaken.2]
      exact hanswer
  · -- the answer is for another place. It is dropped, and it was not awaited here
    have hexpects : s.state.expects place = false := by
      rw [CompletionState.expects, hlast]
      simpa using hsame
    have hkept : t.state = s.state := by
      rw [hstate, CompletionState.receive, hexpects]
      rfl
    refine ⟨houtstanding, hplace, ?_, ?_⟩
    · rw [hkept, hawaited]
      intro hdelivered other hmem hended
      rw [hflow.ended] at hended
      obtain hold | hnew := List.mem_append.mp hended
      · exact hwaits.unreceived hdelivered other hmem hold
      · obtain ⟨rfl, -⟩ := Prod.mk.inj (List.mem_singleton.mp hnew)
        obtain ⟨ask', hother⟩ := hwaits.place _ hmem
        exact hsame (Issue.mk.inj (Option.some.inj (hother.symm.trans hissued))).1
    · rw [hkept, hawaited, hflow.issued]
      exact hwaits.served

theorem Sound.take (h : s.Sound analyzer) (inbox : InboxId) (isPopupVisible : Bool) :
    (s.take inbox isPopupVisible).Sound analyzer := by
  rw [Listening.take, Pipeline.take?]
  cases htake : s.pipeline.router.take? inbox with
  | none => exact h
  | some x =>
    obtain ⟨⟨receiver, answer⟩, router⟩ := x
    have hflow := flow_take h htake
    have hmem : ⟨receiver, answer⟩ ∈ s.deliveries :=
      (Router.waiting_take? htake).mem_iff.mpr List.mem_cons_self
    cases receiver with
    | other =>
      have hother : Flow analyzer s { s with pipeline := { s.pipeline with router := router } }
          .dropped [] := ⟨hflow.unique, hflow.orderly, hflow.jobs, rfl,
        (List.append_nil _).symm, hflow.outstanding, hflow.inquiries, hflow.deliveries⟩
      exact h.flow hother rfl rfl (by decide)
    | listener number place =>
      obtain ⟨ask, hissued, hanswer⟩ := h.genuine _ hmem number place rfl
      obtain ⟨fuzzy, hrequest⟩ := h.autocomplete _ (List.mem_of_getElem? hissued)
      obtain ⟨entries, rfl⟩ := hanswer.of_autocomplete hrequest
      have hnumber : (number, place) ∈ s.outstanding := mem_outstanding.mpr
        (List.mem_append_right _ (List.mem_map.mpr ⟨_, hmem, rfl⟩))
      refine ⟨(h.toTracked.flow hflow).withState _ s.awaited, fun location hlast ↦ ?_⟩
      -- to receive an answer does not change what the listener waits for
      have hlast' : s.state.lastRequest = some location :=
        (s.state.receive_lastRequest _ place (.completions entries) isPopupVisible).symm.trans hlast
      exact (h.waits location hlast').receive hlast'
        ⟨hflow.unique, hflow.orderly, hflow.jobs, rfl, rfl, hflow.outstanding, hflow.inquiries,
          hflow.deliveries⟩ hnumber hissued hanswer rfl rfl

/-! ## Runs -/

theorem sound_start (settings : Settings) (hasLog : Bool) (requester : InstanceId) :
    (start settings hasLog requester).Sound analyzer := by
  refine ⟨⟨Debouncer.unique_empty, WorkerPool.orderly_empty, ?_, .refl _, ?_, ?_, ?_⟩, ?_⟩
  · rintro _ ⟨⟩
  · rintro _ ⟨⟩
  · rintro _ ⟨⟩
  · rintro _ ⟨⟩
  · rintro _ ⟨⟩

theorem Sound.step (h : s.Sound analyzer) (move : ListeningMove analyzer) :
    (s.step move).Sound analyzer := by
  cases move with
  | query now view locations => exact h.query now view locations
  | ask now ask => exact h.ask now ask
  | wake now ticket => exact h.wake now ticket
  | submit index => exact h.submit index
  | poll id => exact h.poll id
  | begin id => exact h.begin id
  | act index => exact h.act index
  | reply index replies => exact h.reply index replies
  | finish index => exact h.finish index
  | take inbox isPopupVisible => exact h.take inbox isPopupVisible
  | drop inbox => exact h.drop inbox
  | shutdownRequests => exact h.shutdownRequests
  | shutdown => exact h.shutdown
  | interfere interference => exact h.interfere (interference.calm s.pipeline)

theorem Sound.run (h : s.Sound analyzer) (moves : List (ListeningMove analyzer)) :
    (s.run moves).Sound analyzer := by
  induction moves generalizing s with
  | nil => exact h
  | cons move rest ih => exact ih (h.step move)

/-! ## Lists -/

/-- **A list answers a request that was awaited.** Whenever a query is given a list, the list is an
answer to a request that the listener has made for the same place, with the text, line and column
that it had when it was made. The request was outstanding right after the query that began the wait,
so it is the one made by that query, or an earlier one that had not ended by then. -/
theorem served_answers_awaited (settings : Settings) (hasLog : Bool) (requester : InstanceId)
    (moves : List (ListeningMove analyzer)) (hs : s = (start settings hasLog requester).run moves)
    (view : View) (locations : List Nat) (entries : List Entry)
    (hserved : s.response view locations = .completions entries) :
    ∃ location rest, locations = location :: rest ∧ ∃ number ∈ s.awaited, ∃ ask,
      s.issued[number]? = some ⟨location, ask⟩ ∧
        IsAnswer analyzer ask.context (.completions entries) := by
  have hsound : s.Sound analyzer := hs ▸ (sound_start settings hasLog requester).run moves
  have hqueried := s.state.queried s.pipeline.store.current view locations
  rw [response] at hserved
  generalize s.state.query s.pipeline.store.current view locations = outcome at hqueried hserved
  cases hqueried with
  | declined => cases hserved
  | waiting => cases hserved
  | ended => cases hserved
  | begun => cases hserved
  | served location rest hlast hdelivered =>
    obtain rfl := QueryResponse.completions.inj hserved
    exact ⟨location, rest, rfl, (hsound.waits location hlast).served hdelivered⟩

/-! ### A place that is left and visited again -/

/-- Replies to everything; what is completed is the text itself. -/
private def echoReply : (question : EngineCall) → question.Reply
  | .defaultEnvironment => .value ⟨"/usr/bin/python3", []⟩
  | .createEnvironment path => .value ⟨path, []⟩
  | .analyze _ => .value ()
  | .callSignatures _ => .value []
  | .completions script _ => .value [⟨script.source, "module"⟩]

private def viewOf (text : String) : View := { View.plain with window := some ⟨1⟩, text := text }

/-- The listener makes its first request, and the request is submitted and begins. -/
private def firstRequest (analyzer : Analyzer) : List (ListeningMove analyzer) :=
  [.interfere (.attach ⟨1⟩), .query 0 (viewOf "a") [0],
    .wake 10 ⟨⟨⟨0⟩, .autocomplete⟩, 1, 10⟩, .submit 0, .poll ⟨0⟩, .begin ⟨0⟩]

/-- The first request has been answered. -/
private def firstAnswer : List (ListeningMove (.fixed echoReply)) :=
  have reply := .reply 0 (Analyzer.fixedReplies echoReply)
  firstRequest _ ++ [.act 0, .act 0, reply, .act 0, reply, reply, reply, .act 0, .finish 0]

def answered : Listening :=
  (start .default false ⟨0⟩).run (firstAnswer ++ [.take ⟨0⟩ false])

theorem answered_served_awaited :
    answered.response (viewOf "a") [0] = .completions [⟨"a\tmodule", "a"⟩] ∧
      ∃ location rest, [0] = location :: rest ∧ ∃ number ∈ answered.awaited, ∃ ask,
        answered.issued[number]? = some ⟨location, ask⟩ ∧
          IsAnswer (.fixed echoReply) ask.context (.completions [⟨"a\tmodule", "a"⟩]) := by
  have hserved : answered.response (viewOf "a") [0] = .completions [⟨"a\tmodule", "a"⟩] := rfl
  have hrun : answered =
    (start .default false ⟨0⟩).run (firstAnswer ++ [.take ⟨0⟩ false]) := rfl
  exact ⟨hserved, served_answers_awaited .default false ⟨0⟩ _ hrun (viewOf "a") [0] _ hserved⟩

/-- The editor has left the place of the first request and has come back to it, with another text,
before the answer was taken out of the inbox. -/
def revisited : Listening :=
  (start .default false ⟨0⟩).run (firstAnswer ++
    [.query 20 (viewOf "a") [1], .query 20 (viewOf "b") [0], .take ⟨0⟩ false])

private theorem isAnswer_echo {context : RequestContext} {answer : Answer} (fuzzy : Bool)
    (hrequest : context.request = .autocomplete fuzzy)
    (h : IsAnswer (.fixed echoReply) context answer) :
    answer = .completions [⟨context.source ++ "\t" ++ "module", context.source⟩] := by
  obtain ⟨env, hyields⟩ := h
  have halways : (execute Resumption.engine env context : Resumption (Pipeline Recipient) _).Always
      (.fixed echoReply) (fun _ ↦ True) fun outcome ↦
        outcome = some (.completions [⟨context.source ++ "\t" ++ "module", context.source⟩]) := by
    unfold execute CodeHints.ask Outcome.andThen
    rintro _ rfl _ rfl
    simp only [echoReply, hrequest]
    rintro _ rfl
    rfl
  exact Option.some.inj (halways.of_yields hyields)

/-- **The list need not answer the last request.** The list is that of the first visit, although the
last request was made for the text of the second one, to which it is no answer. -/
theorem revisited_served_other :
    revisited.response (viewOf "b") [0] = .completions [⟨"a\tmodule", "a"⟩] ∧
      ∃ last, revisited.issued.getLast? = some last ∧ last.location = 0 ∧
        last.ask.context.source = "b" ∧
        ¬ IsAnswer (.fixed echoReply) last.ask.context (.completions [⟨"a\tmodule", "a"⟩]) := by
  refine ⟨rfl, ⟨0, ⟨⟨1⟩, ⟨0⟩, .empty, ⟨none, "b", 0, 0, .autocomplete false⟩⟩⟩, rfl, rfl, rfl, ?_⟩
  intro hanswer
  have hother := isAnswer_echo false rfl hanswer
  revert hother
  decide

/-! ## Waiting -/

/-- The listener waits after a query that it has replied to in this way. -/
private theorem waits_of_pending {view : View} {locations : List Nat} (now : Nat)
    (hpending : s.response view locations = .pending) :
    ∃ location rest, locations = location :: rest ∧
      (s.query now view locations).state.lastRequest = some location ∧
      (s.query now view locations).state.deliveredAt ≠ some location := by
  have hqueried := s.state.queried s.pipeline.store.current view locations
  rw [response] at hpending
  rw [Listening.query]
  generalize s.state.query s.pipeline.store.current view locations = outcome at hqueried hpending
  cases hqueried with
  | declined => cases hpending
  | served => cases hpending
  | ended => cases hpending
  | waiting location rest hlast hdelivered => exact ⟨location, rest, rfl, hlast, hdelivered⟩
  | begun location rest hlast =>
    have hstate : (Listening.request { s with state := s.state.markRequested location } now view
        location).state = s.state.markRequested location := by
      rw [Listening.request]
      split <;> rfl
    refine ⟨location, rest, rfl, ?_, ?_⟩
    · exact congrArg CompletionState.lastRequest hstate
    · change (Listening.request _ now view location).state.deliveredAt ≠ _
      rw [hstate]
      exact s.state.markRequested_deliveredAt location

/-- **What it takes for a wait to be worth it.** Whenever the listener replies that a list will
follow, a request for the place is outstanding exactly if not all that were awaited there are lost.
A request is lost if another one has taken its place, if its timer was taken back, if its worker
took no more jobs or has dropped it, if its job has ended without an answer, or if the answer found
no inbox or was in one that was given up. -/
theorem pending_outstanding_iff (settings : Settings) (hasLog : Bool) (requester : InstanceId)
    (moves : List (ListeningMove analyzer)) (hs : s = (start settings hasLog requester).run moves)
    (now : Nat) (view : View) (locations : List Nat)
    (hpending : s.response view locations = .pending)
    (ht : t = s.query now view locations) :
    ∃ location rest, locations = location :: rest ∧
      (t.outstandingAt location ≠ [] ↔
        ∃ number ∈ t.awaited, ∀ fate, (number, fate) ∈ t.ended → fate = .received) := by
  have hsound : s.Sound analyzer := hs ▸ (sound_start settings hasLog requester).run moves
  have htsound : t.Sound analyzer := ht ▸ hsound.query now view locations
  obtain ⟨location, rest, hlocations, hlast, hdelivered⟩ := waits_of_pending now hpending
  rw [← ht] at hlast hdelivered
  have hwaits := htsound.waits location hlast
  refine ⟨location, rest, hlocations, ?_⟩
  constructor
  · intro hne
    obtain ⟨number, hmem⟩ := List.exists_mem_of_ne_nil _ hne
    refine ⟨number, hwaits.outstanding number hmem, fun fate hended ↦ ?_⟩
    exact absurd hended (htsound.not_ended (mem_outstandingAt.mp hmem) fate)
  · -- if it were not outstanding it would have ended, and that by being received
    rintro ⟨number, hmem, hkept⟩
    obtain ⟨ask, hissued⟩ := hwaits.place number hmem
    refine List.ne_nil_of_mem (mem_outstandingAt.mpr (htsound.outstanding_of_issued hissued ?_))
    intro fate hended
    obtain rfl := hkept fate hended
    exact hwaits.unreceived hdelivered number hmem hended

theorem pending_first_query_iff :
    (start .default false ⟨0⟩).response (viewOf "a") [0] = .pending ∧
      ∃ location rest, [0] = location :: rest ∧
        (((start .default false ⟨0⟩).query 0 (viewOf "a") [0]).outstandingAt location ≠ [] ↔
          ∃ number ∈ ((start .default false ⟨0⟩).query 0 (viewOf "a") [0]).awaited, ∀ fate,
            (number, fate) ∈ ((start .default false ⟨0⟩).query 0 (viewOf "a") [0]).ended →
              fate = .received) :=
  ⟨rfl, pending_outstanding_iff .default false ⟨0⟩ ([] : List (ListeningMove (.fixed echoReply)))
    rfl 0 (viewOf "a") [0] rfl rfl⟩

/-! ### Waits for nothing -/

/-- No text can be analyzed. -/
private def failingReply : (question : EngineCall) → question.Reply
  | .defaultEnvironment => .value ⟨"/usr/bin/python3", []⟩
  | .createEnvironment path => .value ⟨path, []⟩
  | .analyze _ => .failed (.analysis "syntax error")
  | .callSignatures _ | .completions _ _ => .value []

/-- The job of the first request has ended without an answer. -/
def unanswered : Listening :=
  have reply : ListeningMove (.fixed failingReply) := .reply 0 (Analyzer.fixedReplies failingReply)
  (start .default false ⟨0⟩).run
    (firstRequest _ ++ [.act 0, .act 0, reply, .act 0, reply, .finish 0])

/-- **The listener may wait for nothing.** In a view without a window it says that a list will
follow although no request is made. And when its request has failed it goes on saying so. -/
theorem exists_pending_not_outstanding :
    ((start .default false ⟨0⟩).response View.plain [0] = .pending ∧
      ((start .default false ⟨0⟩).query 0 View.plain [0]).outstandingAt 0 = []) ∧
    (unanswered.response (viewOf "a") [0] = .pending ∧
      (unanswered.query 20 (viewOf "a") [0]).outstandingAt 0 = []) :=
  ⟨⟨rfl, rfl⟩, rfl, rfl⟩

end Listening

end CodeHints
