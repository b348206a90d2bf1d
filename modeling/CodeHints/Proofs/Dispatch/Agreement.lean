import CodeHints.Proofs.Dispatch.Sound
import Mathlib.Data.Nat.Pairing

/-!
# Callbacks get what a direct request would have returned

To make a request with a callback is to do later, on a worker, what `askSync` does at once.
`Agrees` says what can be relied on in every run: the callback is run at most once, and not at all
if the request is withdrawn in time, and it is run with what `askSync` has returned when it was
executed by the job of the request. If there was no answer to return, the callback is never
run, and the other jobs of the worker are served as if nothing had happened.

## What others come to

That the jobs of a worker begin in the order of its line is `Sound.advances_run`. That they do begin
takes a schedule in which all workers have their turns again and again and every job ends. Nothing
is assumed about how it ends, by itself or by a breakdown, and what else happens in between is left
open. An endless run with such a schedule is a `Course` of the workforce that is fair.
-/

namespace CodeHints

namespace Dispatching

variable {s : Dispatching} {n : Nat}

/-! ## Requests that come to nothing -/

/-- A callback is run with what `askSync` has returned, so there is none if it has returned anything
else, or nothing. -/
theorem Sound.not_answered_of_fails (h : s.Sound) (hfails : s.Fails n) : n ∉ s.answered := by
  intro hran
  obtain ⟨x, hx, rfl⟩ := List.mem_map.mp hran
  obtain ⟨-, -, -, -, hreturned, -⟩ := h.ran x hx
  obtain ⟨outcome, houtcome, hne⟩ | ⟨-, hnone⟩ := hfails
  · exact hne x.2.answer (Resumption.done.inj (houtcome.unique hreturned))
  · exact hnone _ hreturned

theorem Sound.hasEnded_step (h : s.Sound) (hended : s.HasEnded n) (move : ActivityMove Nat) :
    (s.step move).HasEnded n := by
  refine ⟨?_, fun e he hjob ↦ ?_⟩
  · rw [Dispatching.started_step, numbers_append]
    exact List.mem_append_left _ hended.1
  cases s.activity.leads_step (s.made move) with
  | begins new herrands hmeets hdelivers htakers hnew =>
    have he : e ∈ s.activity.errands ++ new := herrands ▸ he
    rcases List.mem_append.mp he with hold | he
    · exact hended.2 e hold hjob
    · obtain ⟨⟨id, _⟩, hsome, rfl⟩ := Option.map_eq_some_iff.mp hjob
      have hbegins := Activity.mem_begins_of_starts (hnew e he id _ hsome).1
      exact h.not_started_of_begins hbegins hended.1
  | ends herrands => exact hended.2 e (herrands.subset he) hjob
  | goesOn before e₀ e₁ after herrands herrands' hbegins hgoes =>
    have hnone := hended.2
    have he : e ∈ before ++ e₁ :: after := herrands' ▸ he
    rw [herrands] at hnone
    rw [List.mem_append, List.mem_cons] at he
    rcases he with hbefore | rfl | hafter
    · exact hnone e (List.mem_append_left _ hbefore) hjob
    · exact hnone e₀ (List.mem_append_right _ List.mem_cons_self) (hgoes.job ▸ hjob)
    · exact hnone e (List.mem_append_right _ (List.mem_cons_of_mem _ hafter)) hjob

theorem Sound.fails_step (h : s.Sound) (hfails : s.Fails n) (move : ActivityMove Nat) :
    (s.step move).Fails n := by
  obtain ⟨outcome, houtcome, hne⟩ | ⟨hended, hnone⟩ := hfails
  · exact .inl ⟨outcome, h.returned_step houtcome move, hne⟩
  · refine .inr ⟨h.hasEnded_step hended move, fun outcome hreturned ↦ hnone outcome ?_⟩
    refine hreturned.of_step (met_eq_nil fun x hx hsame ↦ ?_) ?_
    · -- the log tells only of errands that there are, and the job has none left
      obtain ⟨e, he, htaker, -⟩ := exists_of_met hx
      obtain ⟨id, hjob, -⟩ := h.of_taker he htaker
      exact hended.2 e he (by rw [hjob, ← hsame]; rfl)
    · exact h.conserves.lt_of_fired (h.conserves.fired_of_started hended.1)

theorem Sound.fails_run (h : s.Sound) (hfails : s.Fails n) (moves : List (ActivityMove Nat)) :
    (s.run moves).Fails n := by
  induction moves generalizing s with
  | nil => exact hfails
  | cons move moves ih => exact ih (h.step move) (h.fails_step hfails move)

theorem withdrawn_run (s : Dispatching) (moves : List (ActivityMove Nat)) (hn : n ∈ s.withdrawn) :
    n ∈ (s.run moves).withdrawn := by
  induction moves generalizing s with
  | nil => exact hn
  | cons move moves ih => exact ih (s.step move) (List.mem_append_left _ hn)

/-! ## The order of the jobs -/

/-- The jobs that a worker has taken up or not begun, in the order in which they will begin. -/
def line (s : Dispatching) (id : WorkerId) : List (Job (Inquiry Nat)) :=
  (s.activity.workforce.station id).line

/-- The jobs that a worker has begun. -/
def begunAt (s : Dispatching) (id : WorkerId) : List (Job (Inquiry Nat)) :=
  WorkerPool.jobsAt s.begun id

def IsDown (s : Dispatching) (id : WorkerId) : Prop := (s.activity.workforce.station id).IsClosed

theorem begunAt_step (s : Dispatching) (move : ActivityMove Nat) (id : WorkerId) :
    (s.step move).begunAt id = s.begunAt id ++
      WorkerPool.jobsAt (s.activity.workforce.starts (s.made move).turn?) id :=
  WorkerPool.jobsAt_append ..

/-- Unless a worker is shut down, what it begins was at the front of its line. -/
theorem Sound.advances_run (h : s.Sound) (moves : List (ActivityMove Nat)) (id : WorkerId) :
    ∃ new, (s.run moves).begunAt id = s.begunAt id ++ new ∧
      (s.activity.workforce.station id).Advances
        ((s.run moves).activity.workforce.station id) new := by
  induction moves generalizing s with
  | nil => exact ⟨[], (List.append_nil _).symm, .refl _⟩
  | cons move moves ih =>
    obtain ⟨new, hbegun, hadvances⟩ := ih (h.step move)
    have hstep := (h.activity.goes (s.made move)).advances h.activity.workforce id
    refine ⟨_, ?_, hstep.trans hadvances⟩
    rw [run_cons, hbegun, begunAt_step, List.append_assoc]

/-! ## Endless runs -/

/-- The state after so many moves of a schedule. -/
def after (s : Dispatching) (schedule : Nat → ActivityMove Nat) (k : Nat) : Dispatching :=
  s.run ((List.range k).map schedule)

/-- Every worker gets its turns again and again, and every job ends. -/
structure IsFair (schedule : Nat → ActivityMove Nat) : Prop where
  poll : ∀ id n, ∃ k, n ≤ k ∧ schedule k = .poll id
  begin : ∀ id n, ∃ k, n ≤ k ∧ schedule k = .begin id
  finish : ∀ id n, ∃ k, n ≤ k ∧ schedule k = .finish id

theorem after_succ (s : Dispatching) (schedule : Nat → ActivityMove Nat) (k : Nat) :
    s.after schedule (k + 1) = (s.after schedule k).step (schedule k) := by
  rw [after, List.range_succ, List.map_append, run_append]
  rfl

/-- What the workers do in an endless run. -/
def course (h : s.Sound) (schedule : Nat → ActivityMove Nat) : Course Nat where
  state k := (s.after schedule k).activity.workforce
  turn k := ((s.after schedule k).made (schedule k)).turn?
  sound _ := (h.run _).activity.workforce
  goes k := by
    rw [after_succ]
    exact (h.run _).activity.goes _

theorem turn_course (h : s.Sound) (schedule : Nat → ActivityMove Nat) (k : Nat) :
    (course h schedule).turn k = (schedule k).turn? := by
  change ((schedule k).numbered _).turn? = _
  cases schedule k <;> rfl

theorem isFair_course (h : s.Sound) {schedule : Nat → ActivityMove Nat} (hfair : IsFair schedule) :
    (course h schedule).IsFair := by
  have hturn {move : ActivityMove Nat} {n : Nat} (hagain : ∃ k, n ≤ k ∧ schedule k = move) :
      ∃ k, n ≤ k ∧ (course h schedule).turn k = move.turn? := by
    obtain ⟨k, hle, hk⟩ := hagain
    exact ⟨k, hle, (turn_course h schedule k).trans (congrArg _ hk)⟩
  exact ⟨fun id n ↦ hturn (hfair.poll id n), fun id n ↦ hturn (hfair.begin id n),
    fun id n ↦ hturn (hfair.finish id n)⟩

theorem begunAt_after (h : s.Sound) (schedule : Nat → ActivityMove Nat) (k : Nat) (id : WorkerId) :
    (s.after schedule k).begunAt id = s.begunAt id ++ (course h schedule).begun k id := by
  induction k with
  | zero => exact (List.append_nil _).symm
  | succ k ih =>
    rw [after_succ, begunAt_step, ih, Course.begun_succ, List.append_assoc]
    rfl

/-- The turns of all workers, each with a number. -/
def turnAt (m : Nat) : ActivityMove Nat :=
  match m % 3 with
  | 0 => .poll ⟨m / 3⟩
  | 1 => .begin ⟨m / 3⟩
  | _ => .finish ⟨m / 3⟩

theorem turnAt_eq (id : WorkerId) : turnAt (3 * id.index) = .poll id ∧
    turnAt (3 * id.index + 1) = .begin id ∧ turnAt (3 * id.index + 2) = .finish id := by
  have hmod (r : Nat) (hr : r < 3) : (3 * id.index + r) % 3 = r ∧
      (3 * id.index + r) / 3 = id.index := by omega
  refine ⟨?_, ?_, ?_⟩
  · rw [turnAt, ← Nat.add_zero (3 * id.index), (hmod 0 (by omega)).1, (hmod 0 (by omega)).2]
    rfl
  · rw [turnAt, (hmod 1 (by omega)).1, (hmod 1 (by omega)).2]
    rfl
  · rw [turnAt, (hmod 2 (by omega)).1, (hmod 2 (by omega)).2]
    rfl

/-- All workers may have their turns again and again. -/
theorem exists_isFair : ∃ schedule, IsFair schedule := by
  -- the turn at `m` comes at every pair of `m` with a number, so as late as one likes
  have hagain {m : Nat} {move : ActivityMove Nat} (hturn : turnAt m = move) (n : Nat) :
      ∃ k, n ≤ k ∧ turnAt k.unpair.1 = move :=
    ⟨Nat.pair m n, Nat.right_le_pair m n, by rw [Nat.unpair_pair, hturn]⟩
  exact ⟨fun k ↦ turnAt k.unpair.1, fun id n ↦ hagain (turnAt_eq id).1 n,
    fun id n ↦ hagain (turnAt_eq id).2.1 n, fun id n ↦ hagain (turnAt_eq id).2.2 n⟩

/-! ## Agreement -/

/-- What a callback is run with is what a direct request would have returned. -/
structure Agrees (s : Dispatching) : Prop where
  /-- No callback is run twice. -/
  once : s.answered.Nodup
  /-- The callback of a request that was withdrawn before its timer fired is never run. -/
  withdrawn : ∀ n ∈ s.withdrawn, n ∉ s.fired ∧ ∀ more, n ∉ (s.run more).answered
  /-- A callback is run with what `askSync` on the request as it was made has returned to the job of
  the request, with a worker of its window. The answer is of the kind of the request, and is taken
  from an inbox of its window. -/
  answers : ∀ inbox n answer, (inbox, ⟨n, answer⟩) ∈ s.ran → ∃ ask id,
    s.asked[n]? = some ask ∧ (id, .task ⟨ask, n⟩) ∈ s.begun ∧
      s.activity.workforce.Serves id ask.window ∧ s.Returned n (.value (some answer)) ∧
        answer.kind = ask.context.request.kind ∧ s.owners[inbox.index]? = some ask.window
  /-- The callback of a request whose job comes to nothing is never run. -/
  failed : ∀ n, s.Fails n → ∀ more, n ∉ (s.run more).answered
  /-- Unless a worker is shut down, its jobs begin in the order of its line. -/
  inTurn : ∀ id more, ¬ ((s.run more).IsDown id ∧ ¬ s.IsDown id) →
    ∃ new added, (s.run more).begunAt id = s.begunAt id ++ new ∧
      s.line id ++ added = new ++ (s.run more).line id
  /-- Unless a worker is shut down, each of its jobs begins, after all those before it, whatever
  these come to. -/
  goesOn : ∀ schedule, IsFair schedule → ∀ id front job rest,
    s.line id = front ++ job :: rest → ∃ k,
      (s.after schedule k).IsDown id ∧ ¬ s.IsDown id ∨
        ∃ new, (s.after schedule k).begunAt id = s.begunAt id ++ new ∧ front ++ [job] <+: new

theorem Sound.agrees (h : s.Sound) : s.Agrees where
  once := h.conserves.nodup_answered
  withdrawn n hn := by
    refine ⟨(h.withdrawn n hn).2.1, fun more hran ↦ ?_⟩
    have h' := h.run more
    have hstarted := h'.conserves.started_of_answered hran
    exact (h'.withdrawn n (withdrawn_run s more hn)).2.1 (h'.conserves.fired_of_started hstarted)
  answers inbox n answer hran := by
    -- what `askSync` had returned when the answer was delivered, it still has returned
    obtain ⟨ask, id, hask, hbegun, hreturned, howner⟩ := h.ran _ hran
    have hserves := h.served id _ hbegun
    have hkind := hreturned.kind_eq hask
    exact ⟨ask, id, hask, hbegun, hserves, hreturned, hkind, howner⟩
  failed n hfails more := (h.run more).not_answered_of_fails (h.fails_run hfails more)
  inTurn id more hdown := by
    obtain ⟨new, hbegun, hadvances⟩ := h.advances_run more id
    rw [not_and, not_not] at hdown
    obtain ⟨added, hline⟩ := hadvances.line hdown
    exact ⟨new, added, hbegun, hline⟩
  goesOn schedule hfair id front job rest hline := by
    have hline : ((course h schedule).station 0 id).line = front ++ job :: rest := hline
    obtain ⟨k, -, hcloses | hbegun⟩ := (isFair_course h hfair).reaches hline
    · exact ⟨k, .inl hcloses⟩
    · rw [Course.begun_zero, List.nil_append] at hbegun
      exact ⟨k, .inr ⟨_, begunAt_after h schedule k id, hbegun⟩⟩

/-- **Callbacks get what a direct request would have returned**, in every run. -/
theorem run_agrees (settings : Settings) (hasLog : Bool) (moves : List (ActivityMove Nat)) :
    ((start settings hasLog).run moves).Agrees :=
  ((sound_start settings hasLog).run moves).agrees

/-- The replies of an analyzer that knows of nothing. -/
def plainReplies : (question : EngineCall) → question.Reply
  | .defaultEnvironment | .createEnvironment _ => .value ⟨"/usr/bin/python3", []⟩
  | .analyze _ => .value ()
  | .callSignatures _ => .value []
  | .completions _ _ => .value []

/-- The callback of a request is run if nothing comes in its way. -/
example :
    ((start .default false).run [.interfere (.attach ⟨1⟩),
      .ask 0 ⟨⟨⟨1⟩, ⟨0⟩, ⟨[]⟩, ⟨none, "text", 0, 0, .autocomplete false⟩⟩, 0⟩,
      .fire 10 ⟨⟨⟨0⟩, .autocomplete⟩, 1, 10⟩, .lookUp 0, .submit 0, .poll ⟨0⟩, .begin ⟨0⟩,
      .act 0, .act 0, .reply 0 plainReplies, .act 0, .reply 0 plainReplies, .reply 0 plainReplies,
      .reply 0 plainReplies, .act 0, .take ⟨0⟩]).answered = [0] := rfl

end Dispatching

end CodeHints
