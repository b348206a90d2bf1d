import CodeHints.Completion.State
import Mathlib.Data.List.DropRight

/-!
# Which list is handed out

The bookkeeping of completions keeps two places and a list. Here it is compared with the whole
history of what was done to it: when requests were issued, when lists arrived, and when queries came
back for them. In terms of the history the rule is short. A query is given the list that arrived
last, if this was after the last request, and for the place of the request and of the query, and if
no query has come to the list before.

An empty list is never handed out, but a query may come to it, and then the request is over.
-/

namespace CodeHints

inductive CompletionEvent where
  /-- A request is issued at a place. -/
  | mark (location : Nat)
  /-- The list that was computed for a place arrives. -/
  | result (location : Nat) (entries : List Entry) (popupVisible : Bool)
  /-- A query comes back to a place. -/
  | consume (location : Nat)
  deriving DecidableEq, Repr

namespace CompletionEvent

def mark? : CompletionEvent → Option Nat
  | mark location => some location
  | _ => none

/-- The list that arrives, and its place. -/
def result? : CompletionEvent → Option (Nat × List Entry)
  | result location entries _ => some (location, entries)
  | _ => none

@[simp] theorem mark?_result (l : Nat) (entries : List Entry) (visible : Bool) :
    (result l entries visible).mark? = none := rfl

@[simp] theorem mark?_consume (l : Nat) : (consume l).mark? = none := rfl

end CompletionEvent

/-! ## The history -/

section History

variable {events : List CompletionEvent} {e : CompletionEvent} {location : Nat}

def lastMark? (events : List CompletionEvent) : Option Nat :=
  (events.filterMap CompletionEvent.mark?).getLast?

/-- The list that arrived last, and its place. -/
def lastResult? (events : List CompletionEvent) : Option (Nat × List Entry) :=
  (events.filterMap CompletionEvent.result?).getLast?

/-- What has happened since the last request. -/
def sinceMark (events : List CompletionEvent) : List CompletionEvent :=
  events.rtakeWhile (·.mark?.isNone)

/-- A query has come to the place when the list that had arrived last was for it. -/
def IsServed (location : Nat) (events : List CompletionEvent) : Prop :=
  ∃ before after, events = before ++ .consume location :: after ∧
    ∃ entries, lastResult? before = some (location, entries)

private theorem getLast?_filterMap_append {γ : Type} (f : CompletionEvent → Option γ)
    (events : List CompletionEvent) (e : CompletionEvent) :
    ((events ++ [e]).filterMap f).getLast? = (f e).or (events.filterMap f).getLast? := by
  rw [List.filterMap_append, List.getLast?_append]
  cases h : f e <;> simp [h]

theorem lastMark?_append_single (events : List CompletionEvent) (e : CompletionEvent) :
    lastMark? (events ++ [e]) = e.mark?.or (lastMark? events) := getLast?_filterMap_append _ _ _

theorem lastResult?_append_single (events : List CompletionEvent) (e : CompletionEvent) :
    lastResult? (events ++ [e]) = e.result?.or (lastResult? events) :=
  getLast?_filterMap_append _ _ _

theorem sinceMark_append_mark (events : List CompletionEvent) (location : Nat) :
    sinceMark (events ++ [.mark location]) = [] :=
  List.rtakeWhile_concat_neg _ _ _ Bool.false_ne_true

theorem sinceMark_append_single (events : List CompletionEvent) (h : e.mark? = none) :
    sinceMark (events ++ [e]) = sinceMark events ++ [e] :=
  List.rtakeWhile_concat_pos _ _ _ (Option.isNone_iff_eq_none.mpr h)

theorem not_isServed_nil : ¬IsServed location [] := by
  rintro ⟨before, after, h, -⟩
  exact List.append_ne_nil_of_right_ne_nil before (List.cons_ne_nil _ after) h.symm

/-- What one more event adds to the queries that came to a list. -/
theorem isServed_append_single : IsServed location (events ++ [e]) ↔
    IsServed location events ∨
      e = .consume location ∧ ∃ entries, lastResult? events = some (location, entries) := by
  constructor
  · rintro ⟨before, after, h, hlast⟩
    obtain rfl | ⟨after, last, rfl⟩ := List.eq_nil_or_concat after
    · obtain ⟨rfl, he⟩ := List.append_inj' h rfl
      exact .inr ⟨List.singleton_inj.mp he, hlast⟩
    · rw [List.concat_eq_append, ← List.cons_append, ← List.append_assoc] at h
      exact .inl ⟨before, after, (List.append_inj' h rfl).1, hlast⟩
  · rintro (⟨before, after, rfl, hlast⟩ | ⟨rfl, hlast⟩)
    · exact ⟨before, after ++ [e], by simp, hlast⟩
    · exact ⟨events, [], rfl, hlast⟩

theorem lastMark?_append_of_unmarked (events : List CompletionEvent) {more : List CompletionEvent}
    (h : ∀ e ∈ more, e.mark? = none) : lastMark? (events ++ more) = lastMark? events := by
  rw [lastMark?, List.filterMap_append, List.filterMap_eq_nil_iff.mpr h, List.append_nil, lastMark?]

theorem sinceMark_append_of_unmarked (events : List CompletionEvent) {more : List CompletionEvent}
    (h : ∀ e ∈ more, e.mark? = none) : sinceMark (events ++ more) = sinceMark events ++ more := by
  induction more using List.reverseRecOn with
  | nil => simp
  | append_singleton more e ih =>
    rw [← List.append_assoc, sinceMark_append_single _ (h e (by simp)),
      ih fun e he ↦ h e (List.mem_append_left _ he), List.append_assoc]

end History

namespace CompletionState

/-! ## Runs -/

def step (s : CompletionState) : CompletionEvent → CompletionState
  | .mark location => s.markRequested location
  | .result location entries popupVisible => (s.onNewResult location entries popupVisible).2
  | .consume location => (s.consume location).2

def run (s : CompletionState) (events : List CompletionEvent) : CompletionState :=
  events.foldl step s

@[simp] theorem run_nil (s : CompletionState) : s.run [] = s := rfl

theorem run_append_single (s : CompletionState) (events : List CompletionEvent)
    (e : CompletionEvent) : s.run (events ++ [e]) = (s.run events).step e := List.foldl_append

/-- A query comes to a list exactly if both places are the one of the query. -/
theorem consume_eq (s : CompletionState) (location : Nat) : s.consume location =
    if s.lastRequest = some location ∧ s.deliveredAt = some location then
      (if s.current.isEmpty then none else some s.current, { s with lastRequest := none })
    else (none, s) := by
  simp only [consume, expects, Bool.and_eq_true, decide_eq_true_eq]

theorem consume_eq_some_iff {s : CompletionState} {location : Nat} {entries : List Entry} :
    (s.consume location).1 = some entries ↔ entries ≠ [] ∧
      s.lastRequest = some location ∧ s.deliveredAt = some location ∧ s.current = entries := by
  rw [consume_eq]
  split
  · next h =>
    cases hcurrent : s.current with
    | nil => simp +contextual [eq_comm]
    | cons first rest =>
      simp only [List.isEmpty_cons, Bool.false_eq_true, if_false, Option.some.injEq, h, true_and]
      exact ⟨fun heq ↦ ⟨heq ▸ List.cons_ne_nil first rest, heq⟩, fun heq ↦ heq.2⟩
  · next h => exact ⟨nofun, fun ⟨_, hlast, hdelivered, _⟩ ↦ absurd ⟨hlast, hdelivered⟩ h⟩

/-! ## What the bookkeeping remembers -/

/-- The bookkeeping after a history. -/
structure Remembers (s : CompletionState) (events : List CompletionEvent) : Prop where
  /-- The request counts as outstanding until a query comes to its list. -/
  lastRequest : ∀ location, s.lastRequest = some location ↔
    lastMark? events = some location ∧ ¬IsServed location (sinceMark events)
  /-- A list that has arrived since the last request is at hand. -/
  arrived : ∀ location entries, lastResult? (sinceMark events) = some (location, entries) →
    s.deliveredAt = some location ∧ s.current = entries
  /-- A list that arrived before is not taken for an answer to the request. -/
  awaited : ∀ location, lastMark? events = some location → lastResult? (sinceMark events) = none →
    s.deliveredAt ≠ some location

namespace Remembers

variable {s : CompletionState} {events : List CompletionEvent} {location : Nat}

theorem empty : CompletionState.empty.Remembers [] := ⟨fun _ ↦ ⟨nofun, nofun⟩, nofun, nofun⟩

/-- While its request is outstanding, the list for a place is at hand exactly if it has arrived. -/
theorem deliveredAt_iff (h : s.Remembers events) (hmark : lastMark? events = some location) :
    s.deliveredAt = some location ↔
      ∃ entries, lastResult? (sinceMark events) = some (location, entries) := by
  constructor
  · intro hdelivered
    cases hlast : lastResult? (sinceMark events) with
    | none => exact absurd hdelivered (h.awaited location hmark hlast)
    | some found =>
      obtain ⟨place, entries⟩ := found
      have hplace := (h.arrived place entries hlast).1
      obtain rfl := Option.some.inj (hdelivered.symm.trans hplace)
      exact ⟨entries, rfl⟩
  · rintro ⟨entries, hlast⟩
    exact (h.arrived location entries hlast).1

theorem mark (s : CompletionState) (events : List CompletionEvent) (location : Nat) :
    (s.markRequested location).Remembers (events ++ [.mark location]) := by
  have hmark : lastMark? (events ++ [.mark location]) = some location :=
    lastMark?_append_single events _
  refine ⟨fun place ↦ ?_, ?_, fun place hplace _ ↦ ?_⟩
  · rw [sinceMark_append_mark, hmark]
    exact ⟨fun heq ↦ ⟨heq, not_isServed_nil⟩, fun heq ↦ heq.1⟩
  · rw [sinceMark_append_mark]
    nofun
  · rw [hmark] at hplace
    obtain rfl := Option.some.inj hplace
    rw [markRequested]
    dsimp only
    split
    · exact (Option.some_ne_none _).symm
    · next hne => exact hne

theorem result (h : s.Remembers events) (location : Nat) (entries : List Entry)
    (popupVisible : Bool) : (s.onNewResult location entries popupVisible).2.Remembers
      (events ++ [.result location entries popupVisible]) := by
  have hsince := sinceMark_append_single events
    (CompletionEvent.mark?_result location entries popupVisible)
  have hlast : lastResult? (sinceMark events ++ [.result location entries popupVisible]) =
      some (location, entries) := lastResult?_append_single _ _
  refine ⟨fun place ↦ ?_, fun place found hfound ↦ ?_, fun place _ hnone ↦ ?_⟩
  · rw [hsince, isServed_append_single, lastMark?_append_single]
    simpa [onNewResult] using h.lastRequest place
  · rw [hsince, hlast] at hfound
    cases hfound
    exact ⟨rfl, rfl⟩
  · rw [hsince, hlast] at hnone
    cases hnone

theorem consume (h : s.Remembers events) (location : Nat) :
    (s.consume location).2.Remembers (events ++ [.consume location]) := by
  have hmark : lastMark? (events ++ [.consume location]) = lastMark? events :=
    lastMark?_append_single _ _
  have hsince := sinceMark_append_single events (CompletionEvent.mark?_consume location)
  have hlast : lastResult? (sinceMark events ++ [.consume location]) =
      lastResult? (sinceMark events) := lastResult?_append_single _ _
  have hkept : (s.consume location).2.deliveredAt = s.deliveredAt ∧
      (s.consume location).2.current = s.current := by
    rw [consume_eq]
    split <;> exact ⟨rfl, rfl⟩
  refine ⟨fun place ↦ ?_, ?_, ?_⟩
  · rw [hmark, hsince, isServed_append_single, not_or, ← and_assoc, ← h.lastRequest,
      consume_eq]
    constructor
    · intro hplace
      split at hplace
      · cases hplace
      · next hnot =>
        refine ⟨hplace, fun ⟨heq, hfound⟩ ↦ hnot ?_⟩
        cases heq
        exact ⟨hplace, (h.deliveredAt_iff ((h.lastRequest _).mp hplace).1).mpr hfound⟩
    · rintro ⟨hplace, hnot⟩
      have hskipped : ¬(s.lastRequest = some location ∧ s.deliveredAt = some location) := by
        rintro ⟨hrequest, hdelivered⟩
        obtain rfl := Option.some.inj (hplace.symm.trans hrequest)
        exact hnot ⟨rfl, (h.deliveredAt_iff ((h.lastRequest _).mp hplace).1).mp hdelivered⟩
      rw [if_neg hskipped]
      exact hplace
  · rw [hsince, hlast, hkept.1, hkept.2]
    exact h.arrived
  · rw [hmark, hsince, hlast, hkept.1]
    exact h.awaited

theorem step (h : s.Remembers events) (e : CompletionEvent) :
    (s.step e).Remembers (events ++ [e]) := by
  cases e with
  | mark location => exact mark s events location
  | result location entries popupVisible => exact h.result location entries popupVisible
  | consume location => exact h.consume location

end Remembers

theorem remembers_run (events : List CompletionEvent) : (empty.run events).Remembers events := by
  induction events using List.reverseRecOn with
  | nil => exact .empty
  | append_singleton events e ih =>
    rw [run_append_single]
    exact ih.step e

/-! ## What is handed out -/

/-- Which list a query is given, in terms of the history. -/
theorem consume_run_iff (events : List CompletionEvent) (location : Nat) (entries : List Entry) :
    ((empty.run events).consume location).1 = some entries ↔
      entries ≠ [] ∧ lastMark? events = some location ∧
        lastResult? (sinceMark events) = some (location, entries) ∧
        ¬IsServed location (sinceMark events) := by
  have h := remembers_run events
  rw [consume_eq_some_iff, h.lastRequest]
  refine and_congr_right fun _ ↦ ⟨?_, ?_⟩
  · rintro ⟨⟨hmark, hnot⟩, hdelivered, hcurrent⟩
    obtain ⟨found, hfound⟩ := (h.deliveredAt_iff hmark).mp hdelivered
    rw [(h.arrived location found hfound).2] at hcurrent
    exact ⟨hmark, hcurrent ▸ hfound, hnot⟩
  · rintro ⟨hmark, hfound, hnot⟩
    exact ⟨⟨hmark, hnot⟩, h.arrived location entries hfound⟩

/-- **Which list is handed out.** A query is given a list exactly if the list is not empty, the last
request was for this place, the list that arrived last has arrived since this request, for this
place, and no query has come to the place since the request when the list that had arrived last was
for it. Hence a request leads to at most one list: once a list is handed out, no query is given any
before the next request. -/
theorem run_handsOut (events : List CompletionEvent) (location : Nat) (entries : List Entry) :
    (((empty.run events).consume location).1 = some entries ↔
      entries ≠ [] ∧ lastMark? events = some location ∧
        lastResult? (sinceMark events) = some (location, entries) ∧
        ¬IsServed location (sinceMark events)) ∧
    (((empty.run events).consume location).1 = some entries →
      ∀ later : List CompletionEvent, (∀ e ∈ later, e.mark? = none) → ∀ place,
        ((empty.run (events ++ .consume location :: later)).consume place).1 = none) := by
  refine ⟨consume_run_iff events location entries, fun hgiven later hlater place ↦ ?_⟩
  obtain ⟨-, hmark, hlast, -⟩ := (consume_run_iff events location entries).mp hgiven
  have hmore : ∀ e ∈ CompletionEvent.consume location :: later, e.mark? = none :=
    List.forall_mem_cons.mpr ⟨rfl, hlater⟩
  refine Option.eq_none_iff_forall_ne_some.mpr fun found hfound ↦ ?_
  obtain ⟨-, hmark', -, hnot⟩ := (consume_run_iff _ place found).mp hfound
  rw [lastMark?_append_of_unmarked events hmore] at hmark'
  obtain rfl := Option.some.inj (hmark.symm.trans hmark')
  rw [sinceMark_append_of_unmarked events hmore] at hnot
  exact hnot ⟨sinceMark events, later, rfl, entries, hlast⟩

end CompletionState

end CodeHints
