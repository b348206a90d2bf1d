import CodeHints.Proofs.Completion.History

/-!
# When the popup stays as it is

A list that arrives is compared with the list before it, and not with the one that the popup was
last shown with. Several lists may have come in between for which the popup was left alone. This
loses nothing: each of them was covered by the list before it, and an empty list covers nothing but
an empty one, so what the current list inserts was shown already.
-/

namespace CodeHints

/-! ## Lists that cover others -/

section Subset

variable {a b c : List Entry}

theorem isSubset_iff : isSubset a b = true ↔
    ∀ e ∈ a, ∃ shown ∈ b, shown.insertText = e.insertText := by
  simp only [isSubset, List.all_eq_true, List.any_eq_true, beq_iff_eq]

theorem isSubset_refl (a : List Entry) : isSubset a a = true :=
  isSubset_iff.mpr fun e he ↦ ⟨e, he, rfl⟩

theorem isSubset_trans (h : isSubset a b = true) (h' : isSubset b c = true) :
    isSubset a c = true := by
  rw [isSubset_iff] at *
  intro e he
  obtain ⟨middle, hmiddle, heq⟩ := h e he
  obtain ⟨shown, hshown, heq'⟩ := h' middle hmiddle
  exact ⟨shown, hshown, heq'.trans heq⟩

theorem eq_nil_of_isSubset_nil (h : isSubset a [] = true) : a = [] :=
  List.eq_nil_iff_forall_not_mem.mpr fun e he ↦ by
    obtain ⟨shown, hshown, -⟩ := isSubset_iff.mp h e he
    cases hshown

end Subset

namespace CompletionState

variable {s : CompletionState} {location : Nat} {entries : List Entry} {visible : Bool}

/-- The popup stays as it is for an empty list, and for a list that a visible popup covers. -/
theorem onNewResult_suppress_iff : (s.onNewResult location entries visible).1 = .suppress ↔
    entries = [] ∨ visible = true ∧ isSubset entries s.current = true := by
  rw [onNewResult]
  cases entries with
  | nil => simp
  | cons first rest =>
    cases visible <;> cases isSubset (first :: rest) s.current <;> simp

/-! ## What was shown -/

/-- The list that the popup is shown with at an event. -/
def shows? (s : CompletionState) : CompletionEvent → Option (List Entry)
  | .result location entries popupVisible =>
    match (s.onNewResult location entries popupVisible).1 with
    | .replaceAndShow => some entries
    | .suppress => none
  | _ => none

/-- The lists that the popup is shown with in a run, in this order. -/
def shown (s : CompletionState) : List CompletionEvent → List (List Entry)
  | [] => []
  | e :: events => (s.shows? e).toList ++ (s.step e).shown events

theorem shown_append_single (s : CompletionState) (events : List CompletionEvent)
    (e : CompletionEvent) :
    s.shown (events ++ [e]) = s.shown events ++ ((s.run events).shows? e).toList := by
  induction events generalizing s with
  | nil => rw [List.nil_append, shown, shown, shown, List.append_nil, List.nil_append, run_nil]
  | cons first rest ih =>
    rw [List.cons_append, shown, shown, ih, List.append_assoc]
    rfl

def lastShown? (events : List CompletionEvent) : Option (List Entry) :=
  (empty.shown events).getLast?

theorem lastShown?_append_single (events : List CompletionEvent) (e : CompletionEvent) :
    lastShown? (events ++ [e]) = ((empty.run events).shows? e).or (lastShown? events) := by
  rw [lastShown?, shown_append_single, List.getLast?_append, lastShown?]
  cases h : (empty.run events).shows? e <;> simp

/-- Whatever the current list inserts was in the list that was shown last. -/
def Covered (s : CompletionState) (last : Option (List Entry)) : Prop :=
  s.current ≠ [] → ∃ list, last = some list ∧ isSubset s.current list = true

theorem Covered.step {last : Option (List Entry)} (h : s.Covered last) (e : CompletionEvent) :
    (s.step e).Covered ((s.shows? e).or last) := by
  cases e with
  | mark location => exact h
  | consume location =>
    have hcurrent : (s.consume location).2.current = s.current := by
      rw [consume_eq]
      split <;> rfl
    rw [Covered, CompletionState.step, hcurrent]
    exact h
  | result location entries visible =>
    change entries ≠ [] → ∃ list, _ ∧ isSubset entries list = true
    intro hne
    cases haction : (s.onNewResult location entries visible).1 with
    | replaceAndShow => exact ⟨entries, by simp only [shows?, haction]; rfl, isSubset_refl entries⟩
    | suppress =>
      obtain ⟨-, hsubset⟩ := (onNewResult_suppress_iff.mp haction).resolve_left hne
      have hcurrent : s.current ≠ [] := fun hnil ↦ hne (eq_nil_of_isSubset_nil (hnil ▸ hsubset))
      obtain ⟨list, hlast, hcovered⟩ := h hcurrent
      exact ⟨list, by simp only [shows?, haction]; exact hlast, isSubset_trans hsubset hcovered⟩

theorem covered_run (events : List CompletionEvent) :
    (empty.run events).Covered (lastShown? events) := by
  induction events using List.reverseRecOn with
  | nil => exact fun hne ↦ absurd rfl hne
  | append_singleton events e ih =>
    rw [run_append_single, lastShown?_append_single]
    exact ih.step e

/-- The list that arrived last. -/
def lastArrived (events : List CompletionEvent) : List Entry :=
  ((lastResult? events).map (·.2)).getD []

theorem current_run (events : List CompletionEvent) :
    (empty.run events).current = lastArrived events := by
  induction events using List.reverseRecOn with
  | nil => rfl
  | append_singleton events e ih =>
    rw [run_append_single, lastArrived, lastResult?_append_single]
    cases e with
    | mark location => exact ih
    | result location entries visible => rfl
    | consume location =>
      rw [CompletionState.step, consume_eq]
      split <;> exact ih

/-- **Nothing new is held back.** The popup stays as it is exactly if the list that arrives is
empty, or the popup is visible and every text of the list was in the list that arrived before it. If
it stays as it is although the list is not empty, it was shown before, and every text of the list
was in the list that it was last shown with. And the popup is never shown with an empty list. -/
theorem run_holdsBackNothing (events : List CompletionEvent) (location : Nat)
    (entries : List Entry) (visible : Bool) :
    (((empty.run events).onNewResult location entries visible).1 = .suppress ↔
      entries = [] ∨ visible = true ∧
        ∀ e ∈ entries, ∃ old ∈ lastArrived events, old.insertText = e.insertText) ∧
    (((empty.run events).onNewResult location entries visible).1 = .suppress → entries ≠ [] →
      visible = true ∧ ∃ last, lastShown? events = some last ∧
        ∀ e ∈ entries, ∃ shown ∈ last, shown.insertText = e.insertText) ∧
    (((empty.run events).onNewResult location entries visible).1 = .replaceAndShow →
      entries ≠ []) := by
  refine ⟨?_, fun haction hne ↦ ?_, ?_⟩
  · rw [onNewResult_suppress_iff, current_run, isSubset_iff]
  · obtain ⟨hvisible, hsubset⟩ := (onNewResult_suppress_iff.mp haction).resolve_left hne
    have hcurrent : (empty.run events).current ≠ [] :=
      fun hnil ↦ hne (eq_nil_of_isSubset_nil (hnil ▸ hsubset))
    obtain ⟨last, hlast, hcovered⟩ := covered_run events hcurrent
    exact ⟨hvisible, last, hlast, isSubset_iff.mp (isSubset_trans hsubset hcovered)⟩
  · rintro haction rfl
    rw [onNewResult_suppress_iff.mpr (.inl rfl)] at haction
    cases haction

/-- What was shown, but was not in the list before, is shown once more. -/
example :
    let list (texts : List String) : List Entry := texts.map fun t ↦ ⟨t, t⟩
    let s := empty.run [.result 0 (list ["a", "b", "c"]) false, .result 0 (list ["a", "b"]) true]
    (s.onNewResult 0 (list ["b"]) true).1 = .suppress ∧
      (s.onNewResult 0 (list ["c"]) true).1 = .replaceAndShow := by decide

end CompletionState

end CodeHints
