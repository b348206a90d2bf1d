import CodeHints.Proofs.Activity.Sound

/-!
# Which jobs may begin

The job of a request may begin, although nobody asks for it any more, exactly if the request is
`Ahead`. In one direction this is an induction over the run, since no move brings anything ahead
that nobody asked for, and a job that begins was ahead. In the other direction the pipeline is led
by hand: the timer fires when it is due, a worker is looked up, the request is submitted, and then
the workers take their turns until it is the turn of this job. Nothing from outside is needed.
-/

namespace CodeHints

variable {κ : Type}

/-- The pipeline makes the move by itself. -/
def ActivityMove.IsTurn : ActivityMove κ → Prop
  | .fire .. | .lookUp _ | .submit _ | .poll _ | .begin _ | .finish _ | .act _ | .reply .. => True
  | _ => False

namespace ActivityMove

variable {move : ActivityMove κ}

theorem IsTurn.isSilent (h : move.IsTurn) : move.IsSilent := by
  cases move with
  | ask now inquiry => exact h
  | visit ask => exact h
  | _ => exact trivial

theorem IsSilent.not_mem_asked (h : move.IsSilent) {inquiry : Inquiry κ} :
    inquiry ∉ move.asked := by
  cases move with
  | ask now inquiry => exact h.elim
  | _ => exact List.not_mem_nil

end ActivityMove

namespace Activity

variable {s : Activity κ} {inquiry : Inquiry κ} {moves : List (ActivityMove κ)}

/-- The job of the request may begin by moves that are allowed. -/
def MayBegin (s : Activity κ) (allowed : ActivityMove κ → Prop) (inquiry : Inquiry κ) : Prop :=
  ∃ moves, (∀ move ∈ moves, allowed move) ∧ inquiry ∈ s.begunIn moves

/-! ## What begins was ahead -/

theorem Sound.ahead_of_begins (h : s.Sound) {move : ActivityMove κ}
    (hbegins : inquiry ∈ s.begins move) : s.Ahead inquiry := by
  cases move with
  | begin id => exact .inr (.inr (h.workforce.pends_of_begins hbegins))
  | _ => cases hbegins

theorem Sound.ahead_of_begunIn (h : s.Sound) (hbegun : inquiry ∈ s.begunIn moves) :
    s.Ahead inquiry ∨ ∃ move ∈ moves, inquiry ∈ ActivityMove.asked move := by
  induction moves generalizing s with
  | nil => cases hbegun
  | cons move moves ih =>
    rcases List.mem_append.mp hbegun with hnow | hlater
    · exact .inl (h.ahead_of_begins hnow)
    · obtain hahead | ⟨other, hother, hasked⟩ := ih (h.step move) hlater
      · exact ((h.step_spec move).2.ahead inquiry hahead).imp_right
          fun hasked ↦ ⟨move, List.mem_cons_self, hasked⟩
      · exact .inr ⟨other, List.mem_cons_of_mem _ hother, hasked⟩

/-! ## What is ahead may begin -/

theorem exists_run_workforce {moves : List (Move κ)}
    (h : ∀ move ∈ moves, Workforce.Move.IsTurn move ∨ ∃ index, move = .submit index) :
    ∃ turns : List (ActivityMove κ), (∀ move ∈ turns, move.IsTurn) ∧
      (s.run turns).workforce = s.workforce.run moves := by
  induction moves generalizing s with
  | nil => exact ⟨[], by simp, rfl⟩
  | cons move moves ih =>
    rw [List.forall_mem_cons] at h
    obtain ⟨turn, hturn, hstep⟩ : ∃ turn : ActivityMove κ, turn.IsTurn ∧
        (s.step turn).workforce = s.workforce.step move := by
      obtain hmove | ⟨index, rfl⟩ := h.1
      · cases move with
        | poll id => exact ⟨.poll id, trivial, rfl⟩
        | finish id => exact ⟨.finish id, trivial, rfl⟩
        | begin id => exact ⟨.begin id, trivial, s.workforce_begin id⟩
        | _ => exact hmove.elim
      · exact ⟨.submit index, trivial, rfl⟩
    obtain ⟨turns, hturns, hrun⟩ := ih (s := s.step turn) h.2
    refine ⟨turn :: turns, List.forall_mem_cons.mpr ⟨hturn, hturns⟩, ?_⟩
    rw [run_cons, hrun, hstep]
    rfl

theorem MayBegin.cons (move : ActivityMove κ) (hturn : move.IsTurn)
    (h : (s.step move).MayBegin ActivityMove.IsTurn inquiry) :
    s.MayBegin ActivityMove.IsTurn inquiry := by
  obtain ⟨turns, hturns, hbegun⟩ := h
  exact ⟨move :: turns, List.forall_mem_cons.mpr ⟨hturn, hturns⟩,
    List.mem_append_right _ hbegun⟩

theorem Sound.mayBegin_of_pends (h : s.Sound) (hpends : s.workforce.Pends inquiry) :
    s.MayBegin ActivityMove.IsTurn inquiry := by
  obtain ⟨moves, id, hmoves, hbegins⟩ := h.workforce.exists_begins_of_pends hpends
  obtain ⟨turns, hturns, hrun⟩ := exists_run_workforce (s := s) hmoves
  refine ⟨turns ++ [.begin id], ?_, ?_⟩
  · intro move hmove
    rcases List.mem_append.mp hmove with hold | hnew
    · exact hturns move hold
    · exact List.mem_singleton.mp hnew ▸ trivial
  · rw [begunIn_append]
    refine List.mem_append_right _ (List.mem_append_left _ ?_)
    rw [begins, hrun]
    exact hbegins

theorem Sound.mayBegin_of_fired (h : s.Sound) (hfired : inquiry ∈ s.fired) :
    s.MayBegin ActivityMove.IsTurn inquiry := by
  obtain ⟨index, hget⟩ := List.mem_iff_getElem?.mp hfired
  refine .cons (.lookUp index) trivial ((h.step (.lookUp index)).mayBegin_of_pends ?_)
  obtain ⟨id, hlive, hheld, -⟩ := Workforce.lookUp_spec h.workforce inquiry
  obtain ⟨w, hw, -, hopen, -⟩ := (h.workforce.lookUp inquiry).live _ id hlive
  have hmem : (inquiry, id) ∈ (s.workforce.lookUp inquiry).held := by
    rw [hheld]
    exact List.mem_append_right _ (List.mem_singleton.mpr rfl)
  rw [lookUp_of_some hget]
  exact .inr ⟨id, hmem, w, hw, hopen⟩

/-- **What is ahead may begin** by turns of the pipeline alone. -/
theorem Sound.mayBegin_of_ahead (h : s.Sound) (hahead : s.Ahead inquiry) :
    s.MayBegin ActivityMove.IsTurn inquiry := by
  obtain htask | hfired | hpends := hahead
  · -- whatever the time is, the timer may wake when its call is due
    obtain ⟨call, hcall, rfl⟩ := List.mem_map.mp htask
    have hwake := Debouncer.wake_of_armed h.unique hcall (Nat.le_refl call.ticket.deadline)
    refine .cons (.fire call.ticket.deadline call.ticket) trivial
      ((h.step _).mayBegin_of_fired ?_)
    rw [fire_of_some hwake]
    exact List.mem_append_right _ (List.mem_singleton.mpr rfl)
  · exact h.mayBegin_of_fired hfired
  · exact h.mayBegin_of_pends hpends

/-- **A job may begin exactly if its request is ahead**, as long as nobody asks for it and nobody
keeps the pipeline from its turns. -/
theorem Sound.mayBegin_iff (h : s.Sound) {allowed : ActivityMove κ → Prop}
    (hturn : ∀ move, ActivityMove.IsTurn move → allowed move)
    (hasked : ∀ move, allowed move → inquiry ∉ ActivityMove.asked move) :
    s.MayBegin allowed inquiry ↔ s.Ahead inquiry := by
  constructor
  · rintro ⟨moves, hmoves, hbegun⟩
    refine (h.ahead_of_begunIn hbegun).resolve_right ?_
    rintro ⟨move, hmove, hmem⟩
    exact hasked move (hmoves move hmove) hmem
  · intro hahead
    obtain ⟨turns, hturns, hbegun⟩ := h.mayBegin_of_ahead hahead
    exact ⟨turns, fun move hmove ↦ hturn move (hturns move hmove), hbegun⟩

end Activity

end CodeHints
