import CodeHints.Proofs.Dispatch.Basic
import Mathlib.Data.List.Nodup
import Mathlib.Data.List.Perm.Basic

/-!
# What becomes of errands

In a move some errands begin, or some end, or one of them goes on: it meets with something, or it
delivers its answer. `Leads` says so, and `leads_step` shows that there is nothing else. What the
errands of jobs meet with is exactly what goes to the log, so what is left of an errand is what is
left of its code `after` it has met with all that.

The number of a request goes with its errand for as long as something may still be delivered. Then
the errand has a taker, and nobody takes the answers of two errands.
-/

namespace CodeHints

open List (Subperm)

variable {κ : Type}

theorem exists_split {α : Type} {l : List α} {index : Nat} {a : α} (h : l[index]? = some a) :
    ∃ before after, l = before ++ a :: after ∧ ∀ b, l.set index b = before ++ b :: after := by
  obtain ⟨hlt, rfl⟩ := List.getElem?_eq_some_iff.mp h
  refine ⟨l.take index, l.drop (index + 1), ?_, fun b ↦ ?_⟩
  · rw [List.getElem_cons_drop, List.take_append_drop]
  · rw [List.set_eq_take_append_cons_drop, if_pos hlt]

namespace Errand

/-- The one who takes the answer, unless it was delivered or there will be none. -/
def taker? (e : Errand κ) : Option κ :=
  match e.consultation.rest with
  | .done (.value none) => none
  | _ => e.job.map (·.2)

theorem taker?_toList_sublist (e : Errand κ) :
    e.taker?.toList.Sublist (e.job.map (·.2)).toList := by
  unfold taker?
  split
  · exact List.nil_sublist _
  · exact .refl _

/-- An errand goes on: it meets with something or delivers its answer, or does neither. -/
structure GoesOn (e e' : Errand κ) (met : List (κ × Happening (Pipeline κ)))
    (delivered : List (WindowKey × Delivery κ)) : Prop where
  job : e'.job = e.job
  ask : e'.consultation.ask = e.consultation.ask
  takers : Subperm (delivered.map (·.2.receiver) ++ e'.taker?.toList) e.taker?.toList
  rest : ∀ receiver, e'.taker? = some receiver →
    e.consultation.rest.after (met.map (·.2)) = some e'.consultation.rest
  met : ∀ x ∈ met, e.taker? = some x.1 ∧ ∀ outcome, e.consultation.rest ≠ .done outcome
  delivered : ∀ x ∈ delivered, e.taker? = some x.2.receiver ∧
    x.1 = e.window ∧ e.consultation.rest = .done (.value (some x.2.answer))

theorem GoesOn.taker?_eq {e e' : Errand κ} {met : List (κ × Happening (Pipeline κ))}
    {delivered : List (WindowKey × Delivery κ)} (h : e.GoesOn e' met delivered) {receiver : κ}
    (htaker : e'.taker? = some receiver) : e.taker? = some receiver := by
  have hmem : receiver ∈ e'.taker?.toList := Option.mem_toList.mpr htaker
  exact Option.mem_toList.mp (h.takers.subset (List.mem_append_right _ hmem))

section

variable {job : Option (WorkerId × κ)} {ask : Ask} {stage stage' : Stage}

theorem goesOn_of_meet {rest rest' : Resumption (Pipeline κ) (Outcome DaemonError (Option Answer))}
    (happening : Happening (Pipeline κ)) (hmeet : rest.meet happening = some rest') :
    GoesOn ⟨job, ask, stage, rest⟩ ⟨job, ask, stage', rest'⟩
      (job.map fun x ↦ (x.2, happening)).toList [] := by
  -- code that has returned meets with nothing, so the errand is not through and has its taker
  have hrest (outcome : Outcome DaemonError (Option Answer)) : rest ≠ .done outcome := by
    rintro rfl
    cases happening <;> cases hmeet
  have htaker : taker? ⟨job, ask, stage, rest⟩ = job.map (·.2) := by
    cases rest with
    | done outcome => exact absurd rfl (hrest outcome)
    | access update next => rfl
    | call question next => rfl
  have htaker' := taker?_toList_sublist ⟨job, ask, stage', rest'⟩
  refine ⟨rfl, rfl, htaker ▸ htaker'.subperm, fun receiver hreceiver ↦ ?_, fun x hx ↦ ?_,
    fun _ hx ↦ by (cases hx)⟩
  · cases job with
    | none =>
      rw [hreceiver] at htaker'
      cases htaker'
    | some job =>
      rw [Option.map_some, Option.toList_some, List.map_singleton]
      exact (rest.after_single happening).trans hmeet
  · rw [Option.toList_map] at hx
    obtain ⟨y, hy, rfl⟩ := List.mem_map.mp hx
    rw [Option.mem_toList] at hy
    rw [htaker, hy]
    exact ⟨rfl, hrest⟩

theorem goesOn_answer (id : WorkerId) (receiver : κ) (answer : Answer) :
    GoesOn ⟨some (id, receiver), ask, stage, .done (.value (some answer))⟩
      ⟨some (id, receiver), ask, stage, .done (.value none)⟩ []
      [(ask.window, ⟨receiver, answer⟩)] := by
  refine ⟨rfl, rfl, .refl _, fun _ h ↦ by (cases h),
    fun _ hx ↦ by (cases hx), fun x hx ↦ ?_⟩
  rw [List.mem_singleton.mp hx]
  exact ⟨rfl, rfl, rfl⟩

end

end Errand

namespace Activity

variable {s t : Activity κ} {move : ActivityMove κ}

/-! ## The errand of a move -/

theorem act_cases (s : Activity κ) (index : Nat) :
    (∃ job ask stage update next,
      s.errands[index]? = some ⟨job, ask, stage, .access update next⟩) ∨
    (∃ id receiver ask stage answer, s.errands[index]? =
      some ⟨some (id, receiver), ask, stage, .done (.value (some answer))⟩) ∨
    s.step (.act index) = s ∧ s.delivers (.act index) = [] ∧ s.meets (.act index) = [] := by
  rw [step, act, delivers, meets]
  cases hget : s.errands[index]? with
  | none => exact .inr (.inr ⟨rfl, rfl, rfl⟩)
  | some e =>
    obtain ⟨job, ask, stage, rest⟩ := e
    cases rest with
    | access update next => exact .inl ⟨job, ask, stage, update, next, rfl⟩
    | call question next => cases job <;> exact .inr (.inr ⟨rfl, rfl, rfl⟩)
    | done outcome =>
      cases outcome with
      | value found =>
        cases found with
        | none => cases job <;> exact .inr (.inr ⟨rfl, rfl, rfl⟩)
        | some answer =>
          cases job with
          | none => exact .inr (.inr ⟨rfl, rfl, rfl⟩)
          | some job => exact .inr (.inl ⟨job.1, job.2, ask, stage, answer, rfl⟩)
      | failed e => cases job <;> exact .inr (.inr ⟨rfl, rfl, rfl⟩)
      | broken payload => cases job <;> exact .inr (.inr ⟨rfl, rfl, rfl⟩)

theorem reply_cases (s : Activity κ) (index : Nat)
    (replies : (question : EngineCall) → question.Reply) :
    (∃ job ask stage question next,
      s.errands[index]? = some ⟨job, ask, stage, .call question next⟩) ∨
    s.step (.reply index replies) = s ∧ s.meets (.reply index replies) = [] := by
  rw [step, reply, meets]
  cases hget : s.errands[index]? with
  | none => exact .inr ⟨rfl, rfl⟩
  | some e =>
    obtain ⟨job, ask, stage, rest⟩ := e
    cases rest with
    | call question next => exact .inl ⟨job, ask, stage, question, next, rfl⟩
    | access update next => cases job <;> exact .inr ⟨rfl, rfl⟩
    | done outcome => cases job <;> exact .inr ⟨rfl, rfl⟩

theorem act_of_answer {index : Nat} {id : WorkerId} {receiver : κ} {ask : Ask} {stage : Stage}
    {answer : Answer}
    (h : s.errands[index]? =
      some ⟨some (id, receiver), ask, stage, .done (.value (some answer))⟩) :
    s.step (.act index) =
      { s with
        pipeline := { s.pipeline with
          router := (s.pipeline.router.deliver ask.window ⟨receiver, answer⟩).2 }
        errands :=
          s.errands.set index ⟨some (id, receiver), ask, stage, .done (.value none)⟩ } :=
  act_of_some h rfl

/-! ## All errands -/

/-- Those who may still get an answer by an errand. -/
def takers (s : Activity κ) : List κ := s.errands.filterMap Errand.taker?

/-- What becomes of the errands in a move: some begin, or some end, or one of them goes on. -/
inductive Leads (s : Activity κ) (move : ActivityMove κ) (t : Activity κ) : Prop where
  | begins (new : List (Errand κ)) (herrands : t.errands = s.errands ++ new)
    (hmeets : s.meets move = []) (hdelivers : s.delivers move = [])
    (htakers : new.filterMap Errand.taker? = (s.begins move).map (·.receiver))
    (hnew : ∀ e ∈ new, ∀ id receiver, e.job = some (id, receiver) →
      (id, .task ⟨e.consultation.ask, receiver⟩) ∈ s.workforce.starts move.turn? ∧
        e.consultation.rest =
          Pipeline.askSync Resumption.atomic Resumption.engine e.consultation.ask)
  | ends (herrands : t.errands.Sublist s.errands) (hmeets : s.meets move = [])
    (hdelivers : s.delivers move = []) (hbegins : s.begins move = [])
  | goesOn (before : List (Errand κ)) (e e' : Errand κ) (after : List (Errand κ))
    (herrands : s.errands = before ++ e :: after) (herrands' : t.errands = before ++ e' :: after)
    (hbegins : s.begins move = []) (hgoes : e.GoesOn e' (s.meets move) (s.delivers move))

private theorem leads_begin (s : Activity κ) (id : WorkerId) :
    s.Leads (.begin id) (s.step (.begin id)) := by
  cases hbegin : s.pipeline.pool.begin? id with
  | none =>
    rw [begin_of_none hbegin]
    refine .ends (.refl _) rfl rfl ?_
    rw [begins, Workforce.begins, show s.workforce.pool.begin? id = none from hbegin]
  | some found =>
    obtain ⟨job, pool⟩ := found
    have hbegin' : s.workforce.pool.begin? id = some (job, pool) := hbegin
    rw [begin_of_some hbegin]
    refine .begins (Errand.ofJob id job) rfl rfl rfl ?_ fun e he i receiver hjob ↦ ?_
    · rw [begins, Workforce.begins, hbegin']
      cases job <;> rfl
    · rw [ActivityMove.turn?, Workforce.starts, hbegin']
      cases job with
      | signal signal => cases he
      | task inquiry =>
        obtain rfl := List.mem_singleton.mp he
        cases hjob
        exact ⟨List.mem_singleton.mpr rfl, rfl⟩

private theorem leads_act (s : Activity κ) (index : Nat) :
    s.Leads (.act index) (s.step (.act index)) := by
  obtain ⟨job, ask, stage, update, next, hget⟩ | ⟨id, receiver, ask, stage, answer, hget⟩ |
    ⟨hsame, hdelivers, hmeets⟩ := s.act_cases index
  · obtain ⟨before, after, herrands, hset⟩ := exists_split hget
    rw [act_of_access hget]
    refine .goesOn before _ _ after herrands (hset _) rfl ?_
    rw [meets, delivers, hget]
    cases job with
    | none => exact Errand.goesOn_of_meet (.found s.pipeline) rfl
    | some job => exact Errand.goesOn_of_meet _ rfl
  · obtain ⟨before, after, herrands, hset⟩ := exists_split hget
    rw [act_of_answer hget]
    refine .goesOn before _ _ after herrands (hset _) rfl ?_
    rw [meets, delivers, hget]
    exact Errand.goesOn_answer id receiver answer
  · rw [hsame]
    exact .ends (.refl _) hmeets hdelivers rfl

private theorem leads_reply (s : Activity κ) (index : Nat)
    (replies : (question : EngineCall) → question.Reply) :
    s.Leads (.reply index replies) (s.step (.reply index replies)) := by
  obtain ⟨job, ask, stage, question, next, hget⟩ | ⟨hsame, hmeets⟩ := s.reply_cases index replies
  · obtain ⟨before, after, herrands, hset⟩ := exists_split hget
    rw [reply_of_call hget]
    refine .goesOn before _ _ after herrands (hset _) rfl ?_
    rw [meets, hget]
    cases job with
    | none => exact Errand.goesOn_of_meet (.replied replies) rfl
    | some job => exact Errand.goesOn_of_meet _ rfl
  · rw [hsame]
    exact .ends (.refl _) hmeets rfl rfl

theorem leads_step (s : Activity κ) (move : ActivityMove κ) : s.Leads move (s.step move) := by
  have hsame {t : Activity κ} (ht : t.errands = s.errands) (hmeets : s.meets move = [])
      (hdelivers : s.delivers move = []) (hbegins : s.begins move = []) : s.Leads move t :=
    .ends (ht ▸ .refl _) hmeets hdelivers hbegins
  cases move with
  | visit ask =>
    refine .begins [.start none ask] rfl rfl rfl rfl fun e he id receiver hjob ↦ ?_
    rw [List.mem_singleton.mp he] at hjob
    cases hjob
  | begin id => exact s.leads_begin id
  | finish id => exact .ends List.filter_sublist rfl rfl rfl
  | act index => exact s.leads_act index
  | reply index replies => exact s.leads_reply index replies
  | fire now ticket =>
    refine hsame ?_ rfl rfl rfl
    rw [step, fire]
    split <;> rfl
  | lookUp index =>
    refine hsame ?_ rfl rfl rfl
    rw [step, lookUp]
    split <;> rfl
  | take inbox =>
    refine hsame ?_ rfl rfl rfl
    rw [step, take, Pipeline.take?]
    cases s.pipeline.router.take? inbox <;> rfl
  | _ => exact hsame rfl rfl rfl rfl

/-! ## Jobs that begin -/

/-- The jobs of requests that begin are jobs that begin. -/
theorem tasksOf_starts (s : Activity κ) (move : ActivityMove κ) :
    WorkerPool.tasksOf ((s.workforce.starts move.turn?).map (·.2)) = s.begins move := by
  cases move with
  | begin id =>
    rw [ActivityMove.turn?, Workforce.starts, begins, Workforce.begins]
    cases s.workforce.pool.begin? id <;> rfl
  | _ => rfl

theorem mem_begins_of_starts {id : WorkerId} {inquiry : Inquiry κ}
    (h : (id, .task inquiry) ∈ s.workforce.starts move.turn?) : inquiry ∈ s.begins move := by
  rw [← tasksOf_starts, WorkerPool.mem_tasksOf]
  exact List.mem_map_of_mem h

/-! ## Takers -/

theorem takers_split {before after : List (Errand κ)} {e : Errand κ}
    (h : s.errands = before ++ e :: after) : s.takers =
      before.filterMap Errand.taker? ++ (e.taker?.toList ++ after.filterMap Errand.taker?) := by
  rw [takers, h, List.filterMap_append, List.filterMap_cons]
  cases e.taker? <;> rfl

/-- The answer of an errand is taken by nobody else. -/
theorem taker?_ne_of_split {before after : List (Errand κ)} {e other : Errand κ} {receiver : κ}
    (hnodup : s.takers.Nodup) (hsplit : s.errands = before ++ e :: after)
    (htaker : e.taker? = some receiver) (hother : other ∈ before ∨ other ∈ after) :
    other.taker? ≠ some receiver := by
  classical
  intro hsame
  have hmem {l : List (Errand κ)} (hl : other ∈ l) :
      0 < (l.filterMap Errand.taker?).count receiver :=
    List.count_pos_iff.mpr (List.mem_filterMap.mpr ⟨other, hl, hsame⟩)
  have hle := List.nodup_iff_count_le_one.mp hnodup receiver
  rw [takers_split hsplit, htaker, List.count_append, List.count_append, Option.toList_some,
    List.count_singleton_self] at hle
  rcases hother with hbefore | hafter
  · have hpos := hmem hbefore
    omega
  · have hpos := hmem hafter
    omega

/-- An errand takes over from a job that begins, and gives away what it delivers. -/
theorem Leads.takers (h : s.Leads move t) :
    Subperm ((s.delivers move).map (·.2.receiver) ++ t.takers)
      ((s.begins move).map (·.receiver) ++ s.takers) := by
  cases h with
  | begins new herrands hmeets hdelivers htakers hnew =>
    rw [hdelivers, Activity.takers, Activity.takers, herrands, List.filterMap_append, htakers,
      List.map_nil, List.nil_append]
    exact List.perm_append_comm.subperm
  | ends herrands hmeets hdelivers hbegins =>
    rw [hdelivers, hbegins]
    exact (herrands.filterMap _).subperm
  | goesOn before e e' after herrands herrands' hbegins hgoes =>
    classical
    rw [hbegins, takers_split herrands, takers_split herrands', List.subperm_ext_iff]
    intro receiver _
    have hcount := hgoes.takers.count_le receiver
    simp only [List.map_nil, List.nil_append, List.count_append] at hcount ⊢
    omega

end Activity

end CodeHints
