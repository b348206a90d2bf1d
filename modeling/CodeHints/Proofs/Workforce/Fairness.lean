import CodeHints.Proofs.Workforce.Lines
import Mathlib.Data.Nat.Init

/-!
# Every job gets its turn

A `Course` is a workforce over time. It is fair if every worker gets its turns again and again, and
every job ends at some time; others may do what they like in between. In a fair course every job
begins that stands in a line, after those before it, unless its worker is shut down first.

## Stages

A worker with something in its line is in one of four stages: it has handed over a job, it runs one,
it is ready to take one, or it waits for a signal. It leaves each of the first three with its next
turn of the right kind, and only then. The signal stands in the line of a worker that was started
earlier, where it does not get lost, so the last stage is a matter of induction on the worker.
-/

namespace CodeHints

variable {κ : Type}

/-- A workforce over time, with the turns that the workers have. -/
structure Course (κ : Type) where
  state : Nat → Workforce κ
  turn : Nat → Option (Move κ)
  sound : ∀ k, (state k).Sound
  goes : ∀ k, (state k).Goes (turn k) (state (k + 1))

namespace Course

open WorkerPool Workforce

variable (c : Course κ)

abbrev station (k : Nat) (id : WorkerId) : Station (Inquiry κ) := (c.state k).station id

/-- The jobs that a worker begins in one move. -/
def begins (k : Nat) (id : WorkerId) : List (Job (Inquiry κ)) :=
  jobsAt ((c.state k).starts (c.turn k)) id

/-- The jobs that a worker has begun before a time. -/
def begun (k : Nat) (id : WorkerId) : List (Job (Inquiry κ)) :=
  (List.range k).flatMap (c.begins · id)

/-- The worker was shut down in the time between. -/
def Closes (id : WorkerId) (n k : Nat) : Prop :=
  (c.station k id).IsClosed ∧ ¬ (c.station n id).IsClosed

/-- Every worker gets its turns again and again, and every job ends. -/
structure IsFair : Prop where
  poll : ∀ id n, ∃ k, n ≤ k ∧ c.turn k = some (.poll id)
  begin : ∀ id n, ∃ k, n ≤ k ∧ c.turn k = some (.begin id)
  finish : ∀ id n, ∃ k, n ≤ k ∧ c.turn k = some (.finish id)

variable {c} {id : WorkerId} {n k : Nat}

theorem begun_zero : c.begun 0 id = [] := rfl

theorem begun_succ : c.begun (k + 1) id = c.begun k id ++ c.begins k id := by
  rw [begun, List.range_succ, List.flatMap_append, List.flatMap_singleton]
  rfl

theorem advances_succ (c : Course κ) (k : Nat) (id : WorkerId) :
    (c.station k id).Advances (c.station (k + 1) id) (c.begins k id) :=
  (c.goes k).advances (c.sound k) id

/-- What begins between two times is taken from the front of the line. -/
theorem exists_begun (c : Course κ) (id : WorkerId) (hle : n ≤ k) :
    ∃ new, c.begun k id = c.begun n id ++ new ∧ (c.station n id).Advances (c.station k id) new ∧
      ∀ job ∈ new, ∃ j, n ≤ j ∧ job ∈ c.begins j id := by
  induction k, hle using Nat.le_induction with
  | base => exact ⟨[], (List.append_nil _).symm, .refl _, fun _ h ↦ absurd h List.not_mem_nil⟩
  | succ k hle ih =>
    obtain ⟨new, hbegun, hadvances, hnew⟩ := ih
    refine ⟨new ++ c.begins k id, ?_, hadvances.trans (c.advances_succ k id), fun job hjob ↦ ?_⟩
    · rw [begun_succ, hbegun, List.append_assoc]
    · rcases List.mem_append.mp hjob with hold | hlast
      · exact hnew job hold
      · exact ⟨k, hle, hlast⟩

/-! ## Lasting until something else comes -/

theorem exists_or_forall {P Q : Nat → Prop} (hn : P n)
    (hstep : ∀ k, n ≤ k → P k → Q (k + 1) ∨ P (k + 1)) :
    (∃ k, n ≤ k ∧ Q k) ∨ ∀ k, n ≤ k → P k := by
  by_contra hneither
  rw [not_or, not_exists] at hneither
  refine hneither.2 fun k hle ↦ ?_
  induction k, hle using Nat.le_induction with
  | base => exact hn
  | succ k hle ih =>
    exact (hstep k hle ih).resolve_left fun hq ↦ hneither.1 (k + 1) ⟨Nat.le_succ_of_le hle, hq⟩

/-- What lasts until a turn comes is still so in this turn. -/
theorem exists_or_turn {P Q : Nat → Prop} {move : Move κ}
    (hfair : ∃ k, n ≤ k ∧ c.turn k = some move) (hn : P n)
    (hother : ∀ k, P k → c.turn k ≠ some move → Q (k + 1) ∨ P (k + 1)) :
    (∃ k, n ≤ k ∧ Q k) ∨ ∃ k, n ≤ k ∧ P k ∧ c.turn k = some move := by
  by_contra hneither
  rw [not_or] at hneither
  obtain hq | hforever := exists_or_forall hn fun k hle hk ↦
    hother k hk fun hmove ↦ hneither.2 ⟨k, hle, hk, hmove⟩
  · exact hneither.1 hq
  · obtain ⟨k, hle, hmove⟩ := hfair
    exact hneither.2 ⟨k, hle, hforever k hle, hmove⟩

/-! ## A job that is handed over -/

/-- A job that is handed over begins, even if its worker is shut down. -/
theorem IsFair.begins_of_handed (hfair : c.IsFair) {job : Job (Inquiry κ)}
    (hhead : (c.station n id).handed.head? = some job) :
    ∃ k, n ≤ k ∧ c.begins k id = [job] := by
  obtain ⟨k, -, hfalse⟩ | ⟨k, hle, hhanded, hturn⟩ :=
    exists_or_turn (P := fun k ↦ (c.station k id).handed.head? = some job) (Q := fun _ ↦ False)
      (hfair.begin id n) hhead fun k hk hne ↦ by
        have hocc := ((c.sound k).station id).toOccupied
        have hextends := (c.goes k).extends_of_idle id
          (fun _ ↦ Station.polled_of_isBusy (hocc.isBusy_of_ne_nil (.inl (by
            rintro hnil
            rw [hnil] at hk
            cases hk))) _)
          (fun h ↦ absurd h hne) fun _ ↦ (hocc.handed_eq hk).2
        exact .inr (by rw [hextends.handed]; exact hk)
  · exact hfalse.elim
  · have hsingle := (((c.sound k).station id).handed_eq hhanded).1
    obtain ⟨pool, hbegin⟩ := begin?_of_handed hsingle
    refine ⟨k, hle, ?_⟩
    rw [begins, hturn, starts, hbegin, Option.map_some, Option.toList_some, jobsAt_single,
      if_pos rfl]

/-! ## A worker that waits for its turn -/

/-- The worker has something in its line, and since a time it has begun nothing and was not shut
down. -/
structure Waits (c : Course κ) (id : WorkerId) (n k : Nat) : Prop where
  line : (c.station k id).line ≠ []
  begun : c.begun k id = c.begun n id
  closed : (c.station k id).IsClosed ↔ (c.station n id).IsClosed

/-- The worker has begun something, or was shut down. -/
def Moves (c : Course κ) (id : WorkerId) (n k : Nat) : Prop :=
  c.Closes id n k ∨ (c.begun n id).length < (c.begun k id).length

/-- The worker would take a job in its turn. -/
def Ready (c : Course κ) (id : WorkerId) (k : Nat) : Prop :=
  ∃ w, (c.station k id).worker = some w ∧ Station.IsReady (c.state k).pool.isResolved w

theorem Waits.succ (h : c.Waits id n k) : c.Moves id n (k + 1) ∨ c.Waits id n (k + 1) := by
  have hadvances := c.advances_succ k id
  by_cases hclosed : c.Closes id n (k + 1)
  · exact .inl (.inl hclosed)
  · rw [Closes, not_and, not_not] at hclosed
    obtain ⟨added, hline⟩ := hadvances.line fun hc ↦ h.closed.mpr (hclosed hc)
    cases hbegins : c.begins k id with
    | nil =>
      rw [hbegins, List.nil_append] at hline
      refine .inr ⟨?_, ?_, hclosed, fun hc ↦ hadvances.closed (h.closed.mpr hc)⟩
      · rw [← hline]
        exact List.append_ne_nil_of_left_ne_nil h.line _
      · rw [begun_succ, hbegins, List.append_nil, h.begun]
    | cons first rest =>
      refine .inl (.inr ?_)
      rw [begun_succ, hbegins, List.length_append, h.begun, List.length_cons]
      omega

/-- The worker is there and takes jobs, if it has handed over nothing. -/
theorem Waits.exists_worker (h : c.Waits id n k) (hhanded : (c.station k id).handed = []) :
    ∃ w, (c.station k id).worker = some w ∧ w.isClosed = false ∧
      (c.station k id).line = w.queue := Station.exists_of_line h.line hhanded

theorem Waits.isClosed_eq_false (h : c.Waits id n k) (h' : c.Waits id n (k + 1))
    {w w' : SerialWorker (Inquiry κ)} (hw : (c.station k id).worker = some w)
    (hopen : w.isClosed = false) (hw' : (c.station (k + 1) id).worker = some w') :
    w'.isClosed = false := by
  rw [← Bool.not_eq_true]
  intro hclosed
  obtain ⟨v, hv, hv'⟩ := h.closed.mpr (h'.closed.mp ⟨w', hw', hclosed⟩)
  rw [hw] at hv
  obtain rfl := Option.some.inj hv
  rw [hopen] at hv'
  cases hv'

theorem IsFair.handed_of_ready (hfair : c.IsFair) {m : Nat} (hwaits : c.Waits id n m)
    (hready : c.Ready id m) :
    ∃ k, m ≤ k ∧ (c.Moves id n k ∨ ∃ job, (c.station k id).handed.head? = some job) := by
  obtain hq | ⟨k, hle, ⟨hwaits, w, hw, hready⟩, hturn⟩ :=
    exists_or_turn (P := fun k ↦ c.Waits id n k ∧ c.Ready id k) (Q := fun k ↦ c.Moves id n k)
      (hfair.poll id m) ⟨hwaits, hready⟩ fun k ⟨hwaits, w, hw, hready⟩ hne ↦ by
        refine hwaits.succ.imp_right fun hwaits' ↦ ⟨hwaits', ?_⟩
        have hnil := ((c.sound k).station id).eq_nil_of_ready hw hready
        have hextends := (c.goes k).extends_of_idle id (fun h ↦ absurd h hne)
          (fun _ ↦ hnil.1) fun _ ↦ hnil.2
        obtain ⟨w', hw', -, hconsumer, -, -⟩ := hextends.worker w hw
        refine ⟨w', hw', hwaits.isClosed_eq_false hwaits' hw hready.1 hw', ?_⟩
        rw [hconsumer]
        refine hready.2.imp_right ?_
        rintro ⟨t, hc, hresolved⟩
        have hknown := ((c.sound k).linked.awaited id t ⟨w, hw, hc⟩).1
        exact ⟨t, hc, ((c.goes k).settles (c.sound k) t hknown).2 hresolved⟩
  · obtain ⟨k, hle, hmoves⟩ := hq
    exact ⟨k, hle, .inl hmoves⟩
  · have hnil := ((c.sound k).station id).eq_nil_of_ready hw hready
    obtain ⟨v, hv, -, hline⟩ := hwaits.exists_worker hnil.1
    obtain rfl := Option.some.inj (hw.symm.trans hv)
    obtain ⟨job, rest, hqueue⟩ := List.exists_cons_of_ne_nil (hline ▸ hwaits.line)
    have hgoes := c.goes k
    rw [hturn] at hgoes
    have hpolled : c.station (k + 1) id =
        ((c.station k id).polled (c.state k).pool.isResolved).2 :=
      (hgoes.station_turn id).trans
        (((c.state k).pool.station_poll id id).trans (if_pos rfl))
    have hhanded := (Station.polled_spec _ _).handed_of_ready hw hready hqueue
    refine ⟨k + 1, Nat.le_succ_of_le hle, .inr ⟨job, ?_⟩⟩
    rw [hpolled, hhanded, hnil.1]
    rfl

theorem IsFair.ready_of_running (hfair : c.IsFair) {m : Nat} (hwaits : c.Waits id n m)
    (hrunning : (c.station m id).running ≠ []) :
    ∃ k, m ≤ k ∧ (c.Moves id n k ∨ c.Waits id n k ∧ c.Ready id k) := by
  obtain ⟨k, hle, hmoves⟩ | ⟨k, hle, ⟨hwaits, hrunning⟩, hturn⟩ :=
    exists_or_turn (P := fun k ↦ c.Waits id n k ∧ (c.station k id).running ≠ [])
      (Q := fun k ↦ c.Moves id n k)
      (hfair.finish id m) ⟨hwaits, hrunning⟩ fun k ⟨hwaits, hrunning⟩ hne ↦ by
        have hocc := ((c.sound k).station id).toOccupied
        have hextends := (c.goes k).extends_of_idle id
          (fun _ ↦ Station.polled_of_isBusy (hocc.isBusy_of_ne_nil (.inr hrunning)) _)
          (fun _ ↦ hocc.handed_eq_nil hrunning) fun h ↦ absurd h hne
        exact hwaits.succ.imp_right fun hwaits' ↦ ⟨hwaits', by rwa [hextends.running]⟩
  · exact ⟨k, hle, .inl hmoves⟩
  · have hhanded := ((c.sound k).station id).handed_eq_nil hrunning
    obtain ⟨w, hw, hopen, -⟩ := hwaits.exists_worker hhanded
    have hgoes := c.goes k
    rw [hturn] at hgoes
    have hfinished : c.station (k + 1) id = (c.station k id).finished :=
      (hgoes.station_turn id).trans (((c.state k).pool.station_finish id id).trans (if_pos rfl))
    refine ⟨k + 1, Nat.le_succ_of_le hle, hwaits.succ.imp_right fun hwaits' ↦ ⟨hwaits', ?_⟩⟩
    refine ⟨w.finish, ?_, hopen, .inl rfl⟩
    rw [hfinished, Station.finished, if_neg hrunning]
    exact congrArg (Option.map _) hw

/-! ## A worker that waits for a signal -/

/-- A signal stays in its line until it begins. -/
theorem exists_or_signalsIn {t : SignalId} (hmem : t ∈ (c.state n).pool.signalsIn id)
    (hle : n ≤ k) :
    (∃ j, n ≤ j ∧ .signal t ∈ c.begins j id) ∨ t ∈ (c.state k).pool.signalsIn id := by
  induction k, hle using Nat.le_induction with
  | base => exact .inr hmem
  | succ k hle ih =>
    obtain hbegun | hmem := ih
    · exact .inl hbegun
    · exact ((c.goes k).signalsIn (c.sound k) (c.sound (k + 1)) hmem).imp_left fun h ↦ ⟨k, hle, h⟩

/-- A signal that begins need not be waited for any more. -/
theorem isResolved_of_begins {t : SignalId} (h : .signal t ∈ c.begins k id) :
    (c.state (k + 1)).pool.isResolved t = true := by
  have hgoes := c.goes k
  rw [begins] at h
  cases hturn : c.turn k with
  | none => rw [hturn] at h; cases h
  | some move =>
    rw [hturn] at h hgoes
    cases hgoes with
    | turn hmove hpool =>
      rw [hpool, ← Bool.not_eq_false]
      cases move with
      | begin i =>
        cases hbegin : (c.state k).pool.begin? i with
        | none => rw [starts, hbegin] at h; cases h
        | some found =>
          obtain ⟨job, pool⟩ := found
          rw [starts, hbegin, Option.map_some, Option.toList_some, jobsAt_single] at h
          split at h
          · rw [begin_of_some hbegin]
            intro hpending
            exact ((pending_begun hbegin t).mp hpending).1 (List.mem_singleton.mp h).symm
          · cases h
      | _ => cases h

/-- A worker that waits for a signal has handed over nothing, and takes jobs. -/
theorem Waits.of_awaits (h : c.Waits id n k) {t : SignalId} (hawaits : (c.station k id).Awaits t) :
    (c.station k id).handed = [] ∧ (c.station k id).running = [] ∧
      ∃ w, (c.station k id).worker = some w ∧ w.isClosed = false ∧ w.consumer = .waiting t := by
  have hnil := ((c.sound k).station id).eq_nil_of_awaits hawaits
  obtain ⟨w, hw, hc⟩ := hawaits
  obtain ⟨v, hv, hopen, -⟩ := h.exists_worker hnil.1
  obtain rfl := Option.some.inj (hw.symm.trans hv)
  exact ⟨hnil.1, hnil.2, w, hw, hopen, hc⟩

theorem Waits.ready_of_resolved (h : c.Waits id n k) {t : SignalId}
    (hawaits : (c.station k id).Awaits t) (hresolved : (c.state k).pool.isResolved t = true) :
    c.Ready id k := by
  obtain ⟨-, -, w, hw, hopen, hc⟩ := h.of_awaits hawaits
  exact ⟨w, hw, hopen, .inr ⟨t, hc, hresolved⟩⟩

/-- A worker that waits for a signal goes on waiting for it, until it is ready. -/
theorem Waits.awaits_succ (h : c.Waits id n k) {t : SignalId} (hawaits : (c.station k id).Awaits t)
    (hpending : (c.state k).pool.isResolved t = false) :
    (c.station (k + 1) id).Awaits t := by
  obtain ⟨hhanded, hrunning, w, hw, hopen, hc⟩ := h.of_awaits hawaits
  have hextends := (c.goes k).extends_of_idle id (fun _ ↦ ?_) (fun _ ↦ hhanded)
    fun _ ↦ hrunning
  · obtain ⟨w', hw', -, hconsumer, -⟩ := hextends.worker w hw
    exact ⟨w', hw', hconsumer.trans hc⟩
  · refine ((Station.polled_spec _ _).of_awaits hawaits hpending).resolve_right ?_
    rintro ⟨v, hv, hclosed⟩
    obtain rfl := Option.some.inj (hw.symm.trans hv)
    rw [hopen] at hclosed
    cases hclosed

/-- A worker whose signal is sure to begin gets ready. -/
theorem Waits.ready_of_awaits {m : Nat} (hwaits : c.Waits id n m) {t : SignalId}
    (hawaits : (c.station m id).Awaits t) (hbegins : ∃ j i, m ≤ j ∧ .signal t ∈ c.begins j i) :
    ∃ k, m ≤ k ∧ (c.Moves id n k ∨ c.Waits id n k ∧ c.Ready id k) := by
  cases hresolved : (c.state m).pool.isResolved t with
  | true => exact ⟨m, Nat.le_refl _, .inr ⟨hwaits, hwaits.ready_of_resolved hawaits hresolved⟩⟩
  | false =>
    obtain hq | hforever := exists_or_forall (n := m)
      (P := fun k ↦ c.Waits id n k ∧ (c.station k id).Awaits t ∧
        (c.state k).pool.isResolved t = false)
      (Q := fun k ↦ c.Moves id n k ∨ c.Waits id n k ∧ c.Ready id k) ⟨hwaits, hawaits, hresolved⟩
      fun k _ ⟨hwaits, hawaits, hpending⟩ ↦ by
        obtain hmoves | hwaits' := hwaits.succ
        · exact .inl (.inl hmoves)
        · have hawaits' := hwaits.awaits_succ hawaits hpending
          cases hresolved' : (c.state (k + 1)).pool.isResolved t with
          | true => exact .inl (.inr ⟨hwaits', hwaits'.ready_of_resolved hawaits' hresolved'⟩)
          | false => exact .inr ⟨hwaits', hawaits', rfl⟩
    · exact hq
    · obtain ⟨j, i, hle, hbegins⟩ := hbegins
      have hpending := (hforever (j + 1) (Nat.le_succ_of_le hle)).2.2
      rw [isResolved_of_begins hbegins] at hpending
      cases hpending

/-! ## Every job -/

/-- Of two ways to split a list, one part reaches beyond an element of the other, or not. -/
private theorem prefix_or_of_append_eq {β : Type} {front rest new line : List β} {b : β}
    (h : front ++ b :: rest = new ++ line) :
    front ++ [b] <+: new ∨ ∃ more, front = new ++ more ∧ line = more ++ b :: rest := by
  obtain ⟨more, hnew, hrest⟩ | ⟨more, hfront, hline⟩ := List.append_eq_append_iff.mp h
  · cases more with
    | nil => exact .inr ⟨[], by rw [hnew, List.append_nil, List.append_nil], hrest.symm⟩
    | cons first more =>
      obtain ⟨rfl, -⟩ := List.cons.inj hrest
      exact .inl ⟨more, by rw [hnew, List.append_assoc]; rfl⟩
  · exact .inr ⟨more, hfront, hline⟩

/-- If a worker moves whenever there is something in its line, then it comes to every job there. -/
private theorem begun_of_moves
    (hmoves : ∀ n, (c.station n id).line ≠ [] → ∃ k, n ≤ k ∧ c.Moves id n k)
    {front rest : List (Job (Inquiry κ))} {job : Job (Inquiry κ)}
    (hline : (c.station n id).line = front ++ job :: rest) :
    ∃ k, n ≤ k ∧ (c.Closes id n k ∨ c.begun n id ++ front ++ [job] <+: c.begun k id) := by
  -- the induction is on what stands before the job
  induction hlength : front.length using Nat.strongRecOn generalizing n front rest with
  | _ length ih =>
    subst hlength
    obtain ⟨k, hle, hmoved⟩ := hmoves n (by rw [hline]; simp)
    by_cases hcloses : c.Closes id n k
    · exact ⟨k, hle, .inl hcloses⟩
    obtain ⟨new, hbegun, hadvances, -⟩ := c.exists_begun id hle
    have hlonger := hmoved.resolve_left hcloses
    rw [Closes, not_and, not_not] at hcloses
    obtain ⟨added, hsplit⟩ := hadvances.line hcloses
    rw [hline, List.append_assoc, List.cons_append] at hsplit
    obtain hdone | ⟨more, rfl, hrest⟩ := prefix_or_of_append_eq hsplit
    · refine ⟨k, hle, .inr ?_⟩
      rw [hbegun, List.append_assoc]
      exact (List.prefix_append_right_inj _).mpr hdone
    · -- what has begun stood before the job, and there is less before it now
      rw [hbegun, List.length_append] at hlonger
      obtain ⟨k', hle', hmoved'⟩ :=
        ih more.length (by rw [List.length_append]; omega) hrest rfl
      refine ⟨k', Nat.le_trans hle hle', hmoved'.imp (fun h ↦ ⟨h.1, fun hc ↦ ?_⟩) fun h ↦ ?_⟩
      · exact h.2 (hadvances.closed hc)
      · rwa [hbegun, List.append_assoc (c.begun n id)] at h

/-- A signal begins in any case. -/
private theorem IsFair.begins_signal (hfair : c.IsFair)
    (hmoves : ∀ n, (c.station n id).line ≠ [] → ∃ k, n ≤ k ∧ c.Moves id n k) {t : SignalId}
    (hmem : t ∈ (c.state n).pool.signalsIn id) : ∃ j, n ≤ j ∧ .signal t ∈ c.begins j id := by
  obtain ⟨front, rest, hline⟩ := List.append_of_mem (mem_signalsOf.mp hmem)
  obtain ⟨k, hle, hcloses | hbegun⟩ := begun_of_moves hmoves hline
  · -- the worker is shut down, so what is left of its line was handed over
    obtain hbegins | hmem' := exists_or_signalsIn hmem hle
    · exact hbegins
    · have hhanded : .signal t ∈ (c.station k id).handed := by
        rw [← Station.line_of_isClosed hcloses.1]
        exact mem_signalsOf.mp hmem'
      have hhead : (c.station k id).handed.head? = some (.signal t) := by
        obtain ⟨first, more, hcons⟩ := List.exists_cons_of_ne_nil (List.ne_nil_of_mem hhanded)
        have hfirst : (c.station k id).handed.head? = some first := by rw [hcons]; rfl
        rw [(((c.sound k).station id).handed_eq hfirst).1, List.mem_singleton] at hhanded
        rw [hfirst, hhanded]
      obtain ⟨j, hle', hbegins⟩ := hfair.begins_of_handed hhead
      exact ⟨j, Nat.le_trans hle hle', hbegins ▸ List.mem_singleton.mpr rfl⟩
  · obtain ⟨new, hnew, -, hall⟩ := c.exists_begun id hle
    rw [hnew, List.append_assoc, List.prefix_append_right_inj] at hbegun
    exact hall _ (hbegun.subset (List.mem_append_right _ (List.mem_singleton.mpr rfl)))

private theorem IsFair.moves_of_handed (hfair : c.IsFair) {m : Nat} (hle : n ≤ m)
    {job : Job (Inquiry κ)} (hhead : (c.station m id).handed.head? = some job) :
    ∃ k, n ≤ k ∧ c.Moves id n k := by
  obtain ⟨j, hle', hbegins⟩ := hfair.begins_of_handed hhead
  have hn := Nat.le_trans hle hle'
  obtain ⟨new, hbegun, -⟩ := c.exists_begun id hn
  refine ⟨j + 1, Nat.le_succ_of_le hn, .inr ?_⟩
  rw [begun_succ, hbegins, hbegun, List.length_append, List.length_append, List.length_singleton]
  omega

private theorem IsFair.moves_of_ready (hfair : c.IsFair)
    (h : ∃ m, n ≤ m ∧ (c.Moves id n m ∨ c.Waits id n m ∧ c.Ready id m)) :
    ∃ k, n ≤ k ∧ c.Moves id n k := by
  obtain ⟨m, hle, hmoves | ⟨hwaits, hready⟩⟩ := h
  · exact ⟨m, hle, hmoves⟩
  · obtain ⟨k, hle', hmoves | ⟨job, hhead⟩⟩ := hfair.handed_of_ready hwaits hready
    · exact ⟨k, Nat.le_trans hle hle', hmoves⟩
    · exact hfair.moves_of_handed (Nat.le_trans hle hle') hhead

/-- **In a fair course every worker moves on** when there is something in its line. -/
theorem IsFair.moves (hfair : c.IsFair) (hline : (c.station n id).line ≠ []) :
    ∃ k, n ≤ k ∧ c.Moves id n k := by
  -- the induction is on the worker, as it may have to wait for one that was started earlier
  induction hindex : id.index using Nat.strongRecOn generalizing id n with
  | _ index ih =>
    subst hindex
    have hsound := (c.sound n).station id
    have hwaits : c.Waits id n n := ⟨hline, rfl, Iff.rfl⟩
    cases hhanded : (c.station n id).handed with
    | cons first more => exact hfair.moves_of_handed (Nat.le_refl n) (by rw [hhanded]; rfl)
    | nil =>
      by_cases hrunning : (c.station n id).running = []
      · obtain ⟨w, hw, hopen, hqueue⟩ := hwaits.exists_worker hhanded
        cases hc : w.consumer with
        | idle =>
          exact hfair.moves_of_ready ⟨n, Nat.le_refl n, .inr ⟨hwaits, w, hw, hopen, .inl hc⟩⟩
        | waiting t =>
          refine hfair.moves_of_ready ?_
          cases hresolved : (c.state n).pool.isResolved t with
          | true =>
            exact ⟨n, Nat.le_refl n, .inr ⟨hwaits, hwaits.ready_of_resolved ⟨w, hw, hc⟩ hresolved⟩⟩
          | false =>
            obtain ⟨i, hlt, hmem⟩ := ((c.sound n).linked.awaited id t ⟨w, hw, hc⟩).2 hresolved
            obtain ⟨j, hle, hbegins⟩ :=
              hfair.begins_signal (fun m hline ↦ ih i.index hlt hline rfl) hmem
            exact hwaits.ready_of_awaits ⟨w, hw, hc⟩ ⟨j, i, hle, hbegins⟩
        | busy =>
          have hocc := hsound.occupied
          rw [hhanded, hrunning, if_pos (by simp [Station.isBusy, hw, hc])] at hocc
          cases hocc
        | stopped =>
          obtain hclosed | ⟨-, hnil⟩ := hsound.stopped w hw hc
          · rw [hopen] at hclosed
            cases hclosed
          · exact absurd (hqueue.trans hnil) hline
      · exact hfair.moves_of_ready (hfair.ready_of_running hwaits hrunning)

/-- **In a fair course every job gets its turn**: it begins after those before it in its line,
unless its worker is shut down. -/
theorem IsFair.reaches (hfair : c.IsFair) {front rest : List (Job (Inquiry κ))}
    {job : Job (Inquiry κ)} (hline : (c.station n id).line = front ++ job :: rest) :
    ∃ k, n ≤ k ∧ (c.Closes id n k ∨ c.begun n id ++ front ++ [job] <+: c.begun k id) :=
  begun_of_moves (fun _ hline ↦ hfair.moves hline) hline

end Course

end CodeHints
