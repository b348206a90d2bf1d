import CodeHints.Proofs.Workbench.Sound
import Mathlib.Data.List.Nodup

/-!
# What a worker promises

Those who submit jobs to a worker may rely on the following, whatever else they and others do and
whenever they do it. Jobs are run one at a time and in the order of their submissions, and none of
them is run twice. No job gets lost, unless the worker is shut down, and whoever waits for the value
of a job learns what has become of this job and of no other one.

After a shutdown the current job of the worker goes on, and no other one begins. The current job is
the one that the consumer has taken out of the queue. It may not have begun yet, and then it begins
after the shutdown.

## Rest

A job may run as long as it likes, so nothing can be said about the time at which a job is run. But
in every state the worker and its job can only go on for a bounded number of moves if nobody else
does anything, and then they are at rest. So what holds whenever they are at rest is what will have
become of the jobs in the end.
-/

namespace CodeHints

namespace Station

variable {α : Type} {isResolved : SignalId → Bool} {st st' : Station α} {dropped : List (Job α)}
  {w : SerialWorker α}

/-- The consumer of a worker that was shut down takes no job. -/
theorem Polled.handed_of_closed (h : Polled isResolved st dropped st') (hw : st.worker = some w)
    (hclosed : w.isClosed = true) : st'.handed = st.handed := by
  cases h with
  | took v hv ready job rest hq =>
    obtain rfl := Option.some.inj (hv.symm.trans hw)
    rw [ready.1] at hclosed
    cases hclosed
  | _ => rfl

end Station

namespace Workbench

variable {β : Type} {s s' s'' : Workbench β} {e : BenchEvent β}

/-! ## Moves of the worker -/

/-- The worker or its job can go on in this way. -/
def CanMove (s : Workbench β) : BenchEvent β → Prop
  | .poll => s.pool.isRunnable worker = true
  | .begin => s.station.handed ≠ []
  | .finish _ => s.station.running ≠ []
  | _ => False

/-- The worker and its job go on by themselves, in these moves. -/
def Moves : Workbench β → List (BenchEvent β) → Prop
  | _, [] => True
  | s, e :: events => s.CanMove e ∧ (s.step e).Moves events

/-- Nothing happens unless somebody does something. -/
def AtRest (s : Workbench β) : Prop := ∀ e, ¬s.CanMove e

theorem Sound.effort_step_lt (h : s.Sound) (hmove : s.CanMove e) :
    (s.step e).station.effort < s.station.effort := by
  obtain ⟨w, hw⟩ := h.known
  cases e with
  | poll =>
    have hworker : s.pool.worker? worker = some w := hw
    have hstation : (s.step .poll).station = (s.station.polled s.pool.isResolved).2 :=
      (s.pool.station_poll worker worker).trans (if_pos rfl)
    rw [CanMove, WorkerPool.isRunnable, hworker] at hmove
    rw [hstation]
    exact (s.station.polled_spec s.pool.isResolved).effort_lt hw hmove
  | begin =>
    obtain ⟨job, rest, hhanded⟩ := List.exists_cons_of_ne_nil hmove
    obtain ⟨pool, hbegin⟩ := WorkerPool.begin?_of_handed hhanded
    have hstep : s.step .begin = { s with pool := pool, begun := s.begun ++ [job] } := by
      rw [Workbench.step, Workbench.begin, hbegin]
    obtain ⟨-, hstation, -⟩ := WorkerPool.begin?_spec hbegin
    have hbegun : pool.station worker =
        { s.station with handed := [], running := s.station.running ++ [job] } :=
      (hstation worker).trans (if_pos rfl)
    rw [hstep, Workbench.station, hbegun]
    exact Station.effort_begun_lt hmove job
  | finish result =>
    obtain ⟨job, rest, hrunning⟩ := List.exists_cons_of_ne_nil hmove
    have hstep : (s.step (.finish result)).pool = s.pool.finish worker := by
      rw [Workbench.step, Workbench.finish, hrunning]
    have hstation : (s.step (.finish result)).station = s.station.finished := by
      rw [Workbench.station, hstep]
      exact s.station_finish
    rw [hstation]
    exact Station.effort_finished_lt h.station.toOccupied hmove
  | _ => exact hmove.elim

theorem Sound.length_le_effort (h : s.Sound) {moves : List (BenchEvent β)}
    (hmoves : s.Moves moves) : moves.length ≤ s.station.effort := by
  induction moves generalizing s with
  | nil => exact Nat.zero_le _
  | cons e moves ih =>
    have hlt := h.effort_step_lt hmoves.1
    have hle := ih (h.step e) hmoves.2
    rw [List.length_cons]
    omega

theorem Sound.effort_le (h : s.Sound) : s.station.effort ≤ 3 * s.accepted.length + 2 := by
  obtain ⟨w, hw⟩ := h.known
  have hwhole := congrArg List.length h.whole
  have hledger := congrArg List.length h.ledger
  have hturns := w.consumer.turns_le
  rw [Station.queue_eq hw] at hwhole
  rw [Station.effort_eq hw]
  simp only [List.length_append, List.length_map] at hwhole hledger
  omega

/-- Left to itself, a worker comes to rest. -/
theorem Sound.exists_atRest (h : s.Sound) : ∃ moves, s.Moves moves ∧ (s.run moves).AtRest := by
  induction heffort : s.station.effort using Nat.strongRecOn generalizing s with
  | ind n ih =>
    by_cases hrest : s.AtRest
    · exact ⟨[], trivial, hrest⟩
    · obtain ⟨e, hmove⟩ := not_forall_not.mp hrest
      obtain ⟨moves, hmoves, hrest⟩ :=
        ih _ (heffort ▸ h.effort_step_lt hmove) (h.step e) rfl
      exact ⟨e :: moves, ⟨hmove, hmoves⟩, hrest⟩

/-! ## What lasts -/

/-- What a later state has in common with an earlier one. -/
structure Lasting (s s' : Workbench β) : Prop where
  accepted : s.accepted <+: s'.accepted
  begun : s.begun <+: s'.begun
  ended : s.ended <+: s'.ended
  /-- A shutdown is for good. -/
  closed : s.isClosed = true → s'.isClosed = true ∧ s'.accepted = s.accepted
  /-- After a shutdown nothing begins but what the consumer had taken before. -/
  taken : s.isClosed = true →
    s'.begun ++ s'.station.handed = s.begun ++ s.station.handed

namespace Lasting

theorem refl (s : Workbench β) : s.Lasting s :=
  ⟨List.prefix_refl _, List.prefix_refl _, List.prefix_refl _, fun h ↦ ⟨h, rfl⟩, fun _ ↦ rfl⟩

theorem trans (h : s.Lasting s') (h' : s'.Lasting s'') : s.Lasting s'' := by
  refine ⟨h.accepted.trans h'.accepted, h.begun.trans h'.begun, h.ended.trans h'.ended, ?_, ?_⟩
  · intro hclosed
    obtain ⟨hclosed', hsame⟩ := h.closed hclosed
    obtain ⟨hclosed'', hsame'⟩ := h'.closed hclosed'
    exact ⟨hclosed'', hsame'.trans hsame⟩
  · exact fun hclosed ↦ (h'.taken (h.closed hclosed).1).trans (h.taken hclosed)

end Lasting

theorem Sound.lasting (h : s.Sound) (hchange : s.Change s') : s.Lasting s' := by
  obtain ⟨w, hw⟩ := h.known
  cases hchange with
  | handled pool f hstation _ _ _ hclosed _ =>
    have hworker : (pool.station worker).worker = some (f w) := by
      rw [hstation, Station.mapWorker, hw]
      rfl
    have hhanded : (pool.station worker).handed = s.station.handed := by rw [hstation]; rfl
    refine ⟨List.prefix_refl _, List.prefix_refl _, List.prefix_refl _, fun hc ↦ ⟨?_, rfl⟩,
      fun _ ↦ congrArg (s.begun ++ ·) hhanded⟩
    rw [isClosed_eq hworker]
    exact hclosed w ((isClosed_eq hw).symm.trans hc)
  | accepted pool promises job v hv hopen =>
    have hnot : s.isClosed ≠ true := by
      rw [isClosed_eq hv, hopen]
      exact Bool.false_ne_true
    exact ⟨List.prefix_append _ _, List.prefix_refl _, List.prefix_refl _, fun hc ↦ absurd hc hnot,
      fun hc ↦ absurd hc hnot⟩
  | polled pool dropped hpolled _ =>
    have hsame : Workbench.isClosed { s with pool := pool } = s.isClosed :=
      isClosed_of_face hpolled.face_eq
    refine ⟨List.prefix_refl _, List.prefix_refl _, List.prefix_refl _,
      fun hc ↦ ⟨hsame.trans hc, rfl⟩, fun hc ↦ ?_⟩
    exact congrArg (s.begun ++ ·) (hpolled.handed_of_closed hw ((isClosed_eq hw).symm.trans hc))
  | begun pool job hhead hstation _ =>
    have hworker : (pool.station worker).worker = some w := by rw [hstation]; exact hw
    have hhanded : (pool.station worker).handed = [] := by rw [hstation]
    refine ⟨List.prefix_refl _, List.prefix_append _ _, List.prefix_refl _, fun hc ↦ ⟨?_, rfl⟩,
      fun _ ↦ ?_⟩
    · rw [isClosed_eq hworker, ← isClosed_eq hw]
      exact hc
    · change s.begun ++ [job] ++ (pool.station worker).handed = _
      rw [hhanded, (h.station.handed_eq hhead).1, List.append_nil]
  | finished job rest result hrunning =>
    have hstation := s.station_finish
    have hsame : Workbench.isClosed { s with pool := s.pool.finish worker } = s.isClosed :=
      isClosed_of_face ((congrArg Station.face hstation).trans s.station.finished_face)
    have hhanded : ((s.pool.finish worker).station worker).handed = s.station.handed := by
      rw [hstation, Station.handed_finished]
    exact ⟨List.prefix_refl _, List.prefix_refl _, List.prefix_append _ _,
      fun hc ↦ ⟨hsame.trans hc, rfl⟩, fun _ ↦ congrArg (s.begun ++ ·) hhanded⟩

theorem Sound.lasting_run (h : s.Sound) (events : List (BenchEvent β)) :
    s.Lasting (s.run events) := by
  induction events generalizing s with
  | nil => exact .refl s
  | cons e events ih => exact (h.lasting (s.change_step e)).trans (ih (h.step e))

/-! ## The contract -/

/-- What a worker promises to those who submit jobs. -/
structure Honours (s : Workbench β) : Prop where
  /-- At most one job is being run. -/
  alone : s.station.running.length ≤ 1
  /-- What has begun was accepted before everything that has not. -/
  inOrder : s.begun <+: s.accepted
  /-- No job is accepted twice, so that none is begun twice. -/
  once : s.accepted.Nodup
  /-- What has begun has ended, or is being run. -/
  ledger : s.begun = s.ended.map (·.1) ++ s.station.running
  /-- A worker does not see how a job has ended. -/
  indifferent : ∀ payload b,
    (s.step (.finish (.error payload))).pool = (s.step (.finish (.ok b))).pool
  /-- Nothing is dropped without a shutdown. -/
  keeps : s.isClosed = false →
    s.dropped = [] ∧ s.accepted = s.begun ++ s.station.handed ++ s.station.queue
  accepts : s.isClosed = false →
    (∃ s', s.submit = .ok s' ∧
      s'.accepted = s.accepted ++ [.task (.plain s.accepted.length)]) ∧
    ∃ s', s.call = .ok (s.promises.next, s') ∧
      s'.accepted = s.accepted ++ [.task (.call s.promises.next)]
  refuses : s.isClosed = true →
    s.submit = .error .closed ∧ s.call = .error .closed ∧ s.step .submit = s ∧ s.step .call = s
  /-- Who waits for a value gets that of the own job, or learns that there will be none. -/
  yields : ∀ id, .task (.call id) ∈ s.accepted →
    (∀ b, (s.promises.take id).1 = .value b ↔ (.task (.call id), .ok b) ∈ s.ended) ∧
    ((s.promises.take id).1 = .closed ↔
      (∃ payload, (.task (.call id), .error payload) ∈ s.ended) ∨ .task (.call id) ∈ s.dropped)
  /-- What is dropped has not begun. -/
  unrun : ∀ job ∈ s.dropped, job ∉ s.begun
  /-- Left to itself, the worker comes to rest, and it does so soon. -/
  rests : ∃ moves, s.Moves moves ∧ (s.run moves).AtRest
  settles : ∀ moves, s.Moves moves → moves.length ≤ 3 * s.accepted.length + 2
  /-- At rest all jobs have ended. -/
  serves : s.AtRest → s.isClosed = false → s.IsHeldUp ∨ s.ended.map (·.1) = s.accepted
  /-- At rest after a shutdown every job has ended or was dropped. -/
  clears : s.AtRest → s.isClosed = true → s.accepted = s.ended.map (·.1) ++ s.dropped

theorem take_fst (promises : Promises β) (id : PromiseId) :
    (promises.take id).1 = promises.get id := by
  rw [Promises.take]
  split
  · next h => exact h.symm
  · rfl

namespace Sound

theorem eq_of_ended (h : s.Sound) {job : Job Commission} {result other : Except Payload β}
    (hresult : (job, result) ∈ s.ended) (hother : (job, other) ∈ s.ended) : result = other := by
  have hdistinct := h.distinct
  rw [h.whole, h.ledger] at hdistinct
  have hkeys := (List.nodup_append.mp (List.nodup_append.mp hdistinct).1).1
  exact congrArg Prod.snd (List.inj_on_of_nodup_map hkeys hresult hother rfl)

theorem not_mem_of_ended (h : s.Sound) {job : Job Commission} {result : Except Payload β}
    (hended : (job, result) ∈ s.ended) :
    job ∉ s.station.running ++ (s.station.handed ++ (s.station.queue ++ s.dropped)) := by
  have hdistinct := h.distinct
  rw [h.whole, h.ledger, List.append_assoc] at hdistinct
  exact fun hmem ↦ (List.nodup_append.mp hdistinct).2.2 job
    (List.mem_map_of_mem hended) job hmem rfl

theorem not_mem_of_dropped (h : s.Sound) {job : Job Commission} (hdropped : job ∈ s.dropped) :
    job ∉ s.begun ++ (s.station.handed ++ s.station.queue) := by
  have hdistinct := h.distinct
  rw [h.whole, ← List.append_assoc, ← List.append_assoc, List.append_assoc s.begun] at hdistinct
  exact fun hmem ↦ (List.nodup_append.mp hdistinct).2.2 job hmem job hdropped rfl

theorem yields (h : s.Sound) {id : PromiseId} (hid : .task (.call id) ∈ s.accepted) :
    (∀ b, s.promises.get id = .value b ↔ (.task (.call id), .ok b) ∈ s.ended) ∧
    (s.promises.get id = .closed ↔
      (∃ payload, (.task (.call id), .error payload) ∈ s.ended) ∨
        .task (.call id) ∈ s.dropped) := by
  have hnotDropped {result : Except Payload β} (hended : (.task (.call id), result) ∈ s.ended) :
      .task (.call id) ∉ s.dropped := fun hmem ↦ h.not_mem_of_ended hended
    (List.mem_append_right _ (List.mem_append_right _ (List.mem_append_right _ hmem)))
  cases h.fates id hid with
  | ended result hended hget =>
    have hsame {other : Except Payload β} :
        (.task (.call id), other) ∈ s.ended ↔ result = other :=
      ⟨h.eq_of_ended hended, fun heq ↦ heq ▸ hended⟩
    rw [hget]
    cases result with
    | ok b => simp [hsame, hnotDropped hended, TaskEnd.ofResult, Promise.ofEnd]
    | error payload => simp [hsame, TaskEnd.ofResult, Promise.ofEnd]
  | dropped hdropped hget =>
    have hnotEnded (result : Except Payload β) : (.task (.call id), result) ∉ s.ended :=
      fun hended ↦ hnotDropped hended hdropped
    rw [hget]
    simp [hnotEnded, hdropped]
  | pending hpending hget =>
    have hnotEnded (result : Except Payload β) : (.task (.call id), result) ∉ s.ended := by
      refine fun hended ↦ h.not_mem_of_ended hended ?_
      rw [← List.append_assoc s.station.handed, ← List.append_assoc]
      exact List.mem_append_left _ hpending
    have hdropped : .task (.call id) ∉ s.dropped := by
      refine fun hmem ↦ h.not_mem_of_dropped hmem ?_
      rw [h.ledger, List.append_assoc]
      exact List.mem_append_right _ hpending
    rw [hget]
    simp [hnotEnded, hdropped]

theorem eq_nil_of_atRest (h : s.Sound) (hrest : s.AtRest) :
    s.begun = s.ended.map (·.1) ∧ s.station.handed = [] ∧ s.station.isBusy = false := by
  have hhanded : s.station.handed = [] := not_not.mp (hrest .begin)
  have hrunning : s.station.running = [] := not_not.mp (hrest (.finish (.error .unreadable)))
  have hoccupied := h.station.occupied
  refine ⟨?_, hhanded, ?_⟩
  · rw [h.ledger, hrunning, List.append_nil]
  · rw [hhanded, hrunning] at hoccupied
    cases hbusy : s.station.isBusy with
    | false => rfl
    | true => simp [hbusy] at hoccupied

/-- At rest nothing is in the queue, unless the consumer has not started yet. -/
theorem queue_of_atRest (h : s.Sound) (hrest : s.AtRest) :
    s.station.queue = [] ∨ s.isClosed = false ∧ s.IsHeldUp := by
  obtain ⟨w, hw⟩ := h.known
  obtain ⟨-, -, hbusy⟩ := h.eq_nil_of_atRest hrest
  have hworker : s.pool.worker? worker = some w := hw
  have hpoll : w.isRunnable s.pool.isResolved = false := by
    have hpoll := hrest .poll
    rw [CanMove, WorkerPool.isRunnable, hworker] at hpoll
    exact Bool.not_eq_true _ ▸ hpoll
  rw [Station.queue_eq hw, isClosed_eq hw]
  rw [SerialWorker.isRunnable] at hpoll
  cases hc : w.consumer with
  | waiting signal =>
    rw [hc, Bool.or_eq_false_iff] at hpoll
    exact .inr ⟨hpoll.1, signal, ⟨w, hw, hc⟩, hpoll.2⟩
  | idle =>
    rw [hc, Bool.or_eq_false_iff, Bool.or_eq_false_iff] at hpoll
    exact .inl (List.isEmpty_iff.mp (Bool.not_eq_false' _ ▸ hpoll.1.2))
  | busy => simp [Station.isBusy, hw, hc] at hbusy
  | stopped => exact .inl (h.emptied w hw hc)

/-- What holds after every event makes up the contract. -/
theorem honours (h : s.Sound) : s.Honours := by
  obtain ⟨w, hw⟩ := h.known
  have hworker : s.pool.worker? worker = some w := hw
  have hkept (hopen : s.isClosed = false) : s.dropped = [] := by
    refine h.kept.resolve_right fun hcut ↦ ?_
    rw [hopen] at hcut
    cases hcut.1
  refine
    { alone := h.station.running_le, inOrder := ⟨_, h.whole.symm⟩, once := h.distinct,
      ledger := h.ledger, indifferent := ?indifferent, keeps := ?keeps, accepts := ?accepts,
      refuses := ?refuses, yields := ?yields, unrun := ?unrun, rests := h.exists_atRest,
      settles := fun moves hmoves ↦ Nat.le_trans (h.length_le_effort hmoves) h.effort_le,
      serves := ?serves, clears := ?clears }
  case indifferent =>
    intro payload b
    rw [Workbench.step, Workbench.step, Workbench.finish, Workbench.finish]
    cases s.station.running <;> rfl
  case keeps =>
    intro hopen
    refine ⟨hkept hopen, ?_⟩
    rw [h.whole, hkept hopen, List.append_nil, List.append_assoc]
  case accepts =>
    intro hopen
    have hsubmit (job : Job Commission) : ∃ pool, s.pool.submit worker job = .ok pool :=
      WorkerPool.submit_of_open hworker ((isClosed_eq hw).symm.trans hopen) job
    obtain ⟨pool, hpool⟩ := hsubmit (.task (.plain s.accepted.length))
    obtain ⟨pool', hpool'⟩ := hsubmit (.task (.call s.promises.next))
    refine ⟨⟨_, by rw [submit, hpool]; rfl, rfl⟩, ⟨_, by rw [call, hpool']; rfl, rfl⟩⟩
  case refuses =>
    intro hclosed
    have hsubmit (job : Job Commission) : s.pool.submit worker job = .error .closed := by
      obtain ⟨-, hrefused⟩ | ⟨hopen, -⟩ := submit_spec hw job
      · exact hrefused
      · rw [isClosed_eq hw, hopen] at hclosed
        cases hclosed
    have hsubmit' : s.submit = .error .closed := by rw [submit, hsubmit]; rfl
    have hcall : s.call = .error .closed := by rw [call, hsubmit]; rfl
    refine ⟨hsubmit', hcall, ?_, ?_⟩
    · rw [Workbench.step, hsubmit', withHandle]
      exact ite_self _
    · rw [Workbench.step, hcall, withHandle]
      exact ite_self _
  case yields =>
    intro id hid
    rw [take_fst]
    exact h.yields hid
  case unrun =>
    exact fun job hdropped hbegun ↦ h.not_mem_of_dropped hdropped (List.mem_append_left _ hbegun)
  case serves =>
    intro hrest hopen
    obtain ⟨hended, hhanded, -⟩ := h.eq_nil_of_atRest hrest
    refine (h.queue_of_atRest hrest).symm.imp (·.2) fun hqueue ↦ ?_
    rw [h.whole, hhanded, hqueue, hkept hopen, hended]
    exact (List.append_nil _).symm
  case clears =>
    intro hrest hclosed
    obtain ⟨hended, hhanded, -⟩ := h.eq_nil_of_atRest hrest
    have hqueue : s.station.queue = [] := by
      refine (h.queue_of_atRest hrest).resolve_right fun hup ↦ ?_
      rw [hclosed] at hup
      cases hup.1
    rw [h.whole, hhanded, hqueue, hended]
    rfl

end Sound

/-- **The contract of a worker.** Jobs are submitted with or without somebody who waits for the
value, they end or break down, handles are taken and released, and the worker may be shut down, all
of it in any order. Then the worker has kept what `Honours` says, and what it has done and what was
decided lasts: in particular, after a shutdown nothing is accepted any more, and nothing begins but
the job that the consumer had taken. -/
theorem run_honours (name : String) (waits : Bool) (events more : List (BenchEvent β)) :
    ((start name waits).run events).Honours ∧
      Lasting ((start name waits).run events) ((start name waits).run (events ++ more)) := by
  have h := (sound_start (β := β) name waits).run events
  rw [run_append]
  exact ⟨h.honours, h.lasting_run more⟩

/-- A job that was taken before a shutdown may begin after it. -/
theorem begins_after_shutdown :
    let s : Workbench Unit := (start "worker" false).run [.submit, .poll, .shutdown]
    s.isClosed = true ∧ s.begun = [] ∧ (s.step .begin).begun = [.task (.plain 0)] :=
  ⟨rfl, rfl, rfl⟩

end Workbench

end CodeHints
