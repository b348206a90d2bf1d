import CodeHints.Proofs.Activity.Ahead

/-!
# What a shutdown does not reach

A shutdown takes back every timer, forgets the workers of all windows and stops them. So the job of
a request that was held back, or that was in the queue of such a worker, will never begin, and it
might seem that nothing begins any more.

Three kinds of requests `Escapes`, though. The timer of a request may have fired before, and the
request goes on to look up a worker, which is then started anew. A job may have been handed over
already, and begins no matter what becomes of its worker. And an invalidation lets workers go: the
registry does not know them any more, but they are open, and they go on with what is in their
queues and take what is submitted to them. `begins_after_shutdown_iff` says that it is exactly these
requests whose jobs begin after a shutdown, if nobody makes a request any more.
-/

namespace CodeHints

variable {κ : Type}

namespace Activity

variable {s : Activity κ} {inquiry : Inquiry κ}

/-- A shutdown does not reach the request. -/
def Escapes (s : Activity κ) (inquiry : Inquiry κ) : Prop :=
  inquiry ∈ s.fired ∨ s.workforce.Escapes inquiry

theorem ahead_shutdownRequests :
    (s.step .shutdownRequests).Ahead inquiry ↔ s.Escapes inquiry := by
  have htasks : inquiry ∉ (s.step .shutdownRequests).pipeline.debouncer.tasks := List.not_mem_nil
  rw [Ahead, or_iff_right htasks]
  exact or_congr_right s.workforce.pends_shutdown

theorem ahead_shutdown : (s.step .shutdown).Ahead inquiry ↔
    if s.pipeline.isShutDown then s.Ahead inquiry else s.Escapes inquiry := by
  cases hdown : s.pipeline.isShutDown with
  | true => rw [step_shutdown_of_true hdown, if_pos rfl]
  | false =>
    rw [step_shutdown_of_false hdown, if_neg Bool.false_ne_true]
    exact ahead_shutdownRequests

/-! ## Who calls the analyzer -/

/-- The errand is what has become of one of those that were there, or it answers a request whose
job has begun meanwhile. -/
def StemsFrom (s : Activity κ) (begun : List (Inquiry κ)) (e : Errand κ) : Prop :=
  (∃ e' ∈ s.errands, e.job = e'.job ∧ e.consultation.ask = e'.consultation.ask) ∨
    ∃ inquiry ∈ begun, e.consultation.ask = inquiry.ask

/-- Only errands call the analyzer, and without a request only jobs that begin bring new ones. -/
theorem Sound.stemsFrom_run (h : s.Sound) {moves : List (ActivityMove κ)}
    (hsilent : ∀ move ∈ moves, ActivityMove.IsSilent move) {e : Errand κ}
    (he : e ∈ (s.run moves).errands) : s.StemsFrom (s.begunIn moves) e := by
  induction moves generalizing s with
  | nil => exact .inl ⟨e, he, rfl, rfl⟩
  | cons move moves ih =>
    rw [List.forall_mem_cons] at hsilent
    -- it stems from an errand that was there after the first move, or from a job that began later
    obtain ⟨e', he', hjob, hask⟩ | ⟨inquiry, hbegun, hask⟩ := ih (h.step move) hsilent.2 he
    · obtain (⟨id, inquiry, hbegins, rfl⟩ | ⟨ask, rfl, -⟩) | ⟨e'', he'', hcontinues⟩ :=
        (h.step_spec move).2.errands e' he'
      · exact .inr ⟨inquiry, List.mem_append_left _ hbegins, hask⟩
      · exact hsilent.1.elim
      · exact .inl ⟨e'', he'', hjob.trans hcontinues.job, hask.trans hcontinues.ask⟩
    · exact .inr ⟨inquiry, List.mem_append_right _ hbegun, hask⟩

/-! ## After a shutdown -/

inductive IsShutdown : ActivityMove κ → Prop
  | requests : IsShutdown .shutdownRequests
  | pipeline : IsShutdown .shutdown

theorem IsShutdown.errands {move : ActivityMove κ} (h : IsShutdown move) :
    (s.step move).errands = s.errands := by
  rcases h with _ | _
  · rfl
  · cases hdown : s.pipeline.isShutDown with
    | true => rw [step_shutdown_of_true hdown]
    | false => rw [step_shutdown_of_false hdown]

/-- **What begins after a shutdown.** If nobody makes a request any more, the jobs that may begin
are those of the requests that escape, and every call of the analyzer is made by an errand that was
under way or by one of these jobs. A second shutdown of the pipeline does nothing. -/
theorem begins_after_shutdown_iff (settings : Settings) (hasLog : Bool)
    (moves : List (ActivityMove κ)) :
    let s : Activity κ := (start settings hasLog).run moves
    (∀ inquiry, (s.step .shutdownRequests).MayBegin ActivityMove.IsSilent inquiry ↔
        s.Escapes inquiry) ∧
      (∀ inquiry, (s.step .shutdown).MayBegin ActivityMove.IsSilent inquiry ↔
        if s.pipeline.isShutDown then s.Ahead inquiry else s.Escapes inquiry) ∧
      ∀ stop, IsShutdown stop → ∀ more, (∀ move ∈ more, ActivityMove.IsSilent move) →
        ∀ e ∈ ((s.step stop).run more).errands, ∃ begun,
          (∀ inquiry ∈ begun, (s.step stop).MayBegin ActivityMove.IsSilent inquiry) ∧
            s.StemsFrom begun e := by
  intro s
  have h : s.Sound := (sound_start settings hasLog).run moves
  have hmayBegin {t : Activity κ} (ht : t.Sound) (inquiry : Inquiry κ) :
      t.MayBegin ActivityMove.IsSilent inquiry ↔ t.Ahead inquiry :=
    ht.mayBegin_iff (fun _ hturn ↦ hturn.isSilent) fun _ hsilent ↦ hsilent.not_mem_asked
  refine ⟨fun inquiry ↦ ?_, fun inquiry ↦ ?_, fun stop hstop more hsilent e he ↦ ?_⟩
  · rw [hmayBegin (h.step _), ahead_shutdownRequests]
  · rw [hmayBegin (h.step _), ahead_shutdown]
  · have hstems := (h.step stop).stemsFrom_run hsilent he
    rw [StemsFrom, hstop.errands] at hstems
    exact ⟨(s.step stop).begunIn more, fun inquiry hbegun ↦ ⟨more, hsilent, hbegun⟩, hstems⟩

/-- A request is submitted, and its worker is let go before the job begins. -/
def letGoInTime : Activity Unit :=
  have inquiry := Workforce.sampleInquiry "first"
  (start .default false).run
    [.ask 0 inquiry, .fire 10 ⟨inquiry.ask.key, 1, 10⟩, .lookUp 0, .submit 0,
      .interfere .invalidate]

/-- **A shutdown is not final.** No job is being run when the pipeline is shut down, nobody makes a
request afterwards, and still the job may begin that sits on a worker that was let go. -/
theorem exists_begins_after_shutdown :
    letGoInTime.pipeline.pool.running = [] ∧
      (letGoInTime.step .shutdown).pipeline.isShutDown = true ∧
      (letGoInTime.step .shutdown).MayBegin ActivityMove.IsSilent
        (Workforce.sampleInquiry "first") := by
  refine ⟨rfl, rfl, [.poll ⟨0⟩, .begin ⟨0⟩], by simp [ActivityMove.IsSilent], ?_⟩
  exact List.mem_singleton_self _

end Activity

end CodeHints
