import CodeHints.Proofs.Resumption

/-!
# Jobs that are being run

The job of a worker answers a request and delivers the answer. Between its steps anything may
happen, so whoever runs many jobs keeps for each of them how far it has come, its `JobState`, and
lets one of them go on at a time: `JobState.act?` is its next access to the pipeline, which in the
end is the delivery, and `JobState.reply?` takes a reply of the analyzer. All systems of jobs go
through these two functions.

What is left of a job is the code `JobState.rest`. It is all of `Pipeline.runJob` when the job
begins, and `rest_act?` and `rest_reply?` say that a job steps exactly as this code does. So a
change of what jobs do is a change of this module.
-/

namespace CodeHints

variable {κ : Type}

/-- How far a job that is being run has come. -/
inductive JobState (κ : Type) where
  | answering (inquiry : Inquiry κ)
      (rest : Resumption (Pipeline κ) (Outcome DaemonError (Option Answer)))
  /-- The answer was delivered, or the job has only fired a signal. -/
  | spent

namespace JobState

def start : Job (Inquiry κ) → JobState κ
  | .task inquiry =>
    .answering inquiry (Pipeline.askSync Resumption.atomic Resumption.engine inquiry.ask)
  | .signal _ => .spent

/-- The request that a job has not done with yet. -/
def inquiry? : JobState κ → Option (Inquiry κ)
  | .answering inquiry _ => some inquiry
  | .spent => none

/-- What is left of answering the request, unless the job is through with it. -/
def left? : JobState κ → Option (Resumption (Pipeline κ) (Outcome DaemonError (Option Answer)))
  | .answering _ rest => some rest
  | .spent => none

/-- What is left of a job. -/
def rest : JobState κ → Resumption (Pipeline κ) Unit
  | .answering inquiry rest => rest.bind (Pipeline.deliver Resumption.atomic inquiry)
  | .spent => .done ()

/-- The next access of a job to the pipeline. Once the request is answered this is the delivery,
and the job is through with it. -/
def act? (p : Pipeline κ) : JobState κ → Option (Pipeline κ × JobState κ)
  | .answering inquiry (.done outcome) =>
    ((Pipeline.deliver Resumption.atomic inquiry outcome).act? p).map fun x ↦ (x.1, .spent)
  | .answering inquiry rest => (rest.act? p).map fun x ↦ (x.1, .answering inquiry x.2)
  | .spent => none

/-- The job after a reply that it waits for. -/
def reply? (replies : (question : EngineCall) → question.Reply) : JobState κ → Option (JobState κ)
  | .answering inquiry rest => (rest.reply? replies).map (answering inquiry)
  | .spent => none

/-- All that a job can do by itself. -/
theorem act?_eq_some {job job' : JobState κ} {p p' : Pipeline κ}
    (h : job.act? p = some (p', job')) :
    (∃ inquiry update next, job = .answering inquiry (.access update next) ∧ p' = update p ∧
      job' = .answering inquiry (next p)) ∨
    ∃ inquiry answer, job = .answering inquiry (.done (.value (some answer))) ∧
      p' = { p with
        router := (p.router.deliver inquiry.ask.window ⟨inquiry.receiver, answer⟩).2 } ∧
      job' = .spent := by
  cases job with
  | spent => cases h
  | answering inquiry rest =>
    cases rest with
    | access update next =>
      obtain ⟨rfl, rfl⟩ := Prod.mk.inj (Option.some.inj h)
      exact .inl ⟨inquiry, update, next, rfl, rfl, rfl⟩
    | call question next => cases h
    | done outcome =>
      rcases outcome with (_ | answer) | e | payload
      · cases h
      · obtain ⟨rfl, rfl⟩ := Prod.mk.inj (Option.some.inj h)
        exact .inr ⟨inquiry, answer, rfl, rfl, rfl⟩
      · cases h
      · cases h

theorem reply?_eq_some {job job' : JobState κ} {replies : (question : EngineCall) → question.Reply}
    (h : job.reply? replies = some job') :
    ∃ inquiry question next, job = .answering inquiry (.call question next) ∧
      job' = .answering inquiry (next (replies question)) := by
  cases job with
  | spent => cases h
  | answering inquiry rest =>
    cases rest with
    | done outcome => cases h
    | access update next => cases h
    | call question next => exact ⟨inquiry, question, next, rfl, (Option.some.inj h).symm⟩

/-! ## Jobs and their code -/

/-- The whole job is left when it begins. -/
theorem rest_start (job : Job (Inquiry κ)) :
    (start job).rest = Pipeline.runJob Resumption.atomic Resumption.engine job := by
  cases job <;> rfl

/-- **A job accesses the pipeline as what is left of it does.** -/
theorem rest_act? (job : JobState κ) (p : Pipeline κ) :
    (job.act? p).map (fun x ↦ (x.1, x.2.rest)) = job.rest.act? p := by
  cases job with
  | spent => rfl
  | answering inquiry rest =>
    cases rest with
    | access update next => rfl
    | call question next => rfl
    | done outcome =>
      -- the request is answered, so the delivery is all that is left
      change _ = (Pipeline.deliver Resumption.atomic inquiry outcome).act? p
      rcases outcome with (_ | answer) | e | payload <;> rfl

/-- **A job takes a reply as what is left of it does.** -/
theorem rest_reply? (job : JobState κ) (replies : (question : EngineCall) → question.Reply) :
    (job.reply? replies).map rest = job.rest.reply? replies := by
  cases job with
  | spent => rfl
  | answering inquiry rest =>
    cases rest with
    | access update next => rfl
    | call question next => rfl
    | done outcome =>
      change none = (Pipeline.deliver Resumption.atomic inquiry outcome).reply? replies
      rcases outcome with (_ | answer) | e | payload <;> rfl

end JobState

end CodeHints
