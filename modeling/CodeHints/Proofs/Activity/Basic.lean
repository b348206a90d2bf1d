import CodeHints.Proofs.Freshness.Basic
import CodeHints.Proofs.Jobs
import CodeHints.Proofs.Traffic
import CodeHints.Proofs.Workforce.Stopping

/-!
# All that is going on

An `Activity` is the pipeline together with everything that somebody has begun and not ended yet:
requests whose timer has fired and for which no worker was found so far, requests whose worker was
found and that are about to be submitted, and errands, which are requests that are being answered,
by the job of a worker or by somebody who waits for the answer himself.

The moves are the small steps of all those who take part, and what others do to settings, windows,
workers and inboxes. A move that is not possible changes nothing, so every list of moves is a run.

## Parts

The registry, the workers and the requests that are about to be submitted are a `Workforce`, and the
moves that concern these are moves of the workforce. What an errand does next is known from its
`Stage`, which goes along with it and has no influence on anything. The errand of a job goes on as
a `JobState` does, so by `rest_act` and `rest_reply` it runs what is left of `Pipeline.runJob`.
-/

namespace CodeHints

variable {κ : Type}

/-- The analyzer of which nothing is known. -/
def Analyzer.any : Analyzer := ⟨fun _ _ ↦ True⟩

/-- A request that is being answered. -/
structure Errand (κ : Type) where
  /-- The worker whose job it is and the one who takes the answer, unless somebody waits for the
  answer himself. -/
  job : Option (WorkerId × κ)
  consultation : Consultation κ

namespace Errand

def start (job : Option (WorkerId × κ)) (ask : Ask) : Errand κ :=
  ⟨job, ask, .asked, Pipeline.askSync Resumption.atomic Resumption.engine ask⟩

/-- The errand of a job that begins. A signal is fired at once. -/
def ofJob (id : WorkerId) : Job (Inquiry κ) → List (Errand κ)
  | .task inquiry => [start (some (id, inquiry.receiver)) inquiry.ask]
  | .signal _ => []

def window (e : Errand κ) : WindowKey := e.consultation.ask.window

def isOf (e : Errand κ) (id : WorkerId) : Bool := e.job.any (·.1 = id)

/-- How far the job has come whose errand it is, with the one who takes the answer. -/
def jobState (e : Errand κ) (receiver : κ) : JobState κ :=
  .answering ⟨e.consultation.ask, receiver⟩ e.consultation.rest

/-- What is left of the job of an errand. -/
def rest (e : Errand κ) (receiver : κ) : Resumption (Pipeline κ) Unit := (e.jobState receiver).rest

/-- The errand after it has accessed the pipeline, with what is left of answering its request. After
the delivery of the answer there is nothing to be answered. -/
def goOn (e : Errand κ) (p : Pipeline κ) :
    Option (Resumption (Pipeline κ) (Outcome DaemonError (Option Answer))) → Errand κ
  | some rest => ⟨e.job, e.consultation.ask, e.consultation.stage.next p e.consultation.ask, rest⟩
  | none => ⟨e.job, e.consultation.ask, e.consultation.stage, .done (.value none)⟩

/-- The next access of an errand to the pipeline. That of a job goes on as the job does. Whoever
waits for the answer himself delivers nothing. -/
def act? (p : Pipeline κ) (e : Errand κ) : Option (Pipeline κ × Errand κ) :=
  match e.job with
  | some (_, receiver) => ((e.jobState receiver).act? p).map fun x ↦ (x.1, e.goOn p x.2.left?)
  | none => (e.consultation.rest.act? p).map fun x ↦ (x.1, e.goOn p (some x.2))

/-- The errand after a reply that it waits for. -/
def reply? (replies : (question : EngineCall) → question.Reply) (e : Errand κ) :
    Option (Errand κ) :=
  (e.consultation.rest.reply? replies).map fun rest ↦
    { e with consultation := { e.consultation with rest := rest } }

/-- All that an errand can do by itself. -/
theorem act?_eq_some {e e' : Errand κ} {p p' : Pipeline κ} (h : e.act? p = some (p', e')) :
    (∃ job ask stage update next, e = ⟨job, ask, stage, .access update next⟩ ∧ p' = update p ∧
      e' = ⟨job, ask, stage.next p ask, next p⟩) ∨
    ∃ id receiver ask stage answer,
      e = ⟨some (id, receiver), ask, stage, .done (.value (some answer))⟩ ∧
      p' = { p with router := (p.router.deliver ask.window ⟨receiver, answer⟩).2 } ∧
      e' = ⟨some (id, receiver), ask, stage, .done (.value none)⟩ := by
  obtain ⟨job, ask, stage, rest⟩ := e
  cases job with
  | none =>
    cases rest with
    | done outcome => cases h
    | call question next => cases h
    | access update next =>
      obtain ⟨rfl, rfl⟩ := Prod.mk.inj (Option.some.inj h)
      exact .inl ⟨none, ask, stage, update, next, rfl, rfl, rfl⟩
  | some job =>
    obtain ⟨id, receiver⟩ := job
    obtain ⟨⟨p'', state⟩, hact, heq⟩ := Option.map_eq_some_iff.mp h
    obtain ⟨rfl, rfl⟩ := Prod.mk.inj heq
    obtain ⟨inquiry, update, next, hstate, rfl, rfl⟩ | ⟨inquiry, answer, hstate, rfl, rfl⟩ :=
      JobState.act?_eq_some hact
    · obtain ⟨rfl, rfl⟩ := JobState.answering.inj hstate
      exact .inl ⟨_, ask, stage, update, next, rfl, rfl, rfl⟩
    · obtain ⟨rfl, rfl⟩ := JobState.answering.inj hstate
      exact .inr ⟨id, receiver, ask, stage, answer, rfl, rfl, rfl⟩

theorem reply?_eq_some {e e' : Errand κ} {replies : (question : EngineCall) → question.Reply}
    (h : e.reply? replies = some e') :
    ∃ job ask stage question next, e = ⟨job, ask, stage, .call question next⟩ ∧
      e' = ⟨job, ask, stage, next (replies question)⟩ := by
  obtain ⟨job, ask, stage, rest⟩ := e
  cases rest with
  | done outcome => cases h
  | access update next => cases h
  | call question next => exact ⟨job, ask, stage, question, next, rfl, (Option.some.inj h).symm⟩

theorem job_of_act? {e e' : Errand κ} {p p' : Pipeline κ} (h : e.act? p = some (p', e')) :
    e'.job = e.job := by
  obtain ⟨_, _, _, _, _, rfl, -, rfl⟩ | ⟨_, _, _, _, _, rfl, -, rfl⟩ := act?_eq_some h <;> rfl

theorem job_of_reply? {e e' : Errand κ} {replies : (question : EngineCall) → question.Reply}
    (h : e.reply? replies = some e') : e'.job = e.job := by
  obtain ⟨_, _, _, _, _, rfl, rfl⟩ := reply?_eq_some h
  rfl

/-- The errand of a job that begins has all of the job before it. -/
theorem rest_start (id : WorkerId) (inquiry : Inquiry κ) :
    (start (some (id, inquiry.receiver)) inquiry.ask).rest inquiry.receiver =
      Pipeline.runJob Resumption.atomic Resumption.engine (.task inquiry) :=
  JobState.rest_start (.task inquiry)

/-- **The errand of a job accesses the pipeline as what is left of the job does.** -/
theorem rest_act? {e : Errand κ} {id : WorkerId} {receiver : κ} (hjob : e.job = some (id, receiver))
    (p : Pipeline κ) :
    (e.act? p).map (fun x ↦ (x.1, x.2.rest receiver)) = (e.rest receiver).act? p := by
  have hgoOn {p' : Pipeline κ} {job : JobState κ}
      (h : (e.jobState receiver).act? p = some (p', job)) :
      (e.goOn p job.left?).rest receiver = job.rest := by
    obtain ⟨inquiry, update, next, hstate, -, rfl⟩ | ⟨inquiry, answer, hstate, -, rfl⟩ :=
      JobState.act?_eq_some h
    · obtain ⟨rfl, -⟩ := JobState.answering.inj hstate
      rfl
    · rfl
  rw [rest, ← JobState.rest_act?, act?, hjob]
  dsimp only
  rw [Option.map_map]
  exact Option.map_congr fun x hx ↦ congrArg (x.1, ·) (hgoOn hx)

/-- **The errand of a job takes a reply as what is left of the job does.** -/
theorem rest_reply? (e : Errand κ) (receiver : κ)
    (replies : (question : EngineCall) → question.Reply) :
    (e.reply? replies).map (·.rest receiver) = (e.rest receiver).reply? replies := by
  rw [rest, ← JobState.rest_reply?, jobState, JobState.reply?, reply?, Option.map_map,
    Option.map_map]
  rfl

end Errand

/-- The pipeline and everything that is in progress. -/
structure Activity (κ : Type) where
  pipeline : Pipeline κ
  /-- The requests whose timers have fired, and for which no worker was looked up yet. -/
  fired : List (Inquiry κ)
  /-- The requests that are about to be submitted, each with the worker that was found for it. -/
  held : List (Inquiry κ × WorkerId)
  errands : List (Errand κ)

inductive ActivityMove (κ : Type) where
  /-- A request is held back by a timer. -/
  | ask (now : Nat) (inquiry : Inquiry κ)
  /-- Somebody makes a request and waits for the answer. -/
  | visit (ask : Ask)
  /-- A timer wakes. -/
  | fire (now : Nat) (ticket : Ticket DebounceKey)
  /-- The worker is found for one of the requests whose timers have fired. -/
  | lookUp (index : Nat)
  /-- One of the requests whose worker was found is submitted. -/
  | submit (index : Nat)
  | poll (id : WorkerId)
  | begin (id : WorkerId)
  /-- The job of a worker ends, by itself or by a breakdown. -/
  | finish (id : WorkerId)
  /-- An errand makes its next access to the pipeline, or delivers its answer. -/
  | act (index : Nat)
  /-- An errand gets a reply of the analyzer. -/
  | reply (index : Nat) (replies : (question : EngineCall) → question.Reply)
  /-- The oldest answer is taken out of an inbox. -/
  | take (inbox : InboxId)
  | drop (inbox : InboxId)
  | interfere (interference : Interference)
  /-- Requests are stopped, with the timers of those that are held back. -/
  | shutdownRequests
  | shutdown

/-- Submitting a request concerns the registry and the workers alone. -/
theorem Pipeline.submit_eq (p : Pipeline κ) (inquiry : Inquiry κ) :
    p.submit inquiry =
      { p with registry := (p.submit inquiry).registry, pool := (p.submit inquiry).pool } := by
  unfold submit
  dsimp only
  split <;> rfl

namespace Activity

def start (settings : Settings) (hasLog : Bool) : Activity κ := ⟨.start settings hasLog, [], [], []⟩

/-- The registry, the workers, and the requests that are about to be submitted. -/
def workforce (s : Activity κ) : Workforce κ := ⟨s.pipeline.registry, s.pipeline.pool, s.held⟩

def withWorkforce (s : Activity κ) (f : Workforce κ) : Activity κ :=
  { s with
    pipeline := { s.pipeline with registry := f.registry, pool := f.pool }
    held := f.held }

def fire (s : Activity κ) (now : Nat) (ticket : Ticket DebounceKey) : Activity κ :=
  match s.pipeline.debouncer.wake now ticket with
  | (some inquiry, debouncer) =>
    { s with
      pipeline := { s.pipeline with debouncer := debouncer }
      fired := s.fired ++ [inquiry] }
  | (none, _) => s

def lookUp (s : Activity κ) (index : Nat) : Activity κ :=
  match s.fired[index]? with
  | some inquiry =>
    { s.withWorkforce (s.workforce.lookUp inquiry) with fired := s.fired.eraseIdx index }
  | none => s

def begin (s : Activity κ) (id : WorkerId) : Activity κ :=
  match s.pipeline.begin? id with
  | some (job, p) => { s with pipeline := p, errands := s.errands ++ Errand.ofJob id job }
  | none => s

def finish (s : Activity κ) (id : WorkerId) : Activity κ :=
  { s with
    pipeline := s.pipeline.finish id
    errands := s.errands.filter fun e ↦ !e.isOf id }

def act (s : Activity κ) (index : Nat) : Activity κ :=
  match s.errands[index]? with
  | some e =>
    match e.act? s.pipeline with
    | some (p, e') => { s with pipeline := p, errands := s.errands.set index e' }
    | none => s
  | none => s

def reply (s : Activity κ) (index : Nat) (replies : (question : EngineCall) → question.Reply) :
    Activity κ :=
  match s.errands[index]? with
  | some e =>
    match e.reply? replies with
    | some e' => { s with errands := s.errands.set index e' }
    | none => s
  | none => s

def take (s : Activity κ) (inbox : InboxId) : Activity κ :=
  match s.pipeline.take? inbox with
  | some (_, p) => { s with pipeline := p }
  | none => s

def step (s : Activity κ) : ActivityMove κ → Activity κ
  | .ask now inquiry => { s with pipeline := (s.pipeline.ask now inquiry).2 }
  | .visit ask => { s with errands := s.errands ++ [.start none ask] }
  | .fire now ticket => s.fire now ticket
  | .lookUp index => s.lookUp index
  | .submit index => s.withWorkforce (s.workforce.step (.submit index))
  | .poll id => { s with pipeline := (s.pipeline.poll id).2 }
  | .begin id => s.begin id
  | .finish id => s.finish id
  | .act index => s.act index
  | .reply index replies => s.reply index replies
  | .take inbox => s.take inbox
  | .drop inbox => { s with pipeline := s.pipeline.drop inbox }
  | .interfere interference => { s with pipeline := interference.apply s.pipeline }
  | .shutdownRequests => { s with pipeline := s.pipeline.shutdownRequests }
  | .shutdown => { s with pipeline := s.pipeline.shutdown }

def run (s : Activity κ) (moves : List (ActivityMove κ)) : Activity κ := moves.foldl step s

@[simp] theorem run_nil (s : Activity κ) : s.run [] = s := rfl

@[simp] theorem run_cons (s : Activity κ) (move : ActivityMove κ) (moves : List (ActivityMove κ)) :
    s.run (move :: moves) = (s.step move).run moves := rfl

theorem fire_of_some {s : Activity κ} {now : Nat} {ticket : Ticket DebounceKey}
    {inquiry : Inquiry κ} {debouncer : Debouncer DebounceKey (Inquiry κ)}
    (h : s.pipeline.debouncer.wake now ticket = (some inquiry, debouncer)) :
    s.step (.fire now ticket) =
      { s with
        pipeline := { s.pipeline with debouncer := debouncer }
        fired := s.fired ++ [inquiry] } := by
  simp only [step, fire, h]

theorem fire_of_none {s : Activity κ} {now : Nat} {ticket : Ticket DebounceKey}
    {debouncer : Debouncer DebounceKey (Inquiry κ)}
    (h : s.pipeline.debouncer.wake now ticket = (none, debouncer)) :
    s.step (.fire now ticket) = s := by
  simp only [step, fire, h]

theorem lookUp_of_some {s : Activity κ} {index : Nat} {inquiry : Inquiry κ}
    (h : s.fired[index]? = some inquiry) :
    s.step (.lookUp index) =
      { s.withWorkforce (s.workforce.lookUp inquiry) with fired := s.fired.eraseIdx index } := by
  simp only [step, lookUp, h]

theorem lookUp_of_none {s : Activity κ} {index : Nat} (h : s.fired[index]? = none) :
    s.step (.lookUp index) = s := by
  simp only [step, lookUp, h]

theorem begin_of_none {s : Activity κ} {id : WorkerId} (h : s.pipeline.pool.begin? id = none) :
    s.step (.begin id) = s := by
  simp only [step, begin, Pipeline.begin?, h]

theorem begin_of_some {s : Activity κ} {id : WorkerId} {job : Job (Inquiry κ)}
    {pool : WorkerPool (Inquiry κ)} (h : s.pipeline.pool.begin? id = some (job, pool)) :
    s.step (.begin id) = { s with
      pipeline := { s.pipeline with pool := pool }
      errands := s.errands ++ Errand.ofJob id job } := by
  simp only [step, begin, Pipeline.begin?, h]

/-- When a job begins, this is a move of the workforce. -/
theorem workforce_begin (s : Activity κ) (id : WorkerId) :
    (s.step (.begin id)).workforce = s.workforce.step (.begin id) := by
  cases hbegin : s.pipeline.pool.begin? id with
  | none => rw [begin_of_none hbegin, Workforce.begin_of_none hbegin]
  | some found =>
    rw [begin_of_some hbegin, Workforce.begin_of_some hbegin]
    rfl

section

variable {s : Activity κ} {index : Nat} {job : Option (WorkerId × κ)} {ask : Ask} {stage : Stage}

theorem act_of_some {e e' : Errand κ} {p : Pipeline κ} (hget : s.errands[index]? = some e)
    (hact : e.act? s.pipeline = some (p, e')) :
    s.step (.act index) = { s with pipeline := p, errands := s.errands.set index e' } := by
  simp only [step, act, hget, hact]

theorem reply_of_some {e e' : Errand κ} {replies : (question : EngineCall) → question.Reply}
    (hget : s.errands[index]? = some e) (hreply : e.reply? replies = some e') :
    s.step (.reply index replies) = { s with errands := s.errands.set index e' } := by
  simp only [step, reply, hget, hreply]

/-- A job that acts does what is left of it. -/
theorem rest_act {e : Errand κ} {id : WorkerId} {receiver : κ} {p : Pipeline κ}
    {rest : Resumption (Pipeline κ) Unit} (hget : s.errands[index]? = some e)
    (hjob : e.job = some (id, receiver))
    (hrest : (e.rest receiver).act? s.pipeline = some (p, rest)) :
    (s.step (.act index)).pipeline = p ∧ ∃ e', (s.step (.act index)).errands[index]? = some e' ∧
      e'.job = e.job ∧ e'.rest receiver = rest := by
  rw [← Errand.rest_act? hjob] at hrest
  obtain ⟨⟨p', e'⟩, hact, heq⟩ := Option.map_eq_some_iff.mp hrest
  obtain ⟨rfl, rfl⟩ := Prod.mk.inj heq
  rw [act_of_some hget hact]
  exact ⟨rfl, e', List.getElem?_set_self (List.getElem?_eq_some_iff.mp hget).1,
    Errand.job_of_act? hact, rfl⟩

/-- A job that gets a reply goes on as what is left of it does. -/
theorem rest_reply {e : Errand κ} {receiver : κ} {rest : Resumption (Pipeline κ) Unit}
    {replies : (question : EngineCall) → question.Reply} (hget : s.errands[index]? = some e)
    (hrest : (e.rest receiver).reply? replies = some rest) :
    (s.step (.reply index replies)).pipeline = s.pipeline ∧
      ∃ e', (s.step (.reply index replies)).errands[index]? = some e' ∧
        e'.job = e.job ∧ e'.rest receiver = rest := by
  rw [← Errand.rest_reply?] at hrest
  obtain ⟨e', hreply, rfl⟩ := Option.map_eq_some_iff.mp hrest
  rw [reply_of_some hget hreply]
  exact ⟨rfl, e', List.getElem?_set_self (List.getElem?_eq_some_iff.mp hget).1,
    Errand.job_of_reply? hreply, rfl⟩

theorem act_of_access {update : Pipeline κ → Pipeline κ}
    {next : Pipeline κ → Resumption (Pipeline κ) (Outcome DaemonError (Option Answer))}
    (h : s.errands[index]? = some ⟨job, ask, stage, .access update next⟩) :
    s.step (.act index) =
      { s with
        pipeline := update s.pipeline
        errands :=
          s.errands.set index ⟨job, ask, stage.next s.pipeline ask, next s.pipeline⟩ } :=
  act_of_some h (by cases job <;> rfl)

theorem getElem?_act {update : Pipeline κ → Pipeline κ}
    {next : Pipeline κ → Resumption (Pipeline κ) (Outcome DaemonError (Option Answer))}
    (h : s.errands[index]? = some ⟨job, ask, stage, .access update next⟩) :
    (s.step (.act index)).errands[index]? =
      some ⟨job, ask, stage.next s.pipeline ask, next s.pipeline⟩ := by
  rw [act_of_access h]
  exact List.getElem?_set_self (List.getElem?_eq_some_iff.mp h).1

theorem reply_of_call {question : EngineCall}
    {next : question.Reply → Resumption (Pipeline κ) (Outcome DaemonError (Option Answer))}
    (h : s.errands[index]? = some ⟨job, ask, stage, .call question next⟩)
    (replies : (question : EngineCall) → question.Reply) :
    s.step (.reply index replies) =
      { s with errands := s.errands.set index ⟨job, ask, stage, next (replies question)⟩ } :=
  reply_of_some h rfl

end

/-- The pipeline looks the worker up for a request and submits the request at once. -/
theorem run_submit {s : Activity κ} {before : List (Inquiry κ)} {inquiry : Inquiry κ}
    (h : s.fired = before ++ [inquiry]) :
    s.run [.lookUp before.length, .submit s.held.length] =
      { s with pipeline := s.pipeline.submit inquiry, fired := before } := by
  have hget : s.fired[before.length]? = some inquiry := by rw [h, List.getElem?_concat_length]
  have herase : s.fired.eraseIdx before.length = before := by
    simp [h, List.eraseIdx_append_of_length_le]
  have hrun : s.run [.lookUp before.length, .submit s.held.length] =
      { s.withWorkforce (s.workforce.run [.lookUp inquiry, .submit s.held.length]) with
        fired := before } := by
    rw [run_cons, lookUp_of_some hget, herase]
    rfl
  rw [hrun, workforce, ← Workforce.submit_eq_run, Pipeline.submit_eq]
  rfl

/-- The pipeline does three steps at once when a timer wakes. -/
theorem wake_eq_run (s : Activity κ) (now : Nat) (ticket : Ticket DebounceKey) :
    (s.run [.fire now ticket, .lookUp s.fired.length, .submit s.held.length]).pipeline =
      s.pipeline.wake now ticket := by
  rw [run_cons]
  cases hwake : s.pipeline.debouncer.wake now ticket with
  | mk found debouncer =>
    cases found with
    | none =>
      have hnone : s.fired[s.fired.length]? = none := List.getElem?_eq_none (Nat.le_refl _)
      have hnone' : s.held[s.held.length]? = none := List.getElem?_eq_none (Nat.le_refl _)
      rw [fire_of_none hwake, run_cons, lookUp_of_none hnone, run_cons, run_nil, step,
        Workforce.step, Workforce.submit_of_none hnone', Pipeline.wake, hwake]
      rfl
    | some inquiry =>
      rw [fire_of_some hwake, Pipeline.wake, hwake]
      refine congrArg pipeline (run_submit ?_)
      rfl

/-! ## Jobs that begin -/

/-- The requests whose jobs begin in a move. -/
def begins (s : Activity κ) : ActivityMove κ → List (Inquiry κ)
  | .begin id => s.workforce.begins id
  | _ => []

/-- The requests whose jobs begin in a run. -/
def begunIn (s : Activity κ) : List (ActivityMove κ) → List (Inquiry κ)
  | [] => []
  | move :: moves => s.begins move ++ (s.step move).begunIn moves

theorem begunIn_append (s : Activity κ) (moves more : List (ActivityMove κ)) :
    s.begunIn (moves ++ more) = s.begunIn moves ++ (s.run moves).begunIn more := by
  induction moves generalizing s with
  | nil => rfl
  | cons move moves ih => rw [List.cons_append, begunIn, begunIn, ih, List.append_assoc]; rfl

end Activity

end CodeHints
