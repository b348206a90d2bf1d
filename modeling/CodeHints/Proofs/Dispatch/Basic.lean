import CodeHints.Proofs.Activity.Sound
import CodeHints.Proofs.Workforce.Fairness

/-!
# Requests with callbacks

Whoever asks for something without waiting leaves a callback, and the answer goes to it through four
parts of the pipeline: a timer holds the request back, a worker of its window runs its job, the
answer waits in an inbox of the window, and there the callback is run when the answer is taken out.
A `Dispatching` is all that is going on, together with records of what has happened to the requests.

## Numbers and records

A request is known by its number, which is how many requests there were before it. It goes with the
request in the place of the callback, and has no influence on anything. Every move adds to the
records what can be seen of it from outside: that a timer has fired, that a job has begun, that
another request was made under the same key, that a callback was run. Nothing is ever taken out of
a record.

## What a job has met with

`Pipeline.askSync` accesses the state and calls the analyzer, and what it returns depends on what it
finds and on the replies it gets. The log keeps both for every job. So there is an answer to the
question what `askSync` itself, executed by the job of a request, has returned: `Resumption.after`
lets the code meet with what the job has met with, and `Dispatching.Returned` says that this has
brought it to its end.
-/

namespace CodeHints

/-! ## Code that meets with something -/

/-- What code meets with: a state that it finds, or an analyzer that replies to what it is asked. -/
inductive Happening (σ : Type) where
  | found (s : σ)
  | replied (replies : (question : EngineCall) → question.Reply)

namespace Resumption

variable {σ α : Type} {analyzer : Analyzer}

/-- What is left of the code after it has met with something, if it was waiting for that. -/
def meet (r : Resumption σ α) : Happening σ → Option (Resumption σ α)
  | .found s => (r.act? s).map (·.2)
  | .replied replies => r.reply? replies

/-- What is left of the code after it has met with several things, one after the other. -/
def after (r : Resumption σ α) (happenings : List (Happening σ)) : Option (Resumption σ α) :=
  happenings.foldlM meet r

theorem after_single (r : Resumption σ α) (h : Happening σ) : r.after [h] = r.meet h :=
  bind_pure (r.meet h)

theorem after_append (r : Resumption σ α) (happenings more : List (Happening σ)) :
    r.after (happenings ++ more) = (r.after happenings).bind (·.after more) :=
  List.foldlM_append

/-- What always holds of some code holds of what is left of it, if the analyzer may reply as it
likes. -/
theorem Always.meet {P : (σ → σ) → Prop} {Q : α → Prop} {r left : Resumption σ α}
    {h : Happening σ} (hr : r.Always .any P Q) (hmeet : r.meet h = some left) :
    left.Always .any P Q := by
  cases r with
  | done a => cases h <;> cases hmeet
  | access update next =>
    cases h with
    | found s => cases hmeet; exact hr.2 s
    | replied replies => cases hmeet
  | call question next =>
    cases h with
    | found s => cases hmeet
    | replied replies => cases hmeet; exact hr (replies question) trivial

theorem Always.after {P : (σ → σ) → Prop} {Q : α → Prop} {r left : Resumption σ α}
    {happenings : List (Happening σ)} (hr : r.Always .any P Q)
    (hafter : r.after happenings = some left) : left.Always .any P Q := by
  induction happenings generalizing r with
  | nil =>
    cases hafter
    exact hr
  | cons h rest ih =>
    rw [Resumption.after, List.foldlM_cons] at hafter
    cases hmeet : r.meet h with
    | none => rw [hmeet] at hafter; cases hafter
    | some next =>
      rw [hmeet] at hafter
      exact ih (hr.meet hmeet) hafter

end Resumption

/-! ## The kind of an answer -/

def Answer.kind : Answer → RequestKind
  | .completions _ => .autocomplete
  | .template _ => .funcArgs

namespace Resumption

variable {σ : Type} {analyzer : Analyzer}

theorem always_execute_kind (env : ResolvedEnvironment) (context : RequestContext) :
    (execute (engine : Engine (Resumption σ)) env context).Always analyzer (fun _ ↦ True)
      fun outcome ↦ ∀ answer, outcome = some answer → answer.kind = context.request.kind := by
  have hnone : ∀ answer, (none : Option Answer) = some answer →
      answer.kind = context.request.kind := fun _ h ↦ by cases h
  unfold execute ask Outcome.andThen
  intro analyzed _
  cases analyzed with
  | failed e => exact hnone
  | broken payload => exact hnone
  | value _ =>
    intro signatures _
    cases signatures with
    | failed e => exact hnone
    | broken payload => exact hnone
    | value signatures =>
      cases hrequest : context.request with
      | funcArgs completeAll =>
        rintro _ ⟨⟩
        rfl
      | autocomplete fuzzy =>
        rw [hrequest] at hnone
        intro found _
        cases found with
        | failed e => exact hnone
        | broken payload => exact hnone
        | value found =>
          rintro _ ⟨⟩
          rfl

/-- What answers a request is of the kind of the request. -/
theorem always_askSync_kind {κ : Type} (ask : Ask) :
    (Pipeline.askSync (atomic : Access (Pipeline κ) _) engine ask).Always analyzer (fun _ ↦ True)
      fun outcome ↦ ∀ answer, outcome = .value (some answer) →
        answer.kind = ask.context.request.kind := by
  have hanswerIn (found : Outcome DaemonError Resolution) :
      (answerIn (κ := κ) ask.context found).Always analyzer (fun _ ↦ True) fun outcome ↦
        ∀ answer, outcome = .value (some answer) → answer.kind = ask.context.request.kind := by
    cases found with
    | failed e => exact fun _ h ↦ by cases h
    | broken payload => exact fun _ h ↦ by cases h
    | value found =>
      refine Always.bind (always_execute_kind found.daemon.resolved ask.context)
        fun outcome houtcome ↦ ?_
      rintro answer ⟨⟩
      exact houtcome answer rfl
  rw [askSync_eq]
  refine ⟨trivial, fun p ↦ ?_⟩
  dsimp only
  rw [getOrCreate_eq]
  refine ⟨trivial, fun p' ↦ ?_⟩
  dsimp only
  cases p'.registry.lookup ask.window with
  | cached found => exact hanswerIn _
  | missing generation =>
    rw [bind_assoc]
    refine Always.bind ((private_create _ _ _).always fun _ h ↦ h) fun created _ ↦ ?_
    cases created with
    | failed e => exact hanswerIn (.failed e)
    | broken payload => exact hanswerIn (.broken payload)
    | value daemon => exact ⟨trivial, fun _ ↦ hanswerIn (.value _)⟩

end Resumption

/-! ## What can be seen of a move -/

namespace ActivityMove

variable {κ : Type}

/-- The turn that a worker has in a move. -/
def turn? : ActivityMove κ → Option (Move κ)
  | .poll id => some (.poll id)
  | .begin id => some (.begin id)
  | .finish id => some (.finish id)
  | _ => none

/-- The windows that an inbox is opened for. -/
def opens : ActivityMove κ → List WindowKey
  | .interfere (.attach window) => [window]
  | _ => []

/-- A request that is made gets the number of a callback. -/
def numbered (number : Nat) : ActivityMove Nat → ActivityMove Nat
  | .ask now inquiry => .ask now ⟨inquiry.ask, number⟩
  | move => move

end ActivityMove

namespace Errand

variable {κ : Type}

/-- What the errand of a job finds, if it is about to access the state. -/
def finds (p : Pipeline κ) : Errand κ → List (κ × Happening (Pipeline κ))
  | ⟨some (_, receiver), _, _, .access _ _⟩ => [(receiver, .found p)]
  | _ => []

/-- What the errand of a job is replied, if it waits for a reply. -/
def hears (replies : (question : EngineCall) → question.Reply) :
    Errand κ → List (κ × Happening (Pipeline κ))
  | ⟨some (_, receiver), _, _, .call _ _⟩ => [(receiver, .replied replies)]
  | _ => []

/-- What the errand of a job delivers, if it has an answer. -/
def delivers : Errand κ → List (WindowKey × Delivery κ)
  | ⟨some (_, receiver), ask, _, .done (.value (some answer))⟩ =>
    [(ask.window, ⟨receiver, answer⟩)]
  | _ => []

end Errand

namespace Activity

variable {κ : Type}

def firing (s : Activity κ) : ActivityMove κ → List (Inquiry κ)
  | .fire now ticket => (s.pipeline.debouncer.wake now ticket).1.toList
  | _ => []

/-- Whether a request that is held back under a key is given up in a move: another one takes its
place, or all requests are stopped. -/
def givesUp (s : Activity κ) (move : ActivityMove κ) (key : DebounceKey) : Bool :=
  match move with
  | .ask _ inquiry => key = inquiry.ask.key
  | .shutdownRequests => true
  | .shutdown => !s.pipeline.isShutDown
  | _ => false

/-- What the jobs of workers meet with. -/
def meets (s : Activity κ) : ActivityMove κ → List (κ × Happening (Pipeline κ))
  | .act index => (s.errands[index]?.map fun e ↦ e.finds s.pipeline).getD []
  | .reply index replies => (s.errands[index]?.map fun e ↦ e.hears replies).getD []
  | _ => []

/-- What is delivered to windows. -/
def delivers (s : Activity κ) : ActivityMove κ → List (WindowKey × Delivery κ)
  | .act index => (s.errands[index]?.map Errand.delivers).getD []
  | _ => []

/-- What is taken out of inboxes, and run. -/
def takes (s : Activity κ) : ActivityMove κ → List (InboxId × Delivery κ)
  | .take inbox => ((s.pipeline.router.take? inbox).map fun x ↦ (inbox, x.1)).toList
  | _ => []

end Activity

/-! ## The state -/

/-- All that is going on, and the records. -/
structure Dispatching where
  activity : Activity Nat
  /-- The requests, each at its number, as they were when they were made. -/
  asked : List Ask
  /-- Those whose timers have fired. -/
  fired : List Nat
  /-- Those that another one has taken the place of, or whose timers were taken back, before these
  have fired. -/
  withdrawn : List Nat
  /-- The jobs that have begun, each with its worker. -/
  begun : List (WorkerId × Job (Inquiry Nat))
  /-- What the jobs have met with. -/
  log : List (Nat × Happening (Pipeline Nat))
  /-- The windows of the inboxes. -/
  owners : List WindowKey
  /-- The callbacks that were run, each with its answer and the inbox that this was taken from. -/
  ran : List (InboxId × Delivery Nat)

namespace Dispatching

def start (settings : Settings) (hasLog : Bool) : Dispatching :=
  ⟨.start settings hasLog, [], [], [], [], [], [], []⟩

def unfired (s : Dispatching) : List Nat := (List.range s.asked.length).filter (· ∉ s.fired)

/-- The requests that are withdrawn in a move, before their timers have fired. -/
def withdraws (s : Dispatching) (move : ActivityMove Nat) : List Nat :=
  s.unfired.filter fun n ↦ (s.asked[n]?.map Ask.key).any (s.activity.givesUp move)

/-- The move as it is made, in which a request has the next number. -/
abbrev made (s : Dispatching) (move : ActivityMove Nat) : ActivityMove Nat :=
  move.numbered s.asked.length

def step (s : Dispatching) (move : ActivityMove Nat) : Dispatching where
  activity := s.activity.step (s.made move)
  asked := s.asked ++ (s.made move).asked.map (·.ask)
  fired := s.fired ++ (s.activity.firing (s.made move)).map (·.receiver)
  withdrawn := s.withdrawn ++ s.withdraws (s.made move)
  begun := s.begun ++ s.activity.workforce.starts (s.made move).turn?
  log := s.log ++ s.activity.meets (s.made move)
  owners := s.owners ++ (s.made move).opens
  ran := s.ran ++ s.activity.takes (s.made move)

def run (s : Dispatching) (moves : List (ActivityMove Nat)) : Dispatching := moves.foldl step s

@[simp] theorem run_cons (s : Dispatching) (move : ActivityMove Nat)
    (moves : List (ActivityMove Nat)) : s.run (move :: moves) = (s.step move).run moves := rfl

theorem run_append (s : Dispatching) (moves more : List (ActivityMove Nat)) :
    s.run (moves ++ more) = (s.run moves).run more := List.foldl_append

/-! ## What has become of a request -/

/-- What the job of a request has met with. -/
def transcript (s : Dispatching) (number : Nat) : List (Happening (Pipeline Nat)) :=
  (s.log.filter (·.1 = number)).map (·.2)

/-- What is left of `askSync` on a request, executed by the job of the request. -/
def IsLeft (s : Dispatching) (number : Nat)
    (left : Resumption (Pipeline Nat) (Outcome DaemonError (Option Answer))) : Prop :=
  ∃ ask, s.asked[number]? = some ask ∧
    (Pipeline.askSync Resumption.atomic Resumption.engine ask).after (s.transcript number) =
      some left

/-- What `askSync` on a request, executed by the job of the request, has returned. -/
def Returned (s : Dispatching) (number : Nat) (outcome : Outcome DaemonError (Option Answer)) :
    Prop := s.IsLeft number (.done outcome)

def numbers (inquiries : List (Inquiry Nat)) : List Nat := inquiries.map (·.receiver)

theorem numbers_append (inquiries more : List (Inquiry Nat)) :
    numbers (inquiries ++ more) = numbers inquiries ++ numbers more := List.map_append

def started (s : Dispatching) : List (Inquiry Nat) := WorkerPool.tasksOf (s.begun.map (·.2))

/-- The numbers of the callbacks that were run. -/
def answered (s : Dispatching) : List Nat := s.ran.map (·.2.receiver)

/-- The job of a request has begun and ended. -/
def HasEnded (s : Dispatching) (number : Nat) : Prop :=
  number ∈ numbers s.started ∧ ∀ e ∈ s.activity.errands, e.job.map (·.2) ≠ some number

/-- The job of a request comes to nothing: `askSync` has returned an error or no answer or a
breakdown, or the job has ended without its return. -/
def Fails (s : Dispatching) (number : Nat) : Prop :=
  (∃ outcome, s.Returned number outcome ∧ ∀ answer, outcome ≠ .value (some answer)) ∨
    s.HasEnded number ∧ ∀ outcome, ¬ s.Returned number outcome

theorem IsLeft.unique {s : Dispatching} {number : Nat}
    {left left' : Resumption (Pipeline Nat) (Outcome DaemonError (Option Answer))}
    (h : s.IsLeft number left) (h' : s.IsLeft number left') : left = left' := by
  obtain ⟨ask, hask, hleft⟩ := h
  obtain ⟨ask', hask', hleft'⟩ := h'
  obtain rfl := Option.some.inj (hask.symm.trans hask')
  exact Option.some.inj (hleft.symm.trans hleft')

/-- **An answer is of the kind of its request.** -/
theorem Returned.kind_eq {s : Dispatching} {number : Nat} {answer : Answer} {ask : Ask}
    (h : s.Returned number (.value (some answer))) (hask : s.asked[number]? = some ask) :
    answer.kind = ask.context.request.kind := by
  obtain ⟨ask', hask', hafter⟩ := h
  obtain rfl := Option.some.inj (hask.symm.trans hask')
  exact (Resumption.always_askSync_kind ask).after hafter answer rfl

end Dispatching

end CodeHints
