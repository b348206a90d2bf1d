import CodeHints.Pipeline.Basic

/-!
# Code that can be interrupted

The pipeline answers a request by a sequence of uninterrupted steps with calls of the analyzer
between them, and is written for any monad that has access to the state. A `Resumption` is the
monad in which nothing is decided about what happens in between: it is either done, or about to
access the state, or waiting for a reply of the analyzer, and it goes on as a function of what it
finds. A system of many requests keeps one resumption for each of them and lets them go on in any
order.

## Analyzers

Nothing is known about the analyzer but its replies, and the same call need not be answered in the
same way twice. An `Analyzer` says which replies it may give. What is proved for every analyzer
holds in particular for one that answers as it likes, and for one that always answers in the same
way.

## Reading a resumption

`Yields` tells what a resumption may end in, for some replies of the analyzer and some states in
between. `Next` speaks about its next access to the state, after whatever replies it takes to get
there, and `Always` about all of its accesses and its result. Code that never accesses the state,
such as the resolution of an environment, is `Private`, and `Next.bind` steps over it.
-/

namespace CodeHints

inductive EngineCall where
  | defaultEnvironment
  | createEnvironment (path : String)
  | analyze (script : ScriptRequest)
  | callSignatures (script : ScriptRequest)
  | completions (script : ScriptRequest) (fuzzy : Bool)

/-- What a call of the analyzer may be answered with. -/
def EngineCall.Reply : EngineCall → Type
  | .defaultEnvironment | .createEnvironment _ => Outcome EngineError Environment
  | .analyze _ => Outcome EngineError Unit
  | .callSignatures _ => Outcome EngineError (List CallSignature)
  | .completions _ _ => Outcome EngineError (List Completion)

/-- What an analyzer may reply. -/
structure Analyzer where
  MayReply (question : EngineCall) (reply : question.Reply) : Prop

namespace Analyzer

/-- One reply of an analyzer to each call. -/
def Replies (analyzer : Analyzer) : Type :=
  (question : EngineCall) → { reply : question.Reply // analyzer.MayReply question reply }

def fixed (reply : (question : EngineCall) → question.Reply) : Analyzer :=
  ⟨fun question r ↦ r = reply question⟩

def fixedReplies (reply : (question : EngineCall) → question.Reply) : (fixed reply).Replies :=
  fun question ↦ ⟨reply question, rfl⟩

end Analyzer

/-- Code that shares a state with others and calls the analyzer. -/
inductive Resumption (σ α : Type) where
  | done (a : α)
  /-- Change the state, and go on with what was found there before. -/
  | access (update : σ → σ) (next : σ → Resumption σ α)
  /-- Wait for a reply. -/
  | call (question : EngineCall) (next : question.Reply → Resumption σ α)

namespace Resumption

variable {σ α β : Type}

def bind : Resumption σ α → (α → Resumption σ β) → Resumption σ β
  | .done a, f => f a
  | .access update next, f => .access update fun s ↦ (next s).bind f
  | .call question next, f => .call question fun reply ↦ (next reply).bind f

instance : Monad (Resumption σ) where
  pure := .done
  bind := bind

theorem bind_assoc {γ : Type} (r : Resumption σ α) (f : α → Resumption σ β)
    (g : β → Resumption σ γ) : (r.bind f).bind g = r.bind fun a ↦ (f a).bind g := by
  induction r with
  | done a => rfl
  | access update next ih =>
    rw [bind, bind, bind]
    congr 1
    exact funext ih
  | call question next ih =>
    rw [bind, bind, bind]
    congr 1
    exact funext ih

/-- Access to the state in one uninterrupted step. -/
def atomic : Access σ (Resumption σ) where
  step f := .access (fun s ↦ (f s).2) fun s ↦ .done (f s).1

/-- The analyzer whose replies are left open. -/
def engine : Engine (Resumption σ) where
  defaultEnvironment := .call .defaultEnvironment .done
  createEnvironment path := .call (.createEnvironment path) .done
  analyze script := .call (.analyze script) .done
  callSignatures script := .call (.callSignatures script) .done
  completions script fuzzy := .call (.completions script fuzzy) .done

/-! ## Single steps -/

/-- The next access to the state, and the code that goes on after it. -/
def act? (s : σ) : Resumption σ α → Option (σ × Resumption σ α)
  | .access update next => some (update s, next s)
  | .done _ | .call .. => none

/-- The code that goes on after a reply. -/
def reply? (replies : (question : EngineCall) → question.Reply) :
    Resumption σ α → Option (Resumption σ α)
  | .call question next => some (next (replies question))
  | .done _ | .access .. => none

/-! ## What a resumption may come to -/

variable (analyzer : Analyzer)

/-- The resumption may end in a value. -/
inductive Yields : Resumption σ α → α → Prop where
  | done (a : α) : Yields (.done a) a
  | access {update : σ → σ} {next : σ → Resumption σ α} {a : α} (s : σ) (h : Yields (next s) a) :
      Yields (.access update next) a
  | call {question : EngineCall} {next : question.Reply → Resumption σ α} {a : α}
      (reply : question.Reply) (hreply : analyzer.MayReply question reply)
      (h : Yields (next reply) a) : Yields (.call question next) a

/-- What holds of the next access to the state, whatever is replied until then. -/
def Next (P : (σ → σ) → (σ → Resumption σ α) → Prop) : Resumption σ α → Prop
  | .done _ => True
  | .access update next => P update next
  | .call question next => ∀ reply, analyzer.MayReply question reply → (next reply).Next P

/-- Code that does not access the state any more. -/
def Private (r : Resumption σ α) : Prop := r.Next analyzer fun _ _ ↦ False

/-- What holds of every access to the state, and of the result. -/
def Always (P : (σ → σ) → Prop) (Q : α → Prop) : Resumption σ α → Prop
  | .done a => Q a
  | .access update next => P update ∧ ∀ s, (next s).Always P Q
  | .call question next => ∀ reply, analyzer.MayReply question reply → (next reply).Always P Q

variable {analyzer}

/-- What comes after private code has the next access. -/
theorem Next.bind {P : (σ → σ) → (σ → Resumption σ β) → Prop} {r : Resumption σ α}
    {f : α → Resumption σ β} (hr : r.Private analyzer)
    (hf : ∀ a, r.Yields analyzer a → (f a).Next analyzer P) : (r.bind f).Next analyzer P := by
  induction r with
  | done a => exact hf a (.done a)
  | access update next _ => exact hr.elim
  | call question next ih =>
    exact fun reply hreply ↦
      ih reply (hr reply hreply) fun a ha ↦ hf a (.call reply hreply ha)

theorem Private.bind {r : Resumption σ α} {f : α → Resumption σ β} (hr : r.Private analyzer)
    (hf : ∀ a, (f a).Private analyzer) : (r.bind f).Private analyzer :=
  Next.bind hr fun a _ ↦ hf a

/-- What private code may end in is all that is to be known about it. -/
theorem Private.always {P : (σ → σ) → Prop} {Q : α → Prop} {r : Resumption σ α}
    (hr : r.Private analyzer) (hQ : ∀ a, r.Yields analyzer a → Q a) : r.Always analyzer P Q := by
  induction r with
  | done a => exact hQ a (.done a)
  | access update next _ => exact hr.elim
  | call question next ih =>
    exact fun reply hreply ↦ ih reply (hr reply hreply) fun a ha ↦ hQ a (.call reply hreply ha)

theorem Always.of_yields {P : (σ → σ) → Prop} {Q : α → Prop} {r : Resumption σ α} {a : α}
    (hr : r.Always analyzer P Q) (h : r.Yields analyzer a) : Q a := by
  induction h with
  | done a => exact hr
  | access s _ ih => exact ih (hr.2 s)
  | call reply hreply _ ih => exact ih (hr reply hreply)

theorem Always.bind {P : (σ → σ) → Prop} {Q : α → Prop} {R : β → Prop} {r : Resumption σ α}
    {f : α → Resumption σ β} (hr : r.Always analyzer P Q)
    (hf : ∀ a, Q a → (f a).Always analyzer P R) : (r.bind f).Always analyzer P R := by
  induction r with
  | done a => exact hf a hr
  | access update next ih => exact ⟨hr.1, fun s ↦ ih s (hr.2 s)⟩
  | call question next ih => exact fun reply hreply ↦ ih reply (hr reply hreply)

/-! ## The code of the pipeline -/

theorem private_choose (vars : Variables) (settings : Settings) (platform : Platform) :
    (ResolvedEnvironment.choose (engine : Engine (Resumption σ)) vars settings platform).Private
      analyzer := by
  unfold ResolvedEnvironment.choose
  split <;> exact fun _ _ ↦ trivial

theorem private_create (window : WindowKey) (vars : Variables) (settings : Settings) :
    (Daemon.create (engine : Engine (Resumption σ)) window vars settings).Private analyzer :=
  .bind (.bind (private_choose vars settings _) fun _ ↦ trivial) fun _ ↦ trivial

theorem private_execute (env : ResolvedEnvironment) (context : RequestContext) :
    (execute (engine : Engine (Resumption σ)) env context).Private analyzer := by
  refine .bind ?_ fun _ ↦ trivial
  unfold ask Outcome.andThen
  intro analyzed _
  cases analyzed with
  | failed e => exact trivial
  | broken payload => exact trivial
  | value _ =>
    intro signatures _
    cases signatures with
    | failed e => exact trivial
    | broken payload => exact trivial
    | value found =>
      cases context.request with
      | autocomplete fuzzy => exact fun _ _ ↦ trivial
      | funcArgs completeAll => exact trivial

/-- Hand what was resolved to the registry. -/
def handOver {κ : Type} (window : WindowKey) (generation : Nat) :
    Outcome DaemonError Daemon → Resumption (Pipeline κ) (Outcome DaemonError Resolution)
  | .value daemon =>
    .access (fun p ↦ { p with registry := (p.registry.insert window generation daemon).2 })
      fun p ↦ .done (.value (p.registry.insert window generation daemon).1)
  | .failed e => .done (.failed e)
  | .broken payload => .done (.broken payload)

/-- Answer a request in the environment that was found, if one was. -/
def answerIn {κ : Type} (context : RequestContext) :
    Outcome DaemonError Resolution → Resumption (Pipeline κ) (Outcome DaemonError (Option Answer))
  | .value found => (found.daemon.request engine context).bind fun answer ↦ .done (.value answer)
  | .failed e => .done (.failed e)
  | .broken payload => .done (.broken payload)

theorem private_answerIn {κ : Type} (context : RequestContext)
    (found : Outcome DaemonError Resolution) :
    (answerIn context found : Resumption (Pipeline κ) _).Private analyzer := by
  cases found with
  | value found => exact .bind (private_execute _ _) fun _ ↦ trivial
  | failed e => exact trivial
  | broken payload => exact trivial

/-- Looking for the environment of a window is one access, and handing over a new one another. -/
theorem getOrCreate_eq {κ : Type} (window : WindowKey) (vars : Variables) (settings : Settings) :
    Pipeline.getOrCreate (atomic : Access (Pipeline κ) _) engine window vars settings =
      .access (fun p ↦ p) fun p ↦
        match p.registry.lookup window with
        | .cached found => .done (.value found)
        | .missing generation =>
          (Daemon.create engine window vars settings).bind (handOver window generation) := rfl

/-- Answering a request begins with a look at the settings. -/
theorem askSync_eq {κ : Type} (ask : Ask) :
    Pipeline.askSync (atomic : Access (Pipeline κ) _) engine ask =
      .access (fun p ↦ p) fun p ↦
        (Pipeline.getOrCreate atomic engine ask.window ask.vars p.store.current).bind
          (answerIn ask.context) := rfl

end Resumption

end CodeHints
