import CodeHints.Proofs.Resumption

/-!
# Environments and changing settings

A request that finds no environment for its window resolves one. It reads the settings, looks into
the registry, calls the analyzer, and hands what it has resolved to the registry, in four separate
steps. Meanwhile the settings may be replaced, which takes two steps more, and an observer clears
the registry when it takes up a change that matters. A `Freshness` is the state of all this, and its
runs are lists of events in any order.

## Bookkeeping

Nothing in the pipeline remembers which settings an environment was resolved from. The state keeps
this beside the pipeline, as the `Origin` of every environment that was handed to the registry: the
settings that were read, and those that were in effect when the registry was looked into. For this
it follows the `Stage` of every request. Neither has any influence on the pipeline.
-/

namespace CodeHints

/-! ## Settings that lead to the same environment -/

/-- Two states of the settings agree on everything that decides about environments. -/
def Settings.SameEnvironment (a b : Settings) : Prop :=
  a.virtualenv = b.virtualenv ∧ a.interpreter = b.interpreter ∧ a.packagePaths = b.packagePaths

instance (a b : Settings) : Decidable (a.SameEnvironment b) :=
  inferInstanceAs (Decidable (_ ∧ _ ∧ _))

namespace Settings.SameEnvironment

variable {a b c : Settings}

theorem refl (a : Settings) : a.SameEnvironment a := ⟨rfl, rfl, rfl⟩

theorem symm (h : a.SameEnvironment b) : b.SameEnvironment a := ⟨h.1.symm, h.2.1.symm, h.2.2.symm⟩

theorem trans (h : a.SameEnvironment b) (h' : b.SameEnvironment c) : a.SameEnvironment c :=
  ⟨h.1.trans h'.1, h.2.1.trans h'.2.1, h.2.2.trans h'.2.2⟩

end Settings.SameEnvironment

/-- A change that calls for no new environment leaves everything as it is that decides about
environments. -/
theorem Settings.sameEnvironment_of_not_touches {a b : Settings}
    (h : (SettingsChange.mk (a.changedKeys b) b).touchesEnvironment = false) :
    a.SameEnvironment b := by
  have hkey (key : Setting) (hkey : key ∈ Setting.environment) (hall : key ∈ Setting.all) :
      a.agreeOn b key = true := by
    rw [SettingsChange.touchesEnvironment, SettingsChange.anyChanged, List.any_eq_false] at h
    have hnot := h key hkey
    rw [SettingsChange.hasChanged, List.contains_iff_mem, changedKeys, List.mem_filter] at hnot
    simpa [hall] using hnot
  refine ⟨?_, ?_, ?_⟩
  · exact of_decide_eq_true (hkey .virtualenv (by decide) (by decide))
  · exact of_decide_eq_true (hkey .interpreter (by decide) (by decide))
  · exact of_decide_eq_true (hkey .packagePaths (by decide) (by decide))

/-! ## The state -/

/-- Where an environment comes from. -/
structure Origin where
  window : WindowKey
  vars : Variables
  /-- The settings it was resolved from. -/
  read : Settings
  /-- The settings in effect when the registry was found to have none. -/
  seen : Settings

/-- How far a request has come. -/
inductive Stage where
  | asked
  /-- It has read the settings. -/
  | read (settings : Settings)
  /-- It has found the registry without an environment, in a generation. -/
  | looked (settings seen : Settings) (generation : Nat)
  /-- It will not access the registry any more. -/
  | passed

/-- A request that is being answered. -/
structure Consultation (κ : Type) where
  ask : Ask
  stage : Stage
  rest : Resumption (Pipeline κ) (Outcome DaemonError (Option Answer))

/-- The pipeline with the requests that are being answered and the changes on their way. -/
structure Freshness (κ : Type) where
  pipeline : Pipeline κ
  consultations : List (Consultation κ)
  /-- The changes that have taken effect and have not been published yet. -/
  unpublished : List SettingsChange
  /-- Where the environments come from, by their numbers. -/
  origins : List (Nat × Origin)

inductive FreshnessEvent (analyzer : Analyzer) where
  /-- A request is to be answered. -/
  | ask (ask : Ask)
  /-- A request makes its next access to the pipeline. -/
  | act (index : Nat)
  /-- A request gets a reply of the analyzer. -/
  | reply (index : Nat) (replies : analyzer.Replies)
  /-- New settings take effect. -/
  | install (settings : Settings)
  /-- A change is published. -/
  | publish (index : Nat)
  /-- The observer of the registry takes up one change. -/
  | observe
  | invalidate
  | remove (window : WindowKey)
  | shutdown

def Stage.next {κ : Type} (p : Pipeline κ) (ask : Ask) : Stage → Stage
  | .asked => .read p.store.current
  | .read settings =>
    match p.registry.lookup ask.window with
    | .cached _ => .passed
    | .missing generation => .looked settings p.store.current generation
  | .looked .. | .passed => .passed

/-- What the next access hands to the registry. -/
def Stage.origin {κ : Type} (p : Pipeline κ) (ask : Ask) : Stage → List (Nat × Origin)
  | .looked settings seen _ => [(p.registry.resolved, ⟨ask.window, ask.vars, settings, seen⟩)]
  | _ => []

namespace Freshness

variable {κ : Type} {analyzer : Analyzer}

def start (settings : Settings) (hasLog : Bool) : Freshness κ :=
  ⟨.start settings hasLog, [], [], []⟩

def ask (s : Freshness κ) (ask : Ask) : Freshness κ :=
  { s with consultations := s.consultations ++
      [⟨ask, .asked, Pipeline.askSync Resumption.atomic Resumption.engine ask⟩] }

def act (s : Freshness κ) (index : Nat) : Freshness κ :=
  match s.consultations[index]? with
  | some ⟨ask, stage, .access update next⟩ =>
    { s with
      pipeline := update s.pipeline
      consultations :=
        s.consultations.set index ⟨ask, stage.next s.pipeline ask, next s.pipeline⟩
      origins := s.origins ++ stage.origin s.pipeline ask }
  | _ => s

def reply (s : Freshness κ) (index : Nat) (replies : analyzer.Replies) : Freshness κ :=
  match s.consultations[index]? with
  | some ⟨ask, stage, .call question next⟩ =>
    { s with
      consultations := s.consultations.set index ⟨ask, stage, next (replies question).1⟩ }
  | _ => s

def install (s : Freshness κ) (settings : Settings) : Freshness κ :=
  let (change, store) := s.pipeline.store.install settings
  { s with
    pipeline := { s.pipeline with store := store }
    unpublished := s.unpublished ++ [change] }

def publish (s : Freshness κ) (index : Nat) : Freshness κ :=
  match s.unpublished[index]? with
  | some change =>
    { s with
      pipeline := { s.pipeline with store := s.pipeline.store.publish change }
      unpublished := s.unpublished.eraseIdx index }
  | none => s

def step (s : Freshness κ) : FreshnessEvent analyzer → Freshness κ
  | .ask ask => s.ask ask
  | .act index => s.act index
  | .reply index replies => s.reply index replies
  | .install settings => s.install settings
  | .publish index => s.publish index
  | .observe => { s with pipeline := s.pipeline.observeForRegistry }
  | .invalidate => { s with pipeline := s.pipeline.invalidateAll }
  | .remove window => { s with pipeline := s.pipeline.removeWindow window }
  | .shutdown => { s with pipeline := s.pipeline.shutdown }

def run (s : Freshness κ) (events : List (FreshnessEvent analyzer)) : Freshness κ :=
  events.foldl step s

/-- Every change is published, and the observer has nothing to take up. -/
def IsSettled (s : Freshness κ) : Prop :=
  s.unpublished = [] ∧ s.pipeline.hasNews s.pipeline.registryObserver = false

/-- Replacing the settings at once is to put them into effect and to publish the change. -/
theorem replace_eq_run (s : Freshness κ) (settings : Settings) :
    s.run ([.install settings, .publish s.unpublished.length] : List (FreshnessEvent analyzer)) =
      { s with
        pipeline := { s.pipeline with store := (s.pipeline.store.replace settings).2 } } := by
  have herase (change : SettingsChange) :
      (s.unpublished ++ [change]).eraseIdx s.unpublished.length = s.unpublished := by
    simp [List.eraseIdx_append_of_length_le]
  simp [run, step, install, publish, SettingsStore.replace, SettingsStore.install, herase]

end Freshness

/-! ## The code of a request -/

namespace Consultation

variable {κ : Type} (analyzer : Analyzer)

/-- The registry is not accessed any more. -/
def IsPassed (rest : Resumption (Pipeline κ) (Outcome DaemonError (Option Answer))) : Prop :=
  rest.Private analyzer

/-- An environment that was resolved from some settings is handed to the registry, with the
generation in which it was found to have none. -/
def IsLooked (ask : Ask) (settings : Settings) (generation : Nat)
    (rest : Resumption (Pipeline κ) (Outcome DaemonError (Option Answer))) : Prop :=
  rest.Next analyzer fun update next ↦
    ∃ daemon, (Daemon.create Resumption.engine ask.window ask.vars settings :
        Resumption (Pipeline κ) _).Yields analyzer (.value daemon) ∧
      (∀ p, update p =
        { p with registry := (p.registry.insert ask.window generation daemon).2 }) ∧
      ∀ p, IsPassed analyzer (next p)

/-- The registry is looked into. -/
def IsRead (ask : Ask) (settings : Settings)
    (rest : Resumption (Pipeline κ) (Outcome DaemonError (Option Answer))) : Prop :=
  rest.Next analyzer fun update next ↦
    (∀ p : Pipeline κ, update p = p) ∧
      ∀ p : Pipeline κ, match p.registry.lookup ask.window with
        | .cached _ => IsPassed analyzer (next p)
        | .missing generation => IsLooked analyzer ask settings generation (next p)

/-- The settings are read. -/
def IsAsked (ask : Ask)
    (rest : Resumption (Pipeline κ) (Outcome DaemonError (Option Answer))) : Prop :=
  rest.Next analyzer fun update next ↦
    (∀ p : Pipeline κ, update p = p) ∧
      ∀ p : Pipeline κ, IsRead analyzer ask p.store.current (next p)

/-- What a request does next, by its stage. -/
def Conforms (c : Consultation κ) : Prop :=
  match c.stage with
  | .asked => IsAsked analyzer c.ask c.rest
  | .read settings => IsRead analyzer c.ask settings c.rest
  | .looked settings _ generation => IsLooked analyzer c.ask settings generation c.rest
  | .passed => IsPassed analyzer c.rest

variable {analyzer}

theorem Conforms.reply {ask : Ask} {stage : Stage} {question : EngineCall}
    {next : question.Reply → Resumption (Pipeline κ) (Outcome DaemonError (Option Answer))}
    (h : Conforms analyzer ⟨ask, stage, .call question next⟩) {reply : question.Reply}
    (hreply : analyzer.MayReply question reply) : Conforms analyzer ⟨ask, stage, next reply⟩ := by
  cases stage <;> exact h reply hreply

/-- After an access it is at the next stage. Only one that has looked into the registry changes
anything: it hands over an environment. -/
theorem Conforms.act {ask : Ask} {stage : Stage} {update : Pipeline κ → Pipeline κ}
    {next : Pipeline κ → Resumption (Pipeline κ) (Outcome DaemonError (Option Answer))}
    (h : Conforms analyzer ⟨ask, stage, .access update next⟩) (p : Pipeline κ) :
    Conforms analyzer ⟨ask, stage.next p ask, next p⟩ ∧
      (update p = p ∨ ∃ settings seen generation daemon, stage = .looked settings seen generation ∧
        update p = { p with
          registry := (p.registry.insert ask.window generation daemon).2 }) := by
  cases stage with
  | asked => exact ⟨h.2 p, .inl (h.1 p)⟩
  | read settings =>
    have hnext := h.2 p
    refine ⟨?_, .inl (h.1 p)⟩
    rw [Stage.next]
    cases hlookup : p.registry.lookup ask.window with
    | cached found =>
      rw [hlookup] at hnext
      exact hnext
    | missing generation =>
      rw [hlookup] at hnext
      exact hnext
  | looked settings seen generation =>
    obtain ⟨daemon, -, hupdate, hnext⟩ := h
    exact ⟨hnext p, .inr ⟨settings, seen, generation, daemon, rfl, hupdate p⟩⟩
  | passed => exact h.elim

variable (analyzer)

/-- **A request takes the four steps in this order**: it reads the settings, looks into the
registry, and resolves an environment from what it has read before it hands it over. -/
theorem isAsked_askSync (ask : Ask) :
    IsAsked analyzer ask (Pipeline.askSync Resumption.atomic Resumption.engine ask :
      Resumption (Pipeline κ) _) := by
  rw [Resumption.askSync_eq]
  refine ⟨fun _ ↦ rfl, fun p ↦ ?_⟩
  dsimp only
  rw [Resumption.getOrCreate_eq]
  refine ⟨fun _ ↦ rfl, fun p' ↦ ?_⟩
  dsimp only
  cases p'.registry.lookup ask.window with
  | cached found => exact Resumption.private_answerIn _ _
  | missing generation =>
    rw [Resumption.bind_assoc]
    refine Resumption.Next.bind (Resumption.private_create _ _ _) fun outcome houtcome ↦ ?_
    cases outcome with
    | value daemon =>
      exact ⟨daemon, houtcome, fun _ ↦ rfl, fun _ ↦ Resumption.private_answerIn _ _⟩
    | failed e => exact trivial
    | broken payload => exact trivial

end Consultation

end CodeHints
