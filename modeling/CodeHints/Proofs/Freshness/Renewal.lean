import CodeHints.Proofs.Freshness.Settled
import CodeHints.Proofs.Resolving

/-!
# Changes that keep environments

The registry looks only at which settings have changed: it is cleared if one of three of them is
among those (`Setting.environment`). Whether that is enough depends on two other places, the
comparison that finds the changed settings and the code that resolves an environment from them.

`resolve_congr` settles the second one: settings that agree on the three lead to the same *program*,
for any analyzer, in any monad. So there is no way in which the calls or the result could differ.

## Kept environments

`ResolvesTo` says that a fresh resolution gives an environment and nothing else. This depends on an
analyzer that answers the same question about environments in the same way every time
(`Analyzer.IsSettled`). Two things follow for the environments in a registry:

* A change that is passed to the registry and does not clear it leaves every environment there, and
  no fresh resolution tells the settings before it from those after it.
* The same holds between any two moments of a run at which no clearing change is on its way, however
  many changes lie between them, for an environment that is there at both moments.

Whether an environment was up to date to begin with is another question, see
`settled_isUpToDate_iff`.
-/

namespace CodeHints

/-! ## Resolving under two settings -/

namespace ResolvedEnvironment

/-- Settings that agree on what decides about environments lead to the same calls of the analyzer,
and to the same result. -/
theorem resolve_congr {m : Type → Type} [Monad m] (engine : Engine m) (vars : Variables)
    (platform : Platform) {a b : Settings} (h : a.SameEnvironment b) :
    resolve engine vars a platform = resolve engine vars b platform := by
  obtain ⟨hvirtualenv, hinterpreter, hpaths⟩ := h
  exact resolve_eq_of_platform engine vars (congrArg (·.get platform) hvirtualenv)
    (congrArg (·.get platform) hinterpreter) (congrArg (·.get platform) hpaths)

end ResolvedEnvironment

theorem Daemon.create_congr {m : Type → Type} [Monad m] (engine : Engine m) (window : WindowKey)
    (vars : Variables) {a b : Settings} (h : a.SameEnvironment b) :
    Daemon.create engine window vars a = Daemon.create engine window vars b := by
  rw [Daemon.create, Daemon.create, ResolvedEnvironment.resolve_congr engine vars _ h]

/-- A change without any of the settings for environments is one that does not clear the
registry. -/
theorem SettingsChange.touchesEnvironment_eq_false {c : SettingsChange} :
    c.touchesEnvironment = false ↔ ∀ key ∈ Setting.environment, key ∉ c.keys := by
  simp only [touchesEnvironment, anyChanged, hasChanged, List.any_eq_false, List.contains_iff_mem]

/-! ## Fresh resolutions -/

/-- A call of the analyzer that asks for an environment. -/
def EngineCall.IsForEnvironment : EngineCall → Prop
  | .defaultEnvironment | .createEnvironment _ => True
  | .analyze _ | .callSignatures _ | .completions _ _ => False

/-- The analyzer answers equal calls for environments equally. -/
def Analyzer.IsSettled (analyzer : Analyzer) : Prop :=
  ∀ question : EngineCall, question.IsForEnvironment → ∀ reply reply',
    analyzer.MayReply question reply → analyzer.MayReply question reply' → reply = reply'

/-- Resolving the environment of a window afresh gives this one, and nothing else. -/
def ResolvesTo (κ : Type) (analyzer : Analyzer) (window : WindowKey) (vars : Variables)
    (settings : Settings) (daemon : Daemon) : Prop :=
  ∀ outcome, (Daemon.create Resumption.engine window vars settings :
    Resumption (Pipeline κ) _).Yields analyzer outcome ↔ outcome = .value daemon

variable {κ : Type} {analyzer : Analyzer} {window : WindowKey} {vars : Variables}
  {settings : Settings} {daemon : Daemon}

theorem resolvesTo_congr {a b : Settings} (h : a.SameEnvironment b) :
    ResolvesTo κ analyzer window vars a daemon ↔ ResolvesTo κ analyzer window vars b daemon := by
  rw [ResolvesTo, ResolvesTo, Daemon.create_congr _ _ _ h]

private theorem create_eq_call (window : WindowKey) (vars : Variables) (settings : Settings) :
    ∃ question : EngineCall, question.IsForEnvironment ∧
      ∃ ending : question.Reply → Outcome DaemonError Daemon,
        (Daemon.create Resumption.engine window vars settings : Resumption (Pipeline κ) _) =
          .call question fun reply ↦ .done (ending reply) := by
  rw [Daemon.create, ResolvedEnvironment.resolve, ResolvedEnvironment.choose]
  cases ResolvedEnvironment.configured? settings Platform.host with
  | none => exact ⟨.defaultEnvironment, trivial, _, rfl⟩
  | some template => exact ⟨.createEnvironment (vars.substitute template), trivial, _, rfl⟩

theorem Analyzer.isSettled_fixed (reply : (question : EngineCall) → question.Reply) :
    (Analyzer.fixed reply).IsSettled :=
  fun _ _ _ _ h h' ↦ h.trans h'.symm

/-- What a resolution can give at all, it gives every time. -/
theorem Analyzer.IsSettled.resolvesTo (hanalyzer : analyzer.IsSettled)
    (h : (Daemon.create Resumption.engine window vars settings :
      Resumption (Pipeline κ) _).Yields analyzer (.value daemon)) :
    ResolvesTo κ analyzer window vars settings daemon := by
  intro outcome
  refine ⟨fun houtcome ↦ ?_, fun heq ↦ heq ▸ h⟩
  obtain ⟨question, hquestion, ending, hcreate⟩ := create_eq_call (κ := κ) window vars settings
  rw [hcreate] at h houtcome
  generalize houtcome' : Outcome.value daemon = given at h ⊢
  cases h with
  | call reply hreply hdone =>
    cases houtcome with
    | call reply' hreply' hdone' =>
      cases hdone
      cases hdone'
      rw [hanalyzer question hquestion reply reply' hreply hreply']

/-! ## Runs -/

namespace Freshness

variable {s : Freshness κ}

/-- The registry observes the settings, and no change is on its way to it that would clear it. -/
def IsCalm (s : Freshness κ) : Prop := s.pipeline.registryObserver.isSome ∧ ¬s.IsPending

theorem Covers.of_isCalm {seen : Settings} (h : s.Covers seen) (hcalm : s.IsCalm) :
    seen.SameEnvironment s.pipeline.store.current :=
  (h hcalm.1).resolve_right hcalm.2

theorem IsSettled.isCalm (h : s.IsSettled) (hobserves : s.pipeline.registryObserver.isSome) :
    s.IsCalm := ⟨hobserves, not_isPending h⟩

theorem origins_step (s : Freshness κ) (e : FreshnessEvent analyzer) :
    s.origins <+: (s.step e).origins := by
  cases e with
  | act index =>
    rw [step, act]
    split
    · exact List.prefix_append _ _
    · exact List.prefix_refl _
  | reply index replies =>
    rw [step, reply]
    split <;> exact List.prefix_refl _
  | publish index =>
    rw [step, publish]
    split <;> exact List.prefix_refl _
  | ask ask => exact List.prefix_refl _
  | install settings => exact List.prefix_refl _
  | observe => exact List.prefix_refl _
  | invalidate => exact List.prefix_refl _
  | remove window => exact List.prefix_refl _
  | shutdown => exact List.prefix_refl _

theorem origins_run (s : Freshness κ) (events : List (FreshnessEvent analyzer)) :
    s.origins <+: (s.run events).origins := by
  induction events generalizing s with
  | nil => exact List.prefix_refl _
  | cons e rest ih => exact (origins_step s e).trans (ih (s.step e))

theorem lookup_origins_run {serial : Nat} {o : Origin} (h : s.origins.lookup serial = some o)
    (events : List (FreshnessEvent analyzer)) : (s.run events).origins.lookup serial = some o := by
  obtain ⟨added, hadded⟩ := origins_run s events
  rw [← hadded, List.lookup_append, h, Option.some_or]

/-- **The registry is cleared by every change that matters.** Settings without a difference in the
three that clear it lead to the same calls of the analyzer and the same result, whatever the
analyzer and the variables are. So if the analyzer answers equal calls for environments equally, no
run of the registry contains an environment that a change leaves there and makes different from
what a fresh resolution with the same variables gives: neither one change that is passed to the
registry, nor all those together that lie between two moments. -/
theorem settingsChanged_keepsResolved :
    (∀ (m : Type → Type) [Monad m] (engine : Engine m) (vars : Variables) (platform : Platform)
      (a b : Settings), (∀ key ∈ Setting.environment, key ∉ a.changedKeys b) →
      ResolvedEnvironment.resolve engine vars a platform =
        ResolvedEnvironment.resolve engine vars b platform) ∧
    ∀ (κ : Type) (analyzer : Analyzer), analyzer.IsSettled →
      ∀ (settings : Settings) (hasLog : Bool) (events : List (FreshnessEvent analyzer))
        (s : Freshness κ), s = (start settings hasLog).run events →
      ∀ window found, (window, found) ∈ s.pipeline.registry.daemons →
        ∃ o, s.origins.lookup found.serial = some o ∧ o.window = window ∧
          ResolvesTo κ analyzer window o.vars o.read found.daemon ∧
          (∀ a b : Settings, (s.pipeline.settingsChanged ⟨a.changedKeys b, b⟩).1 = false →
            (s.pipeline.settingsChanged ⟨a.changedKeys b, b⟩).2 = s.pipeline ∧
              (ResolvesTo κ analyzer window o.vars a found.daemon ↔
                ResolvesTo κ analyzer window o.vars b found.daemon)) ∧
          ∀ later : List (FreshnessEvent analyzer), s.IsCalm → (s.run later).IsCalm →
            (window, found) ∈ (s.run later).pipeline.registry.daemons →
            (ResolvesTo κ analyzer window o.vars s.pipeline.store.current found.daemon ↔
              ResolvesTo κ analyzer window o.vars (s.run later).pipeline.store.current
                found.daemon) := by
  constructor
  · intro m _ engine vars platform a b hkeys
    exact ResolvedEnvironment.resolve_congr engine vars platform <|
      Settings.sameEnvironment_of_not_touches (SettingsChange.touchesEnvironment_eq_false.mpr hkeys)
  intro κ analyzer hanalyzer settings hasLog events s hs window found hkept
  have hconsistent : s.Consistent analyzer := hs ▸ (consistent_start settings hasLog).run events
  obtain ⟨o, ho, hexplains, hcovers⟩ := hconsistent.cached window found hkept
  refine ⟨o, ho, hexplains.place, hanalyzer.resolvesTo hexplains.resolved, ?_, ?_⟩
  · intro a b hkeeps
    have hnot : (SettingsChange.mk (a.changedKeys b) b).touchesEnvironment = false := by
      rw [Pipeline.settingsChanged] at hkeeps
      split at hkeeps
      · cases hkeeps
      · next hnot => exact Bool.eq_false_iff.mpr hnot
    rw [Pipeline.settingsChanged, if_neg (Bool.eq_false_iff.mp hnot)]
    exact ⟨rfl, resolvesTo_congr (Settings.sameEnvironment_of_not_touches hnot)⟩
  · intro later hcalm hcalm' hkept'
    obtain ⟨o', ho', -, hcovers'⟩ := (hconsistent.run later).cached window found hkept'
    obtain rfl : o = o' := Option.some.inj ((lookup_origins_run ho later).symm.trans ho')
    exact resolvesTo_congr ((hcovers.of_isCalm hcalm).symm.trans (hcovers'.of_isCalm hcalm'))

/-! ### A change that matters to nobody -/

def fuzzySettings : Settings := { Settings.default with fuzzy := true }

/-- An analyzer that replies the same every time, and finds nothing. -/
def emptyReply : (question : EngineCall) → question.Reply
  | .defaultEnvironment => .value ⟨"python", []⟩
  | .createEnvironment path => .value ⟨path, []⟩
  | .analyze _ => .value ()
  | .callSignatures _ | .completions _ _ => .value []

/-- A request in a window without variables is answered up to the point where its environment is
kept. -/
def untilKept : List (FreshnessEvent (.fixed emptyReply)) :=
  [.ask ⟨⟨1⟩, ⟨0⟩, .empty, ⟨none, "", 0, 0, .funcArgs true⟩⟩, .act 0, .act 0,
    .reply 0 (Analyzer.fixedReplies emptyReply), .act 0]

/-- The settings change in a way that does not matter to environments, and the registry takes it
up. -/
def untilTakenUp : List (FreshnessEvent (.fixed emptyReply)) :=
  [.install fuzzySettings, .publish 0, .observe]

/-- The environment of the window is as good after the change as it was before. -/
theorem settingsChanged_keepsResolved_fuzzy :
    (∀ key ∈ Setting.environment, key ∉ Settings.default.changedKeys fuzzySettings) ∧
      ResolvedEnvironment.resolve (Resumption.engine : Engine (Resumption Unit)) .empty .default
          .linux =
        ResolvedEnvironment.resolve Resumption.engine .empty fuzzySettings .linux ∧
      (Analyzer.fixed emptyReply).IsSettled ∧
      ∃ daemon, (⟨1⟩, ⟨0, daemon⟩) ∈
          (((start .default false : Freshness Unit).run untilKept).run
            untilTakenUp).pipeline.registry.daemons ∧
        ResolvesTo Unit (.fixed emptyReply) ⟨1⟩ .empty fuzzySettings daemon := by
  have hkeys : ∀ key ∈ Setting.environment, key ∉ Settings.default.changedKeys fuzzySettings := by
    decide
  refine ⟨hkeys, settingsChanged_keepsResolved.1 _ _ _ _ _ _ hkeys,
    Analyzer.isSettled_fixed emptyReply, ⟨⟨1⟩, ⟨⟨"python", []⟩, []⟩⟩, List.mem_singleton_self _, ?_⟩
  obtain ⟨o, ho, -, hread, -, hlater⟩ :=
    settingsChanged_keepsResolved.2 Unit _ (Analyzer.isSettled_fixed emptyReply) .default false
      untilKept _ rfl ⟨1⟩ ⟨0, ⟨⟨1⟩, ⟨⟨"python", []⟩, []⟩⟩⟩ (List.mem_singleton_self _)
  obtain rfl : o = ⟨⟨1⟩, .empty, .default, .default⟩ := (Option.some.inj ho).symm
  exact (hlater untilTakenUp (IsSettled.isCalm ⟨rfl, rfl⟩ rfl) (IsSettled.isCalm ⟨rfl, rfl⟩ rfl)
    (List.mem_singleton_self _)).mp hread

end Freshness

end CodeHints
