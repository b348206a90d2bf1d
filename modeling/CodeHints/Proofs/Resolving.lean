import CodeHints.Proofs.Answering

/-!
# Which environment the settings choose

The settings of a platform name a virtual environment and an interpreter, either of which may be
left out, and package paths. Resolving an environment from them is a single call of the analyzer.
The first of the two that is given decides which call it is, and if there is none the default
environment is asked for. What was given is a template and is expanded before it is passed on;
whether it is given at all is decided before that. So a template that expands to nothing is not the
same as none: it is tried, and if it fails there is no other attempt.

`Settings.Selects` says which source the settings select, `resolve_selected` what becomes of the
call.

Main result: `resolve_asksOnce`.
-/

namespace CodeHints

/-! ## Sources of environments -/

/-- The settings of a platform select a path to make an environment from, or none. -/
inductive Settings.Selects (settings : Settings) (vars : Variables) (platform : Platform) :
    Option String → Prop
  | virtualenv (h : settings.virtualenv.get platform ≠ "") :
      Selects settings vars platform (some (vars.substitute (settings.virtualenv.get platform)))
  | interpreter (hvirtualenv : settings.virtualenv.get platform = "")
      (h : settings.interpreter.get platform ≠ "") :
      Selects settings vars platform (some (vars.substitute (settings.interpreter.get platform)))
  | none (hvirtualenv : settings.virtualenv.get platform = "")
      (hinterpreter : settings.interpreter.get platform = "") :
      Selects settings vars platform none

theorem Settings.exists_selects (settings : Settings) (vars : Variables) (platform : Platform) :
    ∃ path?, settings.Selects vars platform path? := by
  by_cases hvirtualenv : settings.virtualenv.get platform = ""
  · by_cases hinterpreter : settings.interpreter.get platform = ""
    · exact ⟨_, .none hvirtualenv hinterpreter⟩
    · exact ⟨_, .interpreter hvirtualenv hinterpreter⟩
  · exact ⟨_, .virtualenv hvirtualenv⟩

/-- The call for an environment. -/
def EngineCall.forEnvironment : Option String → EngineCall
  | some path => .createEnvironment path
  | none => .defaultEnvironment

/-- What the call for an environment is replied. -/
def Replying.environment (reply : Replying) (past : List Exchange) :
    Option String → Outcome EngineError Environment
  | some path => reply past (.createEnvironment path)
  | none => reply past .defaultEnvironment

/-- The error that reports that there is no environment, with the reason of the analyzer. -/
def DaemonError.noEnvironment : Option String → EngineError → DaemonError
  | some path, reason => .environment path reason
  | none, reason => .defaultEnvironment reason

namespace ResolvedEnvironment

/-- One call is made, and its reply is all that matters. -/
theorem resolve_selected (reply : Replying) (past : List Exchange) {settings : Settings}
    {vars : Variables} {platform : Platform} {path? : Option String}
    (h : settings.Selects vars platform path?) :
    (resolve (recording reply) vars settings platform).run past =
      (((reply.environment past path?).mapError (.noEnvironment path?)).map
          (ofEnvironment vars settings platform),
        past ++ [reply.exchange past (.forEnvironment path?)]) := by
  rw [resolve, choose, configured?]
  cases h with
  | virtualenv h =>
    rw [if_pos h]
    rfl
  | interpreter hvirtualenv h =>
    rw [if_neg (not_not_intro hvirtualenv), if_pos h]
    rfl
  | none hvirtualenv hinterpreter =>
    rw [if_neg (not_not_intro hvirtualenv), if_neg (not_not_intro hinterpreter)]
    rfl

/-- Nothing matters but the settings of the platform: settings that agree on them lead to the same
calls of the analyzer, and to the same result. -/
theorem resolve_eq_of_platform {m : Type → Type} [Monad m] (engine : Engine m) (vars : Variables)
    {platform : Platform} {a b : Settings}
    (hvirtualenv : a.virtualenv.get platform = b.virtualenv.get platform)
    (hinterpreter : a.interpreter.get platform = b.interpreter.get platform)
    (hpaths : a.packagePaths.get platform = b.packagePaths.get platform) :
    resolve engine vars a platform = resolve engine vars b platform := by
  have hconfigured : configured? a platform = configured? b platform := by
    rw [configured?, configured?, hvirtualenv, hinterpreter]
  have hsearch : ofEnvironment vars a platform = ofEnvironment vars b platform := by
    funext environment
    rw [ofEnvironment, ofEnvironment, hpaths]
  rw [resolve, resolve, choose, choose, hconfigured, hsearch]

/-- **An environment is asked for once.** Whatever the analyzer replies, it is put a single call: to
make an environment from the expanded virtual environment of the platform if there is one, else from
the expanded interpreter if there is one, and else for the default environment. If the call fails,
the error has the reason of the analyzer and the path that was tried. If it gives an environment,
this is the result, with the expanded package paths of the platform in front of its own paths. What
is configured for other platforms has no influence on the calls or on the result. -/
theorem resolve_asksOnce (reply : Replying) (vars : Variables) (settings : Settings)
    (platform : Platform) (past : List Exchange) :
    (∃ path? outcome, settings.Selects vars platform path? ∧
      (resolve (recording reply) vars settings platform).run past =
        (outcome, past ++ [reply.exchange past (.forEnvironment path?)]) ∧
      (∀ reason, reply.environment past path? = .failed reason →
        outcome = .failed (.noEnvironment path? reason)) ∧
      (∀ environment, reply.environment past path? = .value environment →
        outcome = .value ⟨environment,
          (settings.packagePaths.get platform).map vars.substitute ++ environment.sysPath⟩) ∧
      ∀ payload, reply.environment past path? = .broken payload → outcome = .broken payload) ∧
    ∀ other : Settings, other.virtualenv.get platform = settings.virtualenv.get platform →
      other.interpreter.get platform = settings.interpreter.get platform →
      other.packagePaths.get platform = settings.packagePaths.get platform →
      ∀ (m : Type → Type) [Monad m] (engine : Engine m),
        resolve engine vars other platform = resolve engine vars settings platform := by
  refine ⟨?_, fun other hvirtualenv hinterpreter hpaths m _ engine ↦
    resolve_eq_of_platform engine vars hvirtualenv hinterpreter hpaths⟩
  obtain ⟨path?, hselects⟩ := settings.exists_selects vars platform
  refine ⟨path?, _, hselects, resolve_selected reply past hselects, ?_, ?_, ?_⟩
  · intro reason h
    rw [h]
    rfl
  · intro environment h
    rw [h]
    rfl
  · intro payload h
    rw [h]
    rfl

/-- Settings with a virtual environment on one platform, and on another one an interpreter that
expands to nothing. -/
def blankInterpreter : Settings :=
  { Settings.default with
    virtualenv := ⟨"C:\\venv", "", ""⟩
    interpreter := ⟨"", "", "$nowhere"⟩ }

/-- An analyzer that can make no environment from a path. -/
def onlyDefault : Replying := fun _ question ↦
  match question with
  | .defaultEnvironment => .value ⟨"python", []⟩
  | .createEnvironment _ => .failed (.environment "no such file")
  | .analyze _ => .value ()
  | .callSignatures _ | .completions _ _ => .value []

/-- The interpreter is tried although nothing is left of it, and the default environment is not.
The virtual environment of the other platform makes no difference. -/
theorem resolve_blankInterpreter :
    (resolve (recording onlyDefault) .empty blankInterpreter .linux).run [] =
        (.failed (.environment "" (.environment "no such file")),
          [⟨.createEnvironment "", .failed (.environment "no such file")⟩]) ∧
      blankInterpreter.virtualenv.get .linux = Settings.default.virtualenv.get .linux ∧
      resolve (recording onlyDefault) .empty
          { blankInterpreter with virtualenv := .const "" } .linux =
        resolve (recording onlyDefault) .empty blankInterpreter .linux := by
  obtain ⟨⟨path?, outcome, hselects, hrun, hfailed, -, -⟩, hother⟩ :=
    resolve_asksOnce onlyDefault .empty blankInterpreter .linux []
  refine ⟨?_, rfl, hother { blankInterpreter with virtualenv := .const "" } rfl rfl rfl _ _⟩
  cases hselects with
  | virtualenv h => exact absurd rfl h
  | none _ hinterpreter => exact absurd hinterpreter (by decide)
  | interpreter _ _ =>
    have hblank : Variables.empty.substitute (blankInterpreter.interpreter.get .linux) = "" := by
      decide +kernel
    rw [hblank] at hfailed hrun
    rw [hrun, hfailed _ rfl]
    rfl

end ResolvedEnvironment

end CodeHints
