import CodeHints.Proofs.Freshness.Basic
import CodeHints.Proofs.Registry

/-!
# When environments are up to date

An environment is out of date when the settings it was resolved from differ from those in effect in
something that decides about environments. While a change is on its way to the registry this cannot
be helped. The question is what is left once every change has been taken up.

## What the generation protects, and what not

The registry counts its invalidations, and keeps an environment only if it was found to have none in
the same generation. `Consistent` says what follows from this: the settings in effect *at the look
into the registry* are those in effect now, or a change is still on its way. The environment was
resolved from the settings that the request *read*, though, and it read them before it looked. A
change that is installed, published and taken up between the two goes unnoticed. So in a settled
state an environment is up to date exactly if reading and looking found the same settings, which is
`settled_isUpToDate_iff`.
-/

namespace CodeHints

/-- An environment was resolved for a window as its origin says. -/
structure Origin.Explains (κ : Type) (analyzer : Analyzer) (o : Origin) (window : WindowKey)
    (daemon : Daemon) : Prop where
  place : o.window = window
  resolved : (Daemon.create Resumption.engine window o.vars o.read :
    Resumption (Pipeline κ) _).Yields analyzer (.value daemon)

namespace Freshness

variable {κ : Type} {analyzer : Analyzer} {s : Freshness κ}

/-- A change that calls for new environments is on its way to the registry, or changes were lost on
this way. -/
def IsPending (s : Freshness κ) : Prop :=
  (∃ c ∈ s.unpublished, c.touchesEnvironment = true) ∨
    ∃ next, s.pipeline.registryObserver = some next ∧
      (next < s.pipeline.store.changes.oldest ∨
        ∃ i c, next ≤ i ∧ s.pipeline.store.changes.history[i]? = some c ∧
          c.touchesEnvironment = true)

/-- As long as the registry observes, some settings are up to date or a change is on its way. -/
def Covers (s : Freshness κ) (seen : Settings) : Prop :=
  s.pipeline.registryObserver.isSome → seen.SameEnvironment s.pipeline.store.current ∨ s.IsPending

/-- What holds after every run. -/
structure Consistent (analyzer : Analyzer) (s : Freshness κ) : Prop where
  conforms : ∀ c ∈ s.consultations, c.Conforms analyzer
  looked : ∀ c ∈ s.consultations, ∀ settings seen generation,
    c.stage = .looked settings seen generation → generation ≤ s.pipeline.registry.generation ∧
      (generation = s.pipeline.registry.generation → s.Covers seen)
  position : ∀ next, s.pipeline.registryObserver = some next →
    next ≤ s.pipeline.store.changes.history.length
  numbered : ∀ x ∈ s.origins, x.1 < s.pipeline.registry.resolved
  cached : ∀ window found, (window, found) ∈ s.pipeline.registry.daemons →
    ∃ o, s.origins.lookup found.serial = some o ∧ o.Explains κ analyzer window found.daemon ∧
      s.Covers o.seen

/-! ## Events that leave the requests alone -/

/-- The registry stays in its generation, and what was covered still is. -/
private structure Keeps (s t : Freshness κ) : Prop where
  daemons : ∀ x ∈ t.pipeline.registry.daemons, x ∈ s.pipeline.registry.daemons
  generation : t.pipeline.registry.generation = s.pipeline.registry.generation
  covers : ∀ {seen : Settings}, s.Covers seen → t.Covers seen

/-- The registry forgets every environment and begins a new generation. -/
private structure Forgets (s t : Freshness κ) : Prop where
  daemons : t.pipeline.registry.daemons = []
  generation : s.pipeline.registry.generation < t.pipeline.registry.generation

private theorem Consistent.carry {t : Freshness κ} (h : s.Consistent analyzer)
    (hconsultations : t.consultations = s.consultations) (horigins : t.origins = s.origins)
    (hresolved : t.pipeline.registry.resolved = s.pipeline.registry.resolved)
    (hposition : ∀ next, t.pipeline.registryObserver = some next →
      next ≤ t.pipeline.store.changes.history.length)
    (hregistry : Keeps s t ∨ Forgets s t) : t.Consistent analyzer := by
  refine ⟨?_, ?_, hposition, ?_, ?_⟩
  · rw [hconsultations]
    exact h.conforms
  · rw [hconsultations]
    intro c hc settings seen generation hstage
    obtain ⟨hle, hseen⟩ := h.looked c hc settings seen generation hstage
    obtain hkeeps | hforgets := hregistry
    · rw [hkeeps.generation]
      exact ⟨hle, fun heq ↦ hkeeps.covers (hseen heq)⟩
    · -- what a request hands over that has looked before will not be kept
      have hlt := hforgets.generation
      exact ⟨by omega, fun heq ↦ by omega⟩
  · rw [horigins, hresolved]
    exact h.numbered
  · intro window found hmem
    obtain hkeeps | hforgets := hregistry
    · obtain ⟨o, ho, hexplains, hseen⟩ := h.cached window found (hkeeps.daemons _ hmem)
      exact ⟨o, by rw [horigins]; exact ho, hexplains, hkeeps.covers hseen⟩
    · rw [hforgets.daemons] at hmem
      cases hmem

private theorem forgets_invalidateAll (s : Freshness κ) (observer : Option Nat) :
    Forgets s { s with
      pipeline := { s.pipeline with registryObserver := observer }.invalidateAll } :=
  have hspec := s.pipeline.registry.invalidateAll_spec s.pipeline.pool
  ⟨hspec.1, Nat.lt_of_lt_of_eq (Nat.lt_succ_self _) hspec.2.2.1.symm⟩

theorem Consistent.invalidate (h : s.Consistent analyzer) :
    Consistent analyzer { s with pipeline := s.pipeline.invalidateAll } :=
  h.carry rfl rfl (s.pipeline.registry.invalidateAll_spec s.pipeline.pool).2.2.2 h.position
    (.inr (forgets_invalidateAll s _))

theorem Consistent.remove (h : s.Consistent analyzer) (window : WindowKey) :
    Consistent analyzer { s with pipeline := s.pipeline.removeWindow window } :=
  h.carry rfl rfl rfl h.position
    (.inl ⟨fun _ hx ↦ (Registry.mem_without.mp hx).1, rfl, fun hseen ↦ hseen⟩)

theorem Consistent.shutdown (h : s.Consistent analyzer) :
    Consistent analyzer { s with pipeline := s.pipeline.shutdown } := by
  cases hdown : s.pipeline.isShutDown with
  | true =>
    have hsame : s.pipeline.shutdown = s.pipeline := by rw [Pipeline.shutdown, hdown, if_pos rfl]
    rw [hsame]
    exact h
  | false =>
    have hshut : s.pipeline.shutdown =
        { s.pipeline with isShutDown := true }.shutdownRequests := by
      rw [Pipeline.shutdown, hdown]
      rfl
    rw [hshut]
    exact h.carry rfl rfl rfl h.position (.inr ⟨rfl, Nat.lt_succ_self _⟩)

/-! ## The observer -/

theorem Consistent.observe (h : s.Consistent analyzer) :
    Consistent analyzer { s with pipeline := s.pipeline.observeForRegistry } := by
  rw [Pipeline.observeForRegistry]
  cases hobserver : s.pipeline.registryObserver with
  | none => exact h
  | some next =>
    dsimp only
    by_cases hdown : s.pipeline.isShutDown = true
    · rw [if_pos hdown]
      refine h.carry rfl rfl rfl (fun _ hnext ↦ by cases hnext) (.inl ⟨fun _ hx ↦ hx, rfl, ?_⟩)
      exact fun _ hsome ↦ by cases hsome
    rw [if_neg hdown, Channel.receive]
    by_cases hlost : next < s.pipeline.store.changes.oldest
    · rw [if_pos hlost]
      refine h.carry rfl rfl (s.pipeline.registry.invalidateAll_spec s.pipeline.pool).2.2.2 ?_
        (.inr (forgets_invalidateAll s _))
      rintro _ ⟨⟩
      exact Nat.sub_le _ _
    rw [if_neg hlost]
    cases hchange : s.pipeline.store.changes.history[next]? with
    | none =>
      refine h.carry rfl rfl rfl ?_ (.inl ⟨fun _ hx ↦ hx, rfl, fun {seen} hseen ↦ ?_⟩)
      · rintro _ ⟨⟩
        exact h.position next hobserver
      · simp only [Covers, IsPending, hobserver] at hseen ⊢
        exact hseen
    | some change =>
      have hposition : next + 1 ≤ s.pipeline.store.changes.history.length :=
        (List.getElem?_eq_some_iff.mp hchange).1
      dsimp only [Pipeline.settingsChanged]
      cases htouches : change.touchesEnvironment with
      | true =>
        refine h.carry rfl rfl (s.pipeline.registry.invalidateAll_spec s.pipeline.pool).2.2.2 ?_
          (.inr (forgets_invalidateAll s _))
        rintro _ ⟨⟩
        exact hposition
      | false =>
        refine h.carry rfl rfl rfl ?_ (.inl ⟨fun _ hx ↦ hx, rfl, fun {seen} hseen _ ↦ ?_⟩)
        · rintro _ ⟨⟩
          exact hposition
        -- the change taken up does not matter, so one that does comes later
        refine (hseen (by rw [hobserver]; rfl)).imp_right (Or.imp_right ?_)
        rintro ⟨next', hnext, hbehind | ⟨i, c, hi, hget, hc⟩⟩
        · exact absurd (Option.some.inj (hobserver.symm.trans hnext) ▸ hbehind) hlost
        · refine ⟨next + 1, rfl, .inr ⟨i, c, ?_, hget, hc⟩⟩
          have hle : next ≤ i := Option.some.inj (hobserver.symm.trans hnext) ▸ hi
          refine Nat.lt_of_le_of_ne hle ?_
          rintro rfl
          rw [Option.some.inj (hchange.symm.trans hget), hc] at htouches
          cases htouches

/-! ## Changes of the settings -/

theorem Consistent.install (h : s.Consistent analyzer) (settings : Settings) :
    (s.install settings).Consistent analyzer := by
  have hcovers {seen : Settings} (hseen : s.Covers seen) :
      (s.install settings).Covers seen := by
    intro hobserver
    obtain hsame | hpending := hseen hobserver
    · cases htouches :
        (SettingsChange.mk (s.pipeline.store.current.changedKeys settings)
          settings).touchesEnvironment with
      | true =>
        exact .inr (.inl ⟨_, List.mem_append_right _ (List.mem_singleton.mpr rfl), htouches⟩)
      | false => exact .inl (hsame.trans (Settings.sameEnvironment_of_not_touches htouches))
    · refine .inr (hpending.imp_left ?_)
      rintro ⟨c, hc, htouches⟩
      exact ⟨c, List.mem_append_left _ hc, htouches⟩
  exact h.carry rfl rfl rfl h.position (.inl ⟨fun _ hx ↦ hx, rfl, hcovers⟩)

theorem publish_of_some {index : Nat} {change : SettingsChange}
    (h : s.unpublished[index]? = some change) :
    s.publish index =
      { s with
        pipeline := { s.pipeline with store := s.pipeline.store.publish change }
        unpublished := s.unpublished.eraseIdx index } := by
  simp only [publish, h]

/-- What is published is on its way to an observer that has not come to it yet. -/
private theorem pending_publish {index : Nat} {change : SettingsChange}
    (hchange : s.unpublished[index]? = some change) {next : Nat}
    (hobserver : s.pipeline.registryObserver = some next)
    (hposition : next ≤ s.pipeline.store.changes.history.length) (hpending : s.IsPending) :
    (s.publish index).IsPending := by
  rw [publish_of_some hchange]
  have herase {c : SettingsChange} (hc : c ∈ s.unpublished) (hne : c ≠ change) :
      c ∈ s.unpublished.eraseIdx index := by
    obtain ⟨i, hi⟩ := List.mem_iff_getElem?.mp hc
    have hindex : i ≠ index := by
      rintro rfl
      exact hne (Option.some.inj (hi.symm.trans hchange))
    exact List.mem_eraseIdx_iff_getElem?.mpr ⟨i, hindex, hi⟩
  by_cases hkeys : change.keys.isEmpty = true
  · -- nothing is published, but such a change does not matter to the registry either
    have hnot : change.touchesEnvironment = false := by
      rw [List.isEmpty_iff] at hkeys
      simp [SettingsChange.touchesEnvironment, SettingsChange.anyChanged,
        SettingsChange.hasChanged, hkeys]
    refine hpending.imp ?_ ?_
    · rintro ⟨c, hc, htouches⟩
      refine ⟨c, herase hc ?_, htouches⟩
      rintro rfl
      rw [hnot] at htouches
      cases htouches
    · rw [SettingsStore.publish, if_pos hkeys]
      exact fun h ↦ h
  · have hhistory : (s.pipeline.store.publish change).changes.history =
        s.pipeline.store.changes.history ++ [change] := by
      rw [SettingsStore.publish, if_neg hkeys]
      rfl
    obtain ⟨c, hc, htouches⟩ | ⟨next', hnext, hlost | ⟨i, c, hi, hget, htouches⟩⟩ := hpending
    · by_cases heq : c = change
      · subst heq
        refine .inr ⟨next, hobserver, .inr ⟨_, c, hposition, ?_, htouches⟩⟩
        change (s.pipeline.store.publish c).changes.history[_]? = _
        rw [hhistory, List.getElem?_concat_length]
      · exact .inl ⟨c, herase hc heq, htouches⟩
    · -- what was lost stays lost, since the channel keeps only so many changes
      refine .inr ⟨next', hnext, .inl ?_⟩
      change next' < (s.pipeline.store.publish change).changes.history.length - Channel.capacity
      rw [hhistory, List.length_append]
      exact Nat.lt_of_lt_of_le hlost (Nat.sub_le_sub_right (Nat.le_add_right _ _) _)
    · refine .inr ⟨next', hnext, .inr ⟨i, c, hi, ?_, htouches⟩⟩
      change (s.pipeline.store.publish change).changes.history[i]? = _
      rw [hhistory, List.getElem?_append_left (List.getElem?_eq_some_iff.mp hget).1]
      exact hget

theorem Consistent.publish (h : s.Consistent analyzer) (index : Nat) :
    (s.publish index).Consistent analyzer := by
  cases hchange : s.unpublished[index]? with
  | none =>
    have hsame : s.publish index = s := by simp only [Freshness.publish, hchange]
    rw [hsame]
    exact h
  | some change =>
    have hpublish := publish_of_some hchange
    have hcovers {seen : Settings} (hseen : s.Covers seen) : (s.publish index).Covers seen := by
      have hcurrent : (s.publish index).pipeline.store.current = s.pipeline.store.current := by
        rw [hpublish, SettingsStore.publish]
        split <;> rfl
      have hobserver : (s.publish index).pipeline.registryObserver =
          s.pipeline.registryObserver := by rw [hpublish]
      rw [Covers, hcurrent, hobserver]
      intro hsome
      obtain ⟨next, hnext⟩ := Option.isSome_iff_exists.mp hsome
      exact (hseen hsome).imp_right (pending_publish hchange hnext (h.position next hnext))
    rw [hpublish] at hcovers ⊢
    refine h.carry rfl rfl rfl ?_ (.inl ⟨fun _ hx ↦ hx, rfl, hcovers⟩)
    intro next hnext
    refine Nat.le_trans (h.position next hnext) ?_
    change _ ≤ (s.pipeline.store.publish change).changes.history.length
    rw [SettingsStore.publish]
    split
    · exact Nat.le_refl _
    · change _ ≤ (s.pipeline.store.changes.history ++ [change]).length
      rw [List.length_append]
      exact Nat.le_add_right _ _

/-! ## Requests -/

theorem Consistent.ask (h : s.Consistent analyzer) (ask : Ask) :
    (s.ask ask).Consistent analyzer := by
  have hnew (c : Consultation κ) (hc : c ∈ (s.ask ask).consultations) :
      c ∈ s.consultations ∨
        c = ⟨ask, .asked, Pipeline.askSync Resumption.atomic Resumption.engine ask⟩ :=
    (List.mem_append.mp hc).imp_right List.mem_singleton.mp
  refine ⟨?_, ?_, h.position, h.numbered, h.cached⟩
  · intro c hc
    obtain hold | rfl := hnew c hc
    · exact h.conforms c hold
    · exact Consultation.isAsked_askSync analyzer ask
  · intro c hc settings seen generation hstage
    obtain hold | rfl := hnew c hc
    · exact h.looked c hold settings seen generation hstage
    · cases hstage

theorem Consistent.reply (h : s.Consistent analyzer) (index : Nat) (replies : analyzer.Replies) :
    (s.reply index replies).Consistent analyzer := by
  rw [Freshness.reply]
  split
  · next ask stage question next hget =>
    have hmem := List.mem_of_getElem? hget
    refine ⟨?_, ?_, h.position, h.numbered, h.cached⟩
    · intro c hc
      obtain hold | rfl := List.mem_or_eq_of_mem_set hc
      · exact h.conforms c hold
      · exact (h.conforms _ hmem).reply (replies question).2
    · intro c hc settings seen generation hstage
      obtain hold | rfl := List.mem_or_eq_of_mem_set hc
      · exact h.looked c hold settings seen generation hstage
      · exact h.looked _ hmem settings seen generation hstage
  · exact h

/-- A request that was found at a stage makes an access that does not change the pipeline. -/
private theorem act_of_same {index : Nat} {ask : Ask} {stage : Stage}
    {update : Pipeline κ → Pipeline κ}
    {next : Pipeline κ → Resumption (Pipeline κ) (Outcome DaemonError (Option Answer))}
    (hget : s.consultations[index]? = some ⟨ask, stage, .access update next⟩)
    (hsame : update s.pipeline = s.pipeline) (horigin : stage.origin s.pipeline ask = []) :
    s.act index = { s with
      consultations := s.consultations.set index
        ⟨ask, stage.next s.pipeline ask, next s.pipeline⟩ } := by
  simp only [act, hget, hsame, horigin, List.append_nil]

private theorem Consistent.advance (h : s.Consistent analyzer) (index : Nat) {c : Consultation κ}
    (hconforms : c.Conforms analyzer)
    (hlooked : ∀ settings seen generation, c.stage = .looked settings seen generation →
      generation ≤ s.pipeline.registry.generation ∧
        (generation = s.pipeline.registry.generation → s.Covers seen)) :
    Consistent analyzer { s with consultations := s.consultations.set index c } := by
  refine ⟨?_, ?_, h.position, h.numbered, h.cached⟩
  · intro c' hc'
    obtain hold | rfl := List.mem_or_eq_of_mem_set hc'
    · exact h.conforms c' hold
    · exact hconforms
  · intro c' hc'
    obtain hold | rfl := List.mem_or_eq_of_mem_set hc'
    · exact h.looked c' hold
    · exact hlooked

/-- A new environment comes with an origin of its own. -/
private theorem Consistent.insert (h : s.Consistent analyzer) (index : Nat) {ask : Ask}
    {settings seen : Settings} {generation : Nat} {daemon : Daemon}
    {rest : Resumption (Pipeline κ) (Outcome DaemonError (Option Answer))}
    (hseen : generation = s.pipeline.registry.generation → s.Covers seen)
    (hdaemon : (Daemon.create Resumption.engine ask.window ask.vars settings :
      Resumption (Pipeline κ) _).Yields analyzer (.value daemon))
    (hrest : Consultation.IsPassed analyzer rest) :
    Consistent analyzer { s with
      pipeline := { s.pipeline with
        registry := (s.pipeline.registry.insert ask.window generation daemon).2 }
      consultations := s.consultations.set index ⟨ask, .passed, rest⟩
      origins := s.origins ++
        [(s.pipeline.registry.resolved, ⟨ask.window, ask.vars, settings, seen⟩)] } := by
  have hadvanced := h.advance index (c := ⟨ask, .passed, rest⟩) hrest (fun _ _ _ e ↦ by cases e)
  have hnumbered {resolved : Nat} (hresolved : resolved = s.pipeline.registry.resolved + 1) :
      ∀ x ∈ s.origins ++
        [(s.pipeline.registry.resolved, ⟨ask.window, ask.vars, settings, seen⟩)],
        x.1 < resolved := by
    intro x hx
    obtain hold | hnew := List.mem_append.mp hx
    · have := h.numbered x hold
      omega
    · rw [List.mem_singleton.mp hnew]
      exact hresolved ▸ Nat.lt_succ_self _
  have hcached (window : WindowKey) (found : Resolution)
      (hmem : (window, found) ∈ s.pipeline.registry.daemons) :
      ∃ o, (s.origins ++ [(s.pipeline.registry.resolved,
          (⟨ask.window, ask.vars, settings, seen⟩ : Origin))]).lookup found.serial = some o ∧
        o.Explains κ analyzer window found.daemon ∧ s.Covers o.seen := by
    obtain ⟨o, ho, hexplains, hcovers⟩ := h.cached window found hmem
    exact ⟨o, by rw [List.lookup_append, ho, Option.some_or], hexplains, hcovers⟩
  -- the environment is counted in any case, and it is kept only in the same generation
  obtain hinsert | ⟨hgeneration, hinsert⟩ :=
    s.pipeline.registry.insert_spec ask.window generation daemon
  · rw [hinsert]
    exact ⟨hadvanced.conforms, hadvanced.looked, h.position, hnumbered rfl, hcached⟩
  · rw [hinsert]
    refine ⟨hadvanced.conforms, hadvanced.looked, h.position, hnumbered rfl, ?_⟩
    intro window found hmem
    obtain hold | hnew := List.mem_append.mp hmem
    · exact hcached window found hold
    · obtain ⟨rfl, rfl⟩ := Prod.mk.inj (List.mem_singleton.mp hnew)
      -- no earlier origin has the number of the new environment
      have hnone : s.origins.lookup s.pipeline.registry.resolved = none := by
        rw [List.lookup_eq_none_iff]
        intro x hx
        have := h.numbered x hx
        simp
        omega
      refine ⟨⟨ask.window, ask.vars, settings, seen⟩, ?_, ⟨rfl, hdaemon⟩, hseen hgeneration.symm⟩
      rw [List.lookup_append, hnone, Option.none_or, List.lookup_cons, beq_self_eq_true]

theorem Consistent.act (h : s.Consistent analyzer) (index : Nat) :
    (s.act index).Consistent analyzer := by
  cases hget : s.consultations[index]? with
  | none =>
    have hidle : s.act index = s := by simp only [Freshness.act, hget]
    rw [hidle]
    exact h
  | some c =>
    obtain ⟨ask, stage, rest⟩ := c
    have hmem := List.mem_of_getElem? hget
    have hconforms := h.conforms _ hmem
    cases rest with
    | done a =>
      have hidle : s.act index = s := by simp only [Freshness.act, hget]
      rw [hidle]
      exact h
    | call question next =>
      have hidle : s.act index = s := by simp only [Freshness.act, hget]
      rw [hidle]
      exact h
    | access update next =>
      cases stage with
      | asked =>
        obtain ⟨hsame, hnext⟩ := hconforms
        rw [act_of_same hget (hsame _) rfl]
        exact h.advance index (hnext _) (fun _ _ _ e ↦ by cases e)
      | read settings =>
        obtain ⟨hsame, hnext⟩ := hconforms
        rw [act_of_same hget (hsame _) rfl]
        have hrest := hnext s.pipeline
        rw [Stage.next]
        cases hlookup : s.pipeline.registry.lookup ask.window with
        | cached found =>
          rw [hlookup] at hrest
          exact h.advance index hrest (fun _ _ _ e ↦ by cases e)
        | missing generation =>
          -- the settings in effect at this look are the ones that will be covered
          rw [hlookup] at hrest
          refine h.advance index hrest ?_
          rintro _ _ _ ⟨⟩
          have hgeneration := (Registry.lookup_eq_missing.mp hlookup).2
          exact ⟨Nat.le_of_eq hgeneration, fun _ _ ↦ .inl (.refl _)⟩
      | looked settings seen generation =>
        obtain ⟨daemon, hdaemon, hupdate, hnext⟩ := hconforms
        have hact : s.act index = { s with
            pipeline := { s.pipeline with
              registry := (s.pipeline.registry.insert ask.window generation daemon).2 }
            consultations := s.consultations.set index ⟨ask, .passed, next s.pipeline⟩
            origins := s.origins ++
              [(s.pipeline.registry.resolved, ⟨ask.window, ask.vars, settings, seen⟩)] } := by
          simp only [Freshness.act, hget, hupdate, Stage.next, Stage.origin]
        rw [hact]
        exact h.insert index (h.looked _ hmem settings seen generation rfl).2 hdaemon (hnext _)
      | passed => exact hconforms.elim

/-! ## Runs -/

theorem consistent_start (settings : Settings) (hasLog : Bool) :
    (start settings hasLog : Freshness κ).Consistent analyzer := by
  refine ⟨?_, ?_, ?_, ?_, ?_⟩
  · rintro _ ⟨⟩
  · rintro _ ⟨⟩
  · rintro _ ⟨⟩
    exact Nat.zero_le _
  · rintro _ ⟨⟩
  · rintro _ _ ⟨⟩

theorem Consistent.step (h : s.Consistent analyzer) (e : FreshnessEvent analyzer) :
    (s.step e).Consistent analyzer := by
  cases e with
  | ask ask => exact h.ask ask
  | act index => exact h.act index
  | reply index replies => exact h.reply index replies
  | install settings => exact h.install settings
  | publish index => exact h.publish index
  | observe => exact h.observe
  | invalidate => exact h.invalidate
  | remove window => exact h.remove window
  | shutdown => exact h.shutdown

theorem Consistent.run (h : s.Consistent analyzer) (events : List (FreshnessEvent analyzer)) :
    (s.run events).Consistent analyzer := by
  induction events generalizing s with
  | nil => exact h
  | cons e rest ih => exact ih (h.step e)

theorem not_isPending (hsettled : s.IsSettled) : ¬ s.IsPending := by
  obtain ⟨hunpublished, hnews⟩ := hsettled
  rintro (⟨c, hc, -⟩ | ⟨next, hnext, hbehind⟩)
  · rw [hunpublished] at hc
    cases hc
  rw [hnext, Pipeline.hasNews, Bool.or_eq_false_iff, decide_eq_false_iff_not, Nat.not_lt,
    Channel.position] at hnews
  obtain hlost | ⟨i, c, hi, hget, -⟩ := hbehind
  · rw [Channel.oldest] at hlost
    omega
  · have := (List.getElem?_eq_some_iff.mp hget).1
    omega

/-- The settings that an environment was resolved from agree with those now in effect. -/
def IsUpToDate (s : Freshness κ) (o : Origin) : Prop :=
  o.read.SameEnvironment s.pipeline.store.current

/-- **What it takes for an environment to be up to date.** Whatever requests, changes of the
settings and invalidations have happened in whatever order, once every change is taken up by the
observer, every environment that is kept has an origin, and it is up to date exactly if its request
read settings that agree with those in effect when it looked into the registry. -/
theorem settled_isUpToDate_iff (settings : Settings) (hasLog : Bool)
    (events : List (FreshnessEvent analyzer)) (hs : s = (start settings hasLog).run events)
    (hsettled : s.IsSettled) (hobserves : s.pipeline.registryObserver.isSome)
    (window : WindowKey) (found : Resolution)
    (hkept : (window, found) ∈ s.pipeline.registry.daemons) :
    ∃ o, s.origins.lookup found.serial = some o ∧ o.Explains κ analyzer window found.daemon ∧
      (s.IsUpToDate o ↔ o.read.SameEnvironment o.seen) := by
  have hconsistent : s.Consistent analyzer := hs ▸ (consistent_start settings hasLog).run events
  obtain ⟨o, ho, hexplains, hcovers⟩ := hconsistent.cached window found hkept
  have hseen : o.seen.SameEnvironment s.pipeline.store.current :=
    (hcovers hobserves).resolve_right (not_isPending hsettled)
  exact ⟨o, ho, hexplains, fun h ↦ h.trans hseen.symm, fun h ↦ h.trans hseen⟩

/-! ### Two requests in one window -/

private def firstAsk : Ask where
  window := ⟨1⟩
  requester := ⟨0⟩
  vars := .empty
  context := ⟨none, "", 0, 0, .autocomplete false⟩

/-- Replies to everything, none of them special. -/
private def plainReply : (question : EngineCall) → question.Reply
  | .defaultEnvironment => .value ⟨"/usr/bin/python3", []⟩
  | .createEnvironment path => .value ⟨path, []⟩
  | .analyze _ => .value ()
  | .callSignatures _ | .completions _ _ => .value []

private def plainDaemon : Daemon := ⟨⟨1⟩, ⟨⟨"/usr/bin/python3", []⟩, []⟩⟩

/-- The default settings with a virtual environment. -/
private def withVirtualenv : Settings := { Settings.default with virtualenv := .const "/venv" }

/-- What may happen next if the analyzer gives these replies. -/
private abbrev PlainEvent : Type := FreshnessEvent (.fixed plainReply)

/-- What a request does after its look into the registry. -/
private def afterLook : List PlainEvent :=
  have reply : PlainEvent := .reply 0 (Analyzer.fixedReplies plainReply)
  [reply, .act 0, reply, reply, reply]

private def undisturbedEvents : List PlainEvent := [.ask firstAsk, .act 0, .act 0] ++ afterLook

def undisturbed : Freshness Unit := (start .default false).run undisturbedEvents

theorem undisturbed_isUpToDate_iff :
    undisturbed.IsSettled ∧ undisturbed.pipeline.registryObserver.isSome ∧
      (⟨1⟩, ⟨0, plainDaemon⟩) ∈ undisturbed.pipeline.registry.daemons ∧
      ∃ o, undisturbed.origins.lookup 0 = some o ∧
        o.Explains Unit (.fixed plainReply) ⟨1⟩ plainDaemon ∧
        (undisturbed.IsUpToDate o ↔ o.read.SameEnvironment o.seen) := by
  have hsettled : undisturbed.IsSettled := ⟨rfl, rfl⟩
  have hkept : (⟨1⟩, ⟨0, plainDaemon⟩) ∈ undisturbed.pipeline.registry.daemons :=
    List.mem_singleton_self _
  exact ⟨hsettled, rfl, hkept,
    settled_isUpToDate_iff .default false undisturbedEvents rfl hsettled rfl ⟨1⟩ _ hkept⟩

/-- The settings change after the request has read them, and the observer takes up the change
before the request looks into the registry. -/
def overtaken : Freshness Unit :=
  (start .default false).run (([.ask firstAsk, .act 0, .install withVirtualenv, .publish 0,
    .observe, .act 0] : List PlainEvent) ++ afterLook)

/-- The settings change after the pipeline was shut down, when no observer is left. -/
def unobserved : Freshness Unit :=
  (start .default false).run (([.shutdown, .observe, .ask firstAsk, .act 0, .act 0] :
    List PlainEvent) ++ afterLook ++ [.install withVirtualenv, .publish 0])

/-- **Both conditions are needed.** In the first run the observer is at work, but the request has
read settings that were replaced before it looked into the registry. In the second one it has read
and seen the same, but no observer is left. In both runs the request has been answered, an
environment is kept that is out of date, and nothing is on its way that would clear it away. -/
theorem exists_settled_outOfDate :
    (overtaken.IsSettled ∧ overtaken.pipeline.registryObserver.isSome ∧
      (∀ c ∈ overtaken.consultations, ∃ outcome, c.rest = .done outcome) ∧
      ∃ window found o, (window, found) ∈ overtaken.pipeline.registry.daemons ∧
        overtaken.origins.lookup found.serial = some o ∧ ¬ overtaken.IsUpToDate o) ∧
    unobserved.IsSettled ∧ (∀ c ∈ unobserved.consultations, ∃ outcome, c.rest = .done outcome) ∧
      ∃ window found o, (window, found) ∈ unobserved.pipeline.registry.daemons ∧
        unobserved.origins.lookup found.serial = some o ∧ ¬ unobserved.IsUpToDate o := by
  have houtdated : ¬ Settings.default.SameEnvironment withVirtualenv := by decide
  refine ⟨⟨⟨rfl, rfl⟩, rfl, ?_, ⟨1⟩, ⟨0, plainDaemon⟩, ⟨⟨1⟩, .empty, .default, withVirtualenv⟩,
      List.mem_singleton_self _, rfl, houtdated⟩,
    ⟨rfl, rfl⟩, ?_, ⟨1⟩, ⟨0, plainDaemon⟩, ⟨⟨1⟩, .empty, .default, .default⟩,
      List.mem_singleton_self _, rfl, houtdated⟩
  · intro c hc
    obtain rfl := List.mem_singleton.mp hc
    exact ⟨_, rfl⟩
  · intro c hc
    obtain rfl := List.mem_singleton.mp hc
    exact ⟨_, rfl⟩

end Freshness

end CodeHints
