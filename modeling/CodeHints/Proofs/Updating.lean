import CodeHints.Proofs.Settings.Changes
import Mathlib.Data.List.Basic

/-!
# Two updates at once

`SettingsStore.update` loads the settings in effect, puts an edited copy of them into effect, and
publishes the change. Each of the three is a step of its own, and nothing keeps another update out
between two of them. An `Updating` is a store with two updates that are under way, each at its own
`UpdateStage`, and a run lets them go on in any order.

## What may go wrong

The copy that is put into effect was made from the settings that were loaded. If the other update
has put its copy into effect in between, its edit is lost (`Saw` says that this has not happened).
And a change may be published after one that has replaced it already, so that the last event is not
about the settings in effect. `returned_iff` says that nothing else can go wrong, and
`exists_lost_and_overtaken` that both can happen.
-/

namespace CodeHints

/-! ## Edits -/

/-- An edit of some of the settings: it leaves the others alone, and what it makes of its own
depends on nothing else. -/
structure Edit where
  keys : List Setting
  apply : Settings → Settings
  keeps : ∀ s key, key ∉ keys → (apply s).get key = s.get key
  reads : ∀ s s', (∀ key ∈ keys, s.get key = s'.get key) →
    ∀ key ∈ keys, (apply s).get key = (apply s').get key

/-- Give one setting a value. -/
def Edit.put (key : Setting) (x : key.Value) : Edit where
  keys := [key]
  apply s := s.set key x
  keeps s other h := s.get_set_of_ne x (List.ne_of_not_mem_cons h)
  reads s s' _ other h := by
    obtain rfl := List.mem_singleton.mp h
    cases other <;> rfl

namespace Settings

/-- Some settings are as an edit of some others makes them, as far as the edit goes. -/
def Contains (s : Settings) (edit : Edit) (before : Settings) : Prop :=
  ∀ key ∈ edit.keys, s.get key = (edit.apply before).get key

end Settings

namespace Edit

/-- Two edits are about different settings. -/
def Apart (e f : Edit) : Prop := ∀ key ∈ e.keys, key ∉ f.keys

variable {e f : Edit} {s : Settings}

theorem Apart.symm (h : e.Apart f) : f.Apart e := fun key hf he ↦ h key he hf

theorem apply_eq_self_iff : e.apply s = s ↔ s.Contains e s := by
  constructor
  · exact fun h key _ ↦ by rw [h]
  · intro h
    refine Settings.ext_get fun key ↦ ?_
    by_cases hkey : key ∈ e.keys
    · exact (h key hkey).symm
    · exact e.keeps s key hkey

/-- An edit does its work no matter what was done to other settings before. -/
theorem Apart.contains_apply (h : e.Apart f) : (f.apply (e.apply s)).Contains f s :=
  f.reads _ _ fun key hkey ↦ e.keeps s key (h.symm key hkey)

theorem Apart.contains_apply_apply (h : e.Apart f) : (f.apply (e.apply s)).Contains e s :=
  fun key hkey ↦ f.keeps _ key (h key hkey)

/-- Without an edit there is nothing of it in the settings, unless it changes nothing. -/
theorem Apart.contains_iff (h : e.Apart f) : (f.apply s).Contains e s ↔ e.apply s = s := by
  rw [apply_eq_self_iff]
  refine forall₂_congr fun key hkey ↦ ?_
  rw [f.keeps s key (h key hkey)]

/-- Whether an edit changes anything does not depend on other settings. -/
theorem Apart.apply_apply_eq_iff (h : e.Apart f) :
    f.apply (e.apply s) = e.apply s ↔ f.apply s = s := by
  rw [apply_eq_self_iff, apply_eq_self_iff]
  refine forall₂_congr fun key hkey ↦ ?_
  rw [h.contains_apply key hkey, e.keeps s key (h.symm key hkey)]

theorem Apart.apply_eq_self (h : e.Apart f) (heq : e.apply s = f.apply s) : e.apply s = s :=
  h.contains_iff.mp fun _ _ ↦ by rw [heq]

end Edit

/-! ## The state -/

/-- One of the two updates. -/
inductive Side where
  | left
  | right
  deriving DecidableEq, Repr

def Side.other : Side → Side
  | .left => .right
  | .right => .left

theorem Side.forall_iff {P : Side → Prop} (t : Side) : (∀ u, P u) ↔ P t ∧ P t.other := by
  constructor
  · exact fun h ↦ ⟨h t, h t.other⟩
  · rintro ⟨ht, hother⟩ u
    cases t <;> cases u <;> assumption

theorem Side.eq_pair {l : List Side} (hnodup : l.Nodup) (hall : ∀ t, t ∈ l) (t : Side) :
    l = [t, t.other] ∨ l = [t.other, t] := by
  match l with
  | [] => exact absurd (hall t) List.not_mem_nil
  | [a] =>
    have hother := List.mem_singleton.mp (hall a.other)
    cases a <;> cases hother
  | [a, b] => cases a <;> cases b <;> cases t <;> revert hnodup <;> decide
  | a :: b :: c :: rest =>
    cases a <;> cases b <;> cases c <;> simp at hnodup

@[simp] theorem Side.other_other (t : Side) : t.other.other = t := by cases t <;> rfl

@[simp] theorem Side.other_ne (t : Side) : t.other ≠ t := by cases t <;> exact nofun

theorem Side.eq_or_eq_other (t u : Side) : t = u ∨ t = u.other := by
  cases t <;> cases u <;> first | exact .inl rfl | exact .inr rfl

inductive UpdateStage where
  | idle
  /-- It has loaded the settings in effect. -/
  | loaded (snapshot : Settings)
  /-- It has put the edited copy into effect. -/
  | installed (change : SettingsChange)
  /-- It has published the change. -/
  | returned

inductive UpdateStep where
  | load (side : Side)
  | install (side : Side)
  | publish (side : Side)
  deriving DecidableEq, Repr

/-- A store with two updates under way. -/
structure Updating where
  store : SettingsStore
  stage : Side → UpdateStage
  /-- The steps that were taken, the latest one last. -/
  log : List UpdateStep

namespace Updating

def start (store : SettingsStore) : Updating := ⟨store, fun _ ↦ .idle, []⟩

def load (s : Updating) (t : Side) : Updating :=
  ⟨s.store, Function.update s.stage t (.loaded s.store.current), s.log ++ [.load t]⟩

def install (s : Updating) (t : Side) (settings : Settings) : Updating :=
  let (change, store) := s.store.install settings
  ⟨store, Function.update s.stage t (.installed change), s.log ++ [.install t]⟩

def publish (s : Updating) (t : Side) (change : SettingsChange) : Updating :=
  ⟨s.store.publish change, Function.update s.stage t .returned, s.log ++ [.publish t]⟩

def step (edits : Side → Edit) (s : Updating) (t : Side) : Updating :=
  match s.stage t with
  | .idle => s.load t
  | .loaded snapshot => s.install t ((edits t).apply snapshot)
  | .installed change => s.publish t change
  | .returned => s

def run (edits : Side → Edit) (s : Updating) (moves : List Side) : Updating :=
  moves.foldl (step edits) s

/-- Three steps in a row are a whole update. -/
theorem run_alone (edits : Side → Edit) (store : SettingsStore) (t : Side) :
    ((start store).run edits [t, t, t]).store = (store.update (edits t).apply).2 := by
  simp [run, step, start, load, install, publish, SettingsStore.update, SettingsStore.replace,
    SettingsStore.install]

/-- The last event, if there is one, carries the settings in effect. -/
def EndsIn (events : List SettingsChange) (settings : Settings) : Prop :=
  ∀ c, events.getLast? = some c → c.settings = settings

def HasReturned (s : Updating) : Prop := ∀ t, s.stage t = .returned

/-- The updates that have put something into effect, in this order. -/
def installers (s : Updating) : List Side :=
  s.log.filterMap fun | .install t => some t | _ => none

/-- The updates that have published something, in this order. -/
def publishers (s : Updating) : List Side :=
  s.log.filterMap fun | .publish t => some t | _ => none

/-- An update has loaded what the other one had put into effect. -/
def Saw (s : Updating) (t : Side) : Prop := [.install t.other, .load t].Sublist s.log

instance (s : Updating) (t : Side) : Decidable (s.Saw t) :=
  inferInstanceAs (Decidable (List.Sublist _ _))

/-! ## What a run does -/

variable (edits : Side → Edit) (before : Settings)

/-- The settings that an update has loaded. -/
def base (s : Updating) (t : Side) : Settings :=
  if s.Saw t then (edits t.other).apply before else before

/-- The settings that an update puts into effect. -/
def made (s : Updating) (t : Side) : Settings := (edits t).apply (s.base edits before t)

/-- The settings that an update replaces. -/
def replaced (s : Updating) (t : Side) : Settings :=
  if s.installers.head? = some t then before else s.made edits before t.other

def change (s : Updating) (t : Side) : SettingsChange :=
  ⟨(s.replaced edits before t).changedKeys (s.made edits before t), s.made edits before t⟩

/-- What publishing a change adds to the events. -/
def told (c : SettingsChange) : List SettingsChange := if c.keys.isEmpty then [] else [c]

theorem history_publish (store : SettingsStore) (c : SettingsChange) :
    (store.publish c).changes.history = store.changes.history ++ told c := by
  rw [SettingsStore.publish, told]
  split
  · exact (List.append_nil _).symm
  · rfl

theorem endsIn_told {events : List SettingsChange} {a b settings : Settings} :
    EndsIn (events ++ told ⟨a.changedKeys b, b⟩) settings ↔
      a = b ∧ EndsIn events settings ∨ a ≠ b ∧ b = settings := by
  rw [told]
  by_cases heq : a = b
  · rw [if_pos (List.isEmpty_iff.mpr (Settings.changedKeys_eq_nil_iff.mpr heq)), List.append_nil]
    simp [heq]
  · rw [if_neg (mt List.isEmpty_iff.mp (mt Settings.changedKeys_eq_nil_iff.mp heq)), EndsIn,
      List.getLast?_concat]
    simp [heq]

/-- An update is where the steps it has taken say. -/
def IsAt (s : Updating) (t : Side) : UpdateStage → Prop
  | .idle => UpdateStep.load t ∉ s.log ∧ t ∉ s.installers ∧ t ∉ s.publishers
  | .loaded snapshot => snapshot = s.base edits before t ∧ t ∉ s.installers ∧ t ∉ s.publishers
  | .installed c => c = s.change edits before t ∧ t ∈ s.installers ∧ t ∉ s.publishers
  | .returned => t ∈ s.installers ∧ t ∈ s.publishers

/-- The settings in effect are those of the last update that put some into effect. The first one has
not seen the other. -/
inductive Current (s : Updating) : Prop
  | nobody (h : s.installers = []) (hcurrent : s.store.current = before)
  | one (t : Side) (h : s.installers = [t]) (hfirst : ¬s.Saw t)
      (hcurrent : s.store.current = s.made edits before t)
  | both (t : Side) (h : s.installers = [t, t.other]) (hfirst : ¬s.Saw t)
      (hcurrent : s.store.current = s.made edits before t.other)

/-- What holds after every run. -/
structure Tracks (events : List SettingsChange) (s : Updating) : Prop where
  stage : ∀ t, s.IsAt edits before t (s.stage t)
  current : s.Current edits before
  nodup : s.publishers.Nodup
  history : s.store.changes.history =
    events ++ s.publishers.flatMap fun t ↦ told (s.change edits before t)

theorem tracks_start (store : SettingsStore) :
    (start store).Tracks edits store.current store.changes.history where
  stage _ := ⟨List.not_mem_nil, List.not_mem_nil, List.not_mem_nil⟩
  current := .nobody rfl rfl
  nodup := .nil
  history := (List.append_nil _).symm

/-! ### How the notes grow -/

section

variable {s : Updating} {t u : Side} {settings : Settings} {c : SettingsChange}

private theorem pair_sublist_append_single {α : Type} (a b c : α) (l : List α) :
    List.Sublist [a, b] (l ++ [c]) ↔ List.Sublist [a, b] l ∨ a ∈ l ∧ c = b := by
  have hreverse (l : List α) : List.Sublist [a, b] l ↔ List.Sublist [b, a] l.reverse :=
    List.reverse_sublist.symm
  rw [hreverse, hreverse, List.reverse_append, List.reverse_singleton, List.singleton_append,
    List.cons_sublist_cons', List.singleton_sublist, List.mem_reverse, and_comm, eq_comm]

theorem mem_installers : t ∈ s.installers ↔ .install t ∈ s.log := by
  rw [installers, List.mem_filterMap]
  constructor
  · rintro ⟨x, hx, ht⟩
    cases x with
    | install u => exact Option.some.inj ht ▸ hx
    | load u => cases ht
    | publish u => cases ht
  · exact fun h ↦ ⟨_, h, rfl⟩

@[simp] theorem installers_load : (s.load t).installers = s.installers := by
  simp [installers, load]

@[simp] theorem installers_install :
    (s.install t settings).installers = s.installers ++ [t] := by
  simp [installers, install]

@[simp] theorem installers_publish : (s.publish t c).installers = s.installers := by
  simp [installers, publish]

@[simp] theorem publishers_load : (s.load t).publishers = s.publishers := by
  simp [publishers, load]

@[simp] theorem publishers_install : (s.install t settings).publishers = s.publishers := by
  simp [publishers, install]

@[simp] theorem publishers_publish : (s.publish t c).publishers = s.publishers ++ [t] := by
  simp [publishers, publish]

theorem saw_load : (s.load t).Saw u ↔ s.Saw u ∨ u.other ∈ s.installers ∧ t = u := by
  rw [Saw, load, pair_sublist_append_single, Saw, mem_installers, UpdateStep.load.injEq]

theorem saw_load_of_ne (h : u ≠ t) : (s.load t).Saw u ↔ s.Saw u := by
  rw [saw_load]
  exact or_iff_left fun hload ↦ h hload.2.symm

@[simp] theorem saw_install : (s.install t settings).Saw u ↔ s.Saw u := by
  rw [Saw, install, pair_sublist_append_single, Saw]
  exact or_iff_left fun h ↦ nomatch h.2

@[simp] theorem saw_publish : (s.publish t c).Saw u ↔ s.Saw u := by
  rw [Saw, publish, pair_sublist_append_single, Saw]
  exact or_iff_left fun h ↦ nomatch h.2

theorem Saw.load_mem (h : s.Saw t) : .load t ∈ s.log := h.subset (by simp)

theorem Saw.mem_installers (h : s.Saw t) : t.other ∈ s.installers :=
  Updating.mem_installers.mpr (h.subset (by simp))

end

variable {edits before} {s s' : Updating} {t u : Side}

theorem base_congr (h : s'.Saw t ↔ s.Saw t) : s'.base edits before t = s.base edits before t := by
  rw [base, base]
  simp only [h]

theorem made_congr (h : s'.Saw t ↔ s.Saw t) : s'.made edits before t = s.made edits before t := by
  rw [made, made, base_congr h]

theorem base_of_saw (h : s.Saw t) : s.base edits before t = (edits t.other).apply before := if_pos h

theorem base_of_not_saw (h : ¬s.Saw t) : s.base edits before t = before := if_neg h

theorem made_of_not_saw (h : ¬s.Saw t) : s.made edits before t = (edits t).apply before := by
  rw [made, base_of_not_saw h]

theorem replaced_of_first (h : s.installers.head? = some t) :
    s.replaced edits before t = before := if_pos h

theorem replaced_of_second (h : s.installers.head? = some t.other) :
    s.replaced edits before t = s.made edits before t.other := by
  rw [replaced, h, if_neg]
  exact fun h ↦ t.other_ne (Option.some.inj h)

theorem change_congr (hsaw : ∀ u, s'.Saw u ↔ s.Saw u)
    (hhead : s'.installers.head? = s.installers.head?) :
    s'.change edits before t = s.change edits before t := by
  rw [change, change, replaced, replaced, hhead, made_congr (hsaw t), made_congr (hsaw t.other)]

/-! ### One step -/

variable {events : List SettingsChange}

theorem Tracks.isAt {stage : UpdateStage} (h : s.Tracks edits before events)
    (hstage : s.stage t = stage) : s.IsAt edits before t stage := hstage ▸ h.stage t

/-- Only what was put into effect is published. -/
theorem Tracks.installed_of_published (h : s.Tracks edits before events)
    (ht : t ∈ s.publishers) : t ∈ s.installers := by
  cases hstage : s.stage t with
  | idle => exact absurd ht (h.isAt hstage).2.2
  | loaded snapshot => exact absurd ht (h.isAt hstage).2.2
  | installed c => exact (h.isAt hstage).2.1
  | returned => exact (h.isAt hstage).1

private theorem IsAt.congr {stage : UpdateStage} (h : s.IsAt edits before u stage)
    (hload : .load u ∈ s'.log → .load u ∈ s.log)
    (hinstallers : u ∈ s'.installers ↔ u ∈ s.installers)
    (hpublishers : u ∈ s'.publishers ↔ u ∈ s.publishers) (hsaw : s'.Saw u ↔ s.Saw u)
    (hchange : u ∈ s.installers → s'.change edits before u = s.change edits before u) :
    s'.IsAt edits before u stage := by
  cases stage with
  | idle => exact ⟨mt hload h.1, mt hinstallers.mp h.2.1, mt hpublishers.mp h.2.2⟩
  | loaded snapshot =>
    exact ⟨h.1.trans (base_congr hsaw).symm, mt hinstallers.mp h.2.1, mt hpublishers.mp h.2.2⟩
  | installed c =>
    exact ⟨h.1.trans (hchange h.2.1).symm, hinstallers.mpr h.2.1, mt hpublishers.mp h.2.2⟩
  | returned => exact ⟨hinstallers.mpr h.1, hpublishers.mpr h.2⟩

private theorem isAt_update {stage : UpdateStage} (ht : s'.IsAt edits before t stage)
    (hother : ∀ u, u ≠ t → s'.IsAt edits before u (s.stage u)) :
    ∀ u, s'.IsAt edits before u (Function.update s.stage t stage u) := by
  intro u
  by_cases hu : u = t
  · subst hu
    rwa [Function.update_self]
  · rw [Function.update_of_ne hu]
    exact hother u hu

/-- What was published does not depend on what comes later. -/
private theorem Tracks.flatMap_congr (h : s.Tracks edits before events)
    (hchange : ∀ u ∈ s.installers, s'.change edits before u = s.change edits before u) :
    s.publishers.flatMap (fun u ↦ told (s'.change edits before u)) =
      s.publishers.flatMap fun u ↦ told (s.change edits before u) :=
  List.flatMap_congr fun u hu ↦ by rw [hchange u (h.installed_of_published hu)]

/-- Before an update has installed anything, at most the other one has. -/
theorem Current.of_not_mem (h : s.Current edits before) (ht : t ∉ s.installers) :
    s.installers = [] ∧ s.store.current = before ∨
      s.installers = [t.other] ∧ ¬s.Saw t.other ∧
        s.store.current = s.made edits before t.other := by
  cases h with
  | nobody hnil hcurrent => exact .inl ⟨hnil, hcurrent⟩
  | one u hone hfirst hcurrent =>
    obtain rfl | rfl := Side.eq_or_eq_other u t
    · exact absurd (hone ▸ List.mem_singleton_self u) ht
    · exact .inr ⟨hone, hfirst, hcurrent⟩
  | both u hboth =>
    rw [hboth] at ht
    cases u <;> cases t <;> exact absurd (by decide) ht

theorem Tracks.load (h : s.Tracks edits before events) (hstage : s.stage t = .idle) :
    (s.load t).Tracks edits before events := by
  obtain ⟨hload, hinstallers, hpublishers⟩ := h.isAt hstage
  have hcurrent := h.current.of_not_mem hinstallers
  have hsaw : (s.load t).Saw t ↔ t.other ∈ s.installers := by
    rw [saw_load]
    exact ⟨fun h ↦ (h.resolve_left fun h ↦ hload h.load_mem).1, fun h ↦ .inr ⟨h, rfl⟩⟩
  have hchange (u : Side) (hu : u ∈ s.installers) :
      (s.load t).change edits before u = s.change edits before u := by
    obtain ⟨hnil, -⟩ | ⟨hone, -⟩ := hcurrent
    · exact absurd hu (hnil ▸ List.not_mem_nil)
    · obtain rfl := List.mem_singleton.mp (hone ▸ hu)
      have hhead : s.installers.head? = some t.other := by rw [hone, List.head?_cons]
      have hhead' : (s.load t).installers.head? = some t.other := by rw [installers_load, hhead]
      rw [change, change, replaced_of_first hhead, replaced_of_first hhead',
        made_congr (saw_load_of_ne t.other_ne)]
  refine ⟨isAt_update ?_ fun u hu ↦ (h.stage u).congr ?_ ?_ ?_ (saw_load_of_ne hu) (hchange u), ?_,
    ?_, ?_⟩
  · refine ⟨?_, by rwa [installers_load], by rwa [publishers_load]⟩
    obtain ⟨hnil, hbefore⟩ | ⟨hone, hfirst, hmade⟩ := hcurrent
    · rw [base_of_not_saw (mt hsaw.mp (hnil ▸ List.not_mem_nil)), hbefore]
    · rw [base_of_saw (hsaw.mpr (hone ▸ List.mem_singleton_self _)), hmade, made_of_not_saw hfirst]
  · intro hmem
    refine (List.mem_append.mp hmem).resolve_right fun hmem ↦ hu ?_
    exact UpdateStep.load.inj (List.mem_singleton.mp hmem)
  · rw [installers_load]
  · rw [publishers_load]
  · obtain ⟨hnil, hbefore⟩ | ⟨hone, hfirst, hmade⟩ := hcurrent
    · exact .nobody (by rw [installers_load, hnil]) hbefore
    · refine .one t.other (by rw [installers_load, hone]) ?_ ?_
      · rwa [saw_load_of_ne t.other_ne]
      · exact hmade.trans (made_congr (saw_load_of_ne t.other_ne)).symm
  · rw [publishers_load]
    exact h.nodup
  · rw [publishers_load, h.flatMap_congr hchange]
    exact h.history

theorem Tracks.install (h : s.Tracks edits before events) {snapshot : Settings}
    (hstage : s.stage t = .loaded snapshot) :
    (s.install t ((edits t).apply snapshot)).Tracks edits before events := by
  obtain ⟨rfl, hinstallers, hpublishers⟩ := h.isAt hstage
  have hcurrent := h.current.of_not_mem hinstallers
  change (s.install t (s.made edits before t)).Tracks edits before events
  have hmade (u : Side) : (s.install t (s.made edits before t)).made edits before u =
      s.made edits before u := made_congr saw_install
  have hchange (u : Side) (hu : u ∈ s.installers) :
      (s.install t (s.made edits before t)).change edits before u = s.change edits before u := by
    refine change_congr (fun _ ↦ saw_install) ?_
    rw [installers_install, List.head?_append_of_ne_nil _ (List.ne_nil_of_mem hu)]
  have hreplaced : (s.install t (s.made edits before t)).replaced edits before t =
      s.store.current := by
    obtain ⟨hnil, hbefore⟩ | ⟨hone, -, hcurrent⟩ := hcurrent
    · rw [replaced_of_first (by rw [installers_install, hnil]; rfl), hbefore]
    · rw [replaced_of_second (by rw [installers_install, hone]; rfl), hmade, hcurrent]
  refine ⟨isAt_update ?_ fun u hu ↦ (h.stage u).congr ?_ ?_ ?_ saw_install (hchange u), ?_, ?_, ?_⟩
  · refine ⟨?_, by simp, by rwa [publishers_install]⟩
    rw [change, hreplaced, hmade]
  · intro hmem
    exact (List.mem_append.mp hmem).resolve_right (by simp)
  · simp [hu]
  · rw [publishers_install]
  · obtain ⟨hnil, hbefore⟩ | ⟨hone, hfirst, -⟩ := hcurrent
    · refine .one t (by rw [installers_install, hnil]; rfl) ?_ (hmade t).symm
      rw [saw_install]
      exact fun h ↦ List.not_mem_nil (hnil ▸ h.mem_installers)
    · refine .both t.other (by rw [installers_install, hone, Side.other_other]; rfl) ?_ ?_
      · rwa [saw_install]
      · rw [Side.other_other]
        exact (hmade t).symm
  · rw [publishers_install]
    exact h.nodup
  · rw [publishers_install, h.flatMap_congr hchange]
    exact h.history

theorem Tracks.publish (h : s.Tracks edits before events) {c : SettingsChange}
    (hstage : s.stage t = .installed c) : (s.publish t c).Tracks edits before events := by
  obtain ⟨rfl, hinstallers, hpublishers⟩ := h.isAt hstage
  have hchange (u : Side) : (s.publish t (s.change edits before t)).change edits before u =
      s.change edits before u :=
    change_congr (fun _ ↦ saw_publish) (by rw [installers_publish])
  have hmade (u : Side) : (s.publish t (s.change edits before t)).made edits before u =
      s.made edits before u := made_congr saw_publish
  have hcurrent : (s.publish t (s.change edits before t)).store.current = s.store.current := by
    rw [Updating.publish, SettingsStore.publish]
    split <;> rfl
  refine ⟨isAt_update ⟨by rwa [installers_publish], by simp⟩ fun u hu ↦
    (h.stage u).congr ?_ ?_ ?_ saw_publish fun _ ↦ hchange u, ?_, ?_, ?_⟩
  · intro hmem
    exact (List.mem_append.mp hmem).resolve_right (by simp)
  · rw [installers_publish]
  · simp [hu]
  · cases h.current with
    | nobody hnil => exact absurd hinstallers (hnil ▸ List.not_mem_nil)
    | one u hone hfirst hmade' =>
      refine .one u (by rw [installers_publish, hone]) (by rwa [saw_publish]) ?_
      rw [hcurrent, hmade, hmade']
    | both u hboth hfirst hmade' =>
      refine .both u (by rw [installers_publish, hboth]) (by rwa [saw_publish]) ?_
      rw [hcurrent, hmade, hmade']
  · rw [publishers_publish, List.nodup_append_comm, List.singleton_append]
    exact List.nodup_cons.mpr ⟨hpublishers, h.nodup⟩
  · have hhistory : (s.publish t (s.change edits before t)).store.changes.history =
        s.store.changes.history ++ told (s.change edits before t) := history_publish _ _
    rw [hhistory, h.history, publishers_publish, List.flatMap_append, List.flatMap_singleton,
      hchange, h.flatMap_congr fun u _ ↦ hchange u, List.append_assoc]

theorem Tracks.step (h : s.Tracks edits before events) (t : Side) :
    (s.step edits t).Tracks edits before events := by
  rw [Updating.step]
  cases hstage : s.stage t with
  | idle => exact h.load hstage
  | loaded snapshot => exact h.install hstage
  | installed c => exact h.publish hstage
  | returned => exact h

theorem Tracks.run (h : s.Tracks edits before events) (moves : List Side) :
    (s.run edits moves).Tracks edits before events := by
  induction moves generalizing s with
  | nil => exact h
  | cons t rest ih => exact ih (h.step t)

/-! ## What is left of two updates -/

/-- After both updates one of them has installed first, and they have published in some order. -/
theorem Tracks.order (h : s.Tracks edits before events) (hreturned : s.HasReturned) :
    ∃ t, s.installers = [t, t.other] ∧ ¬s.Saw t ∧ s.store.current = s.made edits before t.other ∧
      (s.publishers = [t, t.other] ∨ s.publishers = [t.other, t]) := by
  have hmem (t : Side) : t ∈ s.installers ∧ t ∈ s.publishers := h.isAt (hreturned t)
  cases h.current with
  | nobody hnil => exact absurd (hmem .left).1 (hnil ▸ List.not_mem_nil)
  | one t hone => exact absurd (List.mem_singleton.mp (hone ▸ (hmem t.other).1)) t.other_ne
  | both t hboth hfirst hcurrent =>
    exact ⟨t, hboth, hfirst, hcurrent, Side.eq_pair h.nodup (fun u ↦ (hmem u).2) t⟩

/-- Whether an edit was lost depends on what the second update has loaded. -/
theorem contains_iff (hcurrent : s.store.current = s.made edits before t.other)
    (hapart : (edits t).Apart (edits t.other)) :
    (∀ u, s.store.current.Contains (edits u) before) ↔
      s.Saw t.other ∨ (edits t).apply before = before := by
  rw [Side.forall_iff t, hcurrent, made]
  by_cases hsaw : s.Saw t.other
  · rw [base_of_saw hsaw, Side.other_other]
    exact iff_of_true ⟨hapart.contains_apply_apply, hapart.contains_apply⟩ (.inl hsaw)
  · rw [base_of_not_saw hsaw, hapart.contains_iff]
    simp [hsaw, Settings.Contains]

/-- Whether the second update has changed anything on top of a change by the first one. -/
theorem made_eq_iff (hfirst : ¬s.Saw t) (hapart : (edits t).Apart (edits t.other))
    (hchanged : (edits t).apply before ≠ before) :
    s.made edits before t = s.made edits before t.other ↔
      s.Saw t.other ∧ (edits t.other).apply before = before := by
  rw [made_of_not_saw hfirst, made, eq_comm]
  by_cases hsaw : s.Saw t.other
  · rw [base_of_saw hsaw, Side.other_other, hapart.apply_apply_eq_iff]
    simp [hsaw]
  · rw [base_of_not_saw hsaw]
    exact iff_of_false (fun heq ↦ hchanged (hapart.apply_eq_self heq.symm)) fun h ↦ hsaw h.1

/-- Whether the last event is about the settings in effect depends on who has published last. -/
theorem Tracks.endsIn_iff (h : s.Tracks edits before events) (hevents : EndsIn events before)
    (hinstallers : s.installers = [t, t.other]) (hfirst : ¬s.Saw t)
    (hcurrent : s.store.current = s.made edits before t.other)
    (hpublishers : s.publishers = [t, t.other] ∨ s.publishers = [t.other, t])
    (hapart : (edits t).Apart (edits t.other)) :
    EndsIn s.store.changes.history s.store.current ↔
      s.publishers = [t, t.other] ∨ (edits t).apply before = before ∨
        s.Saw t.other ∧ (edits t.other).apply before = before := by
  have hchange : s.change edits before t =
      ⟨before.changedKeys (s.made edits before t), s.made edits before t⟩ := by
    rw [change, replaced_of_first (by rw [hinstallers, List.head?_cons])]
  have hchange' : s.change edits before t.other =
      ⟨(s.made edits before t).changedKeys (s.made edits before t.other),
        s.made edits before t.other⟩ := by
    rw [change, replaced_of_second (by rw [hinstallers, List.head?_cons, Side.other_other]),
      Side.other_other]
  have hmade : before = s.made edits before t ↔ (edits t).apply before = before := by
    rw [made_of_not_saw hfirst, eq_comm]
  rw [h.history, hcurrent]
  obtain hpublishers | hpublishers := hpublishers
  · -- the second update tells about the settings in effect, unless it has changed nothing
    rw [hpublishers, List.flatMap_cons, List.flatMap_singleton, hchange, hchange',
      ← List.append_assoc, endsIn_told, endsIn_told]
    refine iff_of_true ?_ (.inl rfl)
    by_cases heq : s.made edits before t = s.made edits before t.other
    · refine .inl ⟨heq, ?_⟩
      by_cases hsame : before = s.made edits before t
      · exact .inl ⟨hsame, hsame.trans heq ▸ hevents⟩
      · exact .inr ⟨hsame, heq⟩
    · exact .inr ⟨heq, rfl⟩
  · -- the first update tells about its own settings, unless it has changed nothing
    rw [hpublishers, List.flatMap_cons, List.flatMap_singleton, hchange, hchange',
      ← List.append_assoc, endsIn_told, endsIn_told]
    by_cases hsame : before = s.made edits before t
    · refine iff_of_true (.inl ⟨hsame, ?_⟩) (.inr (.inl (hmade.mp hsame)))
      by_cases heq : s.made edits before t = s.made edits before t.other
      · exact .inl ⟨heq, hsame.trans heq ▸ hevents⟩
      · exact .inr ⟨heq, rfl⟩
    · have hchanged := mt hmade.mpr hsame
      have hpair : [t.other, t] ≠ [t, t.other] := fun h ↦ t.other_ne (List.cons.inj h).1
      simp only [hsame, hchanged, hpair, made_eq_iff hfirst hapart hchanged, false_and, false_or,
        ne_eq, not_false_eq_true, true_and]

section

variable {store : SettingsStore} {moves : List Side}

/-- **What concurrent updates come to.** Two updates of different settings go on in any order until
both have returned. One of them has put its copy into effect first. Then

* both edits are in effect exactly if the other update loaded the settings after that, or the edit
  of the first one changes nothing;
* the last event carries the settings in effect exactly if the first one has also published first,
  or one of the two changes nothing: the first edit, or the second one made on top of it. -/
theorem returned_iff (edits : Side → Edit) (hapart : (edits .left).Apart (edits .right))
    (hstore : EndsIn store.changes.history store.current)
    (hreturned : ((start store).run edits moves).HasReturned) :
    ∃ t, ((start store).run edits moves).installers = [t, t.other] ∧
      ((∀ u, ((start store).run edits moves).store.current.Contains (edits u) store.current) ↔
        ((start store).run edits moves).Saw t.other ∨
          (edits t).apply store.current = store.current) ∧
      (EndsIn ((start store).run edits moves).store.changes.history
          ((start store).run edits moves).store.current ↔
        ((start store).run edits moves).publishers = [t, t.other] ∨
          (edits t).apply store.current = store.current ∨
            ((start store).run edits moves).Saw t.other ∧
              (edits t.other).apply store.current = store.current) := by
  have h := (tracks_start edits store).run moves
  generalize (start store).run edits moves = s at h hreturned ⊢
  obtain ⟨t, hinstallers, hfirst, hcurrent, hpublishers⟩ := h.order hreturned
  have hapart : (edits t).Apart (edits t.other) := by
    cases t with
    | left => exact hapart
    | right => exact hapart.symm
  exact ⟨t, hinstallers, contains_iff hcurrent hapart,
    h.endsIn_iff hstore hinstallers hfirst hcurrent hpublishers hapart⟩

end

/-! ### A delay and a flag -/

/-- One update changes how long requests are held back, the other one turns on fuzzy completions. -/
def delayAndFuzzy : Side → Edit
  | .left => .put .completionTimeout (50 : Nat)
  | .right => .put .fuzzy true

theorem apart_delayAndFuzzy : (delayAndFuzzy .left).Apart (delayAndFuzzy .right) :=
  fun key hkey hkey' ↦ by
    rw [List.mem_singleton.mp hkey] at hkey'
    cases List.mem_singleton.mp hkey'

/-- The two begin in a store with the default settings. -/
def delayAndFuzzyRun (moves : List Side) : Updating :=
  (start (.new .default)).run delayAndFuzzy moves

/-- The second update loads what the first one has put into effect, and it publishes last. -/
def attentive : Updating := delayAndFuzzyRun [.left, .left, .right, .left, .right, .right]

theorem returned_iff_attentive :
    (delayAndFuzzy .left).Apart (delayAndFuzzy .right) ∧
      EndsIn (SettingsStore.new .default).changes.history .default ∧ attentive.HasReturned ∧
      (∀ u, attentive.store.current.Contains (delayAndFuzzy u) .default) ∧
      EndsIn attentive.store.changes.history attentive.store.current := by
  have hstore : EndsIn (SettingsStore.new .default).changes.history .default := nofun
  have hreturned : attentive.HasReturned := by
    intro t
    cases t <;> rfl
  obtain ⟨t, hinstallers, hcontains, hends⟩ :=
    returned_iff delayAndFuzzy apart_delayAndFuzzy hstore hreturned
  obtain rfl : t = .left := (List.cons.inj hinstallers).1.symm
  exact ⟨apart_delayAndFuzzy, hstore, hreturned, hcontains.mpr (.inl (by decide)),
    hends.mpr (.inl rfl)⟩

/-- The second update loads the settings, the first one does all of its work, and the second one
puts its copy into effect. -/
def forgetful : Updating := delayAndFuzzyRun [.right, .left, .left, .left, .right, .right]

/-- The second update loads what the first one has put into effect and does all of its work before
the first one publishes. -/
def overtaking : Updating := delayAndFuzzyRun [.left, .left, .right, .right, .right, .left]

/-- **Both can go wrong.** In the first run the delay is in the end what it was before. In the
second run the last event says that completions are not fuzzy, and they are. -/
theorem exists_lost_and_overtaken :
    (delayAndFuzzy .left).Apart (delayAndFuzzy .right) ∧
      (forgetful.HasReturned ∧
        ¬forgetful.store.current.Contains (delayAndFuzzy .left) .default) ∧
      overtaking.HasReturned ∧
        ¬EndsIn overtaking.store.changes.history overtaking.store.current := by
  refine ⟨apart_delayAndFuzzy, ⟨?_, ?_⟩, ?_, ?_⟩
  · intro t
    cases t <;> rfl
  · intro h
    have hdelay : (10 : Nat) = 50 := h .completionTimeout (List.mem_singleton_self _)
    cases hdelay
  · intro t
    cases t <;> rfl
  · intro h
    have hfuzzy : false = true := congrArg Settings.fuzzy (h _ rfl)
    cases hfuzzy

end Updating

end CodeHints
