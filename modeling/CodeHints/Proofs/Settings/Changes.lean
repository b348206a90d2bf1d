import CodeHints.Proofs.Settings.Fields
import CodeHints.Settings.Store

/-!
# What a change tells

A change lists the settings that differ and carries the new values. Here is what can be told from
such a list: it is empty only if nothing differs, and a setting that is not in it has the value that
it had before. The history of a store grows by the change from the old settings to the new ones, if
they differ.

The list is also a recipe. To copy settings from the new state makes the new state out of the old
one if and only if every setting in the list is copied (`Settings.foldl_copy_eq_iff`).

Main result: `Settings.changedKeys_isDifference`.
-/

namespace CodeHints

namespace Settings

variable {a b : Settings}

theorem agreeOn_iff {key : Setting} : a.agreeOn b key = true ↔ a.get key = b.get key := by
  cases key <;> exact decide_eq_true_iff

theorem mem_changedKeys_iff {key : Setting} : key ∈ a.changedKeys b ↔ a.get key ≠ b.get key := by
  have hall : key ∈ Setting.all := by cases key <;> decide
  rw [changedKeys, List.mem_filter, Bool.not_eq_true', ne_eq, ← agreeOn_iff, Bool.not_eq_true]
  exact and_iff_right hall

theorem changedKeys_eq_nil_iff : a.changedKeys b = [] ↔ a = b := by
  rw [List.eq_nil_iff_forall_not_mem]
  constructor
  · exact fun h ↦ ext_get fun key ↦ of_not_not fun hne ↦ h key (mem_changedKeys_iff.mpr hne)
  · rintro rfl key hkey
    exact mem_changedKeys_iff.mp hkey rfl

theorem changedKeys_comm (a b : Settings) : a.changedKeys b = b.changedKeys a := by
  refine List.filter_congr fun key _ ↦ congrArg Bool.not ?_
  rw [Bool.eq_iff_iff, agreeOn_iff, agreeOn_iff, eq_comm]

/-- What differs between two states also differs on one of the two ways to a third one. -/
theorem changedKeys_subset_append (a b c : Settings) :
    a.changedKeys c ⊆ a.changedKeys b ++ b.changedKeys c := by
  intro key hkey
  rw [List.mem_append, mem_changedKeys_iff, mem_changedKeys_iff]
  by_contra hnone
  obtain ⟨hab, hbc⟩ := not_or.mp hnone
  exact mem_changedKeys_iff.mp hkey ((of_not_not hab).trans (of_not_not hbc))

/-! ## Copies of settings -/

theorem copy_eq_set (a b : Settings) (key : Setting) :
    b.copy a key = a.set key (b.get key) := by
  cases key <;> rfl

/-- Settings that were copied are as in the other state, and all others as before. -/
theorem get_foldl_copy (a b : Settings) (keys : List Setting) (key : Setting) :
    (keys.foldl b.copy a).get key = if key ∈ keys then b.get key else a.get key := by
  induction keys generalizing a with
  | nil => rfl
  | cons other keys ih =>
    rw [List.foldl_cons, ih, copy_eq_set]
    by_cases hkeys : key ∈ keys
    · rw [if_pos hkeys, if_pos (List.mem_cons_of_mem other hkeys)]
    rw [if_neg hkeys]
    obtain rfl | hne := eq_or_ne key other
    · rw [if_pos List.mem_cons_self]
      exact shape.get_set_self a key _
    · rw [if_neg (List.not_mem_cons_of_ne_of_not_mem hne hkeys)]
      exact a.get_set_of_ne _ hne

/-- To make one state out of another, what differs has to be copied, and nothing else. -/
theorem foldl_copy_eq_iff {keys : List Setting} :
    keys.foldl b.copy a = b ↔ a.changedKeys b ⊆ keys := by
  constructor
  · intro heq key hkey
    by_contra hnot
    have hget := get_foldl_copy a b keys key
    rw [heq, if_neg hnot] at hget
    exact mem_changedKeys_iff.mp hkey hget.symm
  · intro hsubset
    refine ext_get fun key ↦ ?_
    rw [get_foldl_copy]
    split
    · rfl
    · next hnot => exact of_not_not fun hne ↦ hnot (hsubset (mem_changedKeys_iff.mpr hne))

/-- **The changed settings are the difference of two states.** To copy them from the second state
into the first one gives the second, and to copy settings gives the second only if they are among
them, so no proper part of them is enough. They are listed once each, in the order of their
declaration. The difference is symmetric, empty for equal states only, and no greater than what
differs on the way over a third state. -/
theorem changedKeys_isDifference (a b : Settings) :
    (a.changedKeys b).foldl b.copy a = b ∧
      (∀ keys : List Setting, keys.foldl b.copy a = b ↔ a.changedKeys b ⊆ keys) ∧
      (a.changedKeys b).Nodup ∧ (a.changedKeys b).Sublist Setting.all ∧
      a.changedKeys b = b.changedKeys a ∧
      (a.changedKeys b = [] ↔ a = b) ∧
      ∀ c : Settings, a.changedKeys c ⊆ a.changedKeys b ++ b.changedKeys c :=
  ⟨foldl_copy_eq_iff.mpr (List.Subset.refl _), fun _ ↦ foldl_copy_eq_iff,
    shape.nodup_keys.sublist List.filter_sublist, List.filter_sublist, changedKeys_comm a b,
    changedKeys_eq_nil_iff, changedKeys_subset_append a b⟩

/-! ## Changes and their history -/

/-- The change from some settings to others, unless they are the same. -/
def changeTo? (a b : Settings) : Option SettingsChange :=
  if a = b then none else some ⟨a.changedKeys b, b⟩

theorem settings_of_changeTo? {c : SettingsChange} (h : a.changeTo? b = some c) :
    c.settings = b := by
  rw [changeTo?, Option.ite_none_left_eq_some] at h
  rw [← Option.some.inj h.2]

theorem eq_of_changeTo?_eq_none (h : a.changeTo? b = none) : a = b := by
  by_contra hne
  rw [changeTo?, if_neg hne] at h
  cases h

end Settings

namespace SettingsStore

variable (s : SettingsStore)

theorem publish_changeTo (a b : Settings) :
    (s.publish ⟨a.changedKeys b, b⟩).changes.history =
      s.changes.history ++ (a.changeTo? b).toList := by
  rw [publish, Settings.changeTo?]
  by_cases h : a = b
  · rw [if_pos h, if_pos (List.isEmpty_iff.mpr (Settings.changedKeys_eq_nil_iff.mpr h))]
    exact (List.append_nil _).symm
  · rw [if_neg h, if_neg (mt List.isEmpty_iff.mp (mt Settings.changedKeys_eq_nil_iff.mp h))]
    rfl

@[simp] theorem publish_current (c : SettingsChange) : (s.publish c).current = s.current := by
  rw [publish]
  split <;> rfl

@[simp] theorem publish_source (c : SettingsChange) : (s.publish c).source = s.source := by
  rw [publish]
  split <;> rfl

@[simp] theorem replace_current (settings : Settings) : (s.replace settings).2.current = settings :=
  publish_current _ _

theorem replace_history (settings : Settings) :
    (s.replace settings).2.changes.history =
      s.changes.history ++ (s.current.changeTo? settings).toList :=
  publish_changeTo _ _ _

end SettingsStore

end CodeHints
