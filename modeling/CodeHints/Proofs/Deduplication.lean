import CodeHints.Analysis.Answering
import Mathlib.Data.List.Induction

/-!
# Entries that insert the same text

Of entries that insert the same text only the first one stays. This is done in a single pass, which
keeps the texts that it has seen. What the pass leaves of a list only depends on which texts these
are (`dedupFrom_congr`), and texts that were seen before can as well be left out afterwards
(`dedupFrom_eq_filter`). So the pass may stop anywhere and go on (`dedupByInsertText_append`).

`firstOfEach` says the same without a pass: an entry stays if there is none in front of it that
inserts its text.

Main result: `dedupByInsertText_keepsFirst`.
-/

namespace CodeHints

/-! ## The pass -/

/-- Entries are left out as well if more texts were seen before. -/
theorem dedupFrom_eq_filter {seen dropped kept : List String}
    (h : ∀ text, text ∈ seen ↔ text ∈ dropped ∨ text ∈ kept) (entries : List Entry) :
    dedupFrom seen entries = (dedupFrom kept entries).filter (·.insertText ∉ dropped) := by
  induction entries generalizing seen kept with
  | nil => rfl
  | cons e rest ih =>
    rw [dedupFrom, dedupFrom]
    by_cases hkept : e.insertText ∈ kept
    · have hseen : e.insertText ∈ seen := (h _).mpr (.inr hkept)
      rw [if_pos (List.contains_iff_mem.mpr hseen), if_pos (List.contains_iff_mem.mpr hkept), ih h]
    rw [if_neg (mt List.contains_iff_mem.mp hkept)]
    by_cases hdropped : e.insertText ∈ dropped
    · have hseen : e.insertText ∈ seen := (h _).mpr (.inl hdropped)
      have hmore : ∀ text, text ∈ seen ↔ text ∈ dropped ∨ text ∈ e.insertText :: kept := by
        grind
      rw [if_pos (List.contains_iff_mem.mpr hseen), List.filter_cons_of_neg (by simpa), ih hmore]
    · have hseen : e.insertText ∉ seen := fun hmem ↦ ((h _).mp hmem).elim hdropped hkept
      have hmore : ∀ text, text ∈ e.insertText :: seen ↔
          text ∈ dropped ∨ text ∈ e.insertText :: kept := by
        intro text
        rw [List.mem_cons, List.mem_cons, h, or_left_comm]
      rw [if_neg (mt List.contains_iff_mem.mp hseen), List.filter_cons_of_pos (by simpa), ih hmore]

theorem dedupFrom_congr {seen kept : List String} (h : ∀ text, text ∈ seen ↔ text ∈ kept)
    (entries : List Entry) : dedupFrom seen entries = dedupFrom kept entries := by
  have hnone : ∀ text, text ∈ seen ↔ text ∈ ([] : List String) ∨ text ∈ kept := by simpa using h
  rw [dedupFrom_eq_filter hnone, List.filter_eq_self.mpr (by simp)]

/-- Behind some entries their texts have been seen. -/
theorem dedupFrom_append {seen all : List String} {entries : List Entry}
    (h : ∀ text, text ∈ all ↔ text ∈ entries.map (·.insertText) ∨ text ∈ seen)
    (more : List Entry) :
    dedupFrom seen (entries ++ more) = dedupFrom seen entries ++ dedupFrom all more := by
  induction entries generalizing seen with
  | nil => exact dedupFrom_congr (fun text ↦ by simp [h]) more
  | cons e rest ih =>
    rw [List.cons_append, dedupFrom, dedupFrom]
    simp only [List.map_cons, List.mem_cons] at h
    by_cases hseen : e.insertText ∈ seen
    · have hrest : ∀ text, text ∈ all ↔ text ∈ rest.map (·.insertText) ∨ text ∈ seen := by
        grind
      rw [if_pos (List.contains_iff_mem.mpr hseen), if_pos (List.contains_iff_mem.mpr hseen),
        ih hrest]
    · have hrest : ∀ text, text ∈ all ↔
          text ∈ rest.map (·.insertText) ∨ text ∈ e.insertText :: seen := by
        intro text
        rw [h, List.mem_cons, or_left_comm, or_assoc]
      rw [if_neg (mt List.contains_iff_mem.mp hseen), if_neg (mt List.contains_iff_mem.mp hseen),
        ih hrest, List.cons_append]

/-- Of two lists, those of the second are left out that the first one has. -/
theorem dedupByInsertText_append (entries more : List Entry) :
    dedupByInsertText (entries ++ more) = dedupByInsertText entries ++
      (dedupByInsertText more).filter (·.insertText ∉ entries.map (·.insertText)) := by
  have hall : ∀ text, text ∈ entries.map (·.insertText) ↔
      text ∈ entries.map (·.insertText) ∨ text ∈ ([] : List String) := by simp
  rw [dedupByInsertText, dedupFrom_append hall, dedupFrom_eq_filter hall, dedupByInsertText,
    dedupByInsertText]

theorem dedupByInsertText_cons (e : Entry) (rest : List Entry) :
    dedupByInsertText (e :: rest) =
      e :: (dedupByInsertText rest).filter (·.insertText ≠ e.insertText) := by
  rw [← List.singleton_append, dedupByInsertText_append]
  simp only [List.map_singleton, List.mem_singleton]
  rfl

theorem dedupByInsertText_of_nodup {entries : List Entry}
    (h : (entries.map (·.insertText)).Nodup) : dedupByInsertText entries = entries := by
  induction entries with
  | nil => rfl
  | cons e rest ih =>
    obtain ⟨hnot, hrest⟩ := List.nodup_cons.mp h
    rw [dedupByInsertText_cons, ih hrest, List.filter_eq_self.mpr ?_]
    intro d hd
    have hne : d.insertText ≠ e.insertText := fun heq ↦ hnot (List.mem_map.mpr ⟨d, hd, heq⟩)
    exact decide_eq_true hne

/-! ## What stays -/

/-- The entries that have no other one in front of them with the same text. -/
def firstOfEach (entries : List Entry) : List Entry :=
  (entries.zipIdx.filter fun (e, i) ↦ e.insertText ∉ (entries.take i).map (·.insertText)).map
    Prod.fst

/-- The single pass over the entries keeps the right ones. -/
theorem dedupByInsertText_eq (entries : List Entry) :
    dedupByInsertText entries = firstOfEach entries := by
  induction entries using List.reverseRecOn with
  | nil => rfl
  | append_singleton entries e ih =>
    have hearlier : ∀ d i, (d, i) ∈ entries.zipIdx → (entries ++ [e]).take i = entries.take i :=
      fun d i h ↦ List.take_append_of_le_length (Nat.le_of_lt (List.snd_lt_of_mem_zipIdx h))
    rw [dedupByInsertText_append, ih, firstOfEach, firstOfEach, List.zipIdx_append,
      List.filter_append, List.map_append]
    congr 1
    · congr 1
      refine List.filter_congr fun ⟨d, i⟩ h ↦ ?_
      simp only [hearlier d i h]
    · rw [dedupByInsertText_of_nodup (by simp)]
      by_cases h : e.insertText ∈ entries.map (·.insertText)
      · rw [List.filter_cons_of_neg (by simpa using h), List.zipIdx_singleton,
          List.filter_cons_of_neg (by simpa using h), List.filter_nil, List.filter_nil,
          List.map_nil]
      · rw [List.filter_cons_of_pos (by simpa using h), List.zipIdx_singleton,
          List.filter_cons_of_pos (by simpa using h), List.filter_nil, List.filter_nil,
          List.map_cons, List.map_nil]

/-! ## A sublist with every text once -/

theorem dedupByInsertText_sublist (entries : List Entry) :
    (dedupByInsertText entries).Sublist entries := by
  induction entries with
  | nil => exact List.Sublist.refl []
  | cons e rest ih =>
    rw [dedupByInsertText_cons]
    exact (List.filter_sublist.trans ih).cons_cons e

/-- An entry stays if it is the first one that inserts its text. -/
theorem mem_dedupByInsertText_iff {entries : List Entry} {d : Entry} :
    d ∈ dedupByInsertText entries ↔ entries.find? (·.insertText = d.insertText) = some d := by
  induction entries with
  | nil => exact ⟨nofun, nofun⟩
  | cons e rest ih =>
    rw [dedupByInsertText_cons, List.mem_cons, List.mem_filter, decide_eq_true_iff, ih]
    by_cases h : e.insertText = d.insertText
    · have hfirst : (e :: rest).find? (·.insertText = d.insertText) = some e :=
        List.find?_cons_of_pos (decide_eq_true h)
      rw [hfirst, Option.some.injEq, eq_comm (a := e)]
      exact or_iff_left fun hd ↦ hd.2 h.symm
    · have hlater : (e :: rest).find? (·.insertText = d.insertText) =
          rest.find? (·.insertText = d.insertText) :=
        List.find?_cons_of_neg (by simpa using h)
      rw [hlater]
      constructor
      · rintro (rfl | ⟨hd, -⟩)
        · exact absurd rfl h
        · exact hd
      · exact fun hd ↦ .inr ⟨hd, fun heq ↦ h heq.symm⟩

theorem mem_map_dedupByInsertText_iff {entries : List Entry} {text : String} :
    text ∈ (dedupByInsertText entries).map (·.insertText) ↔
      text ∈ entries.map (·.insertText) := by
  constructor
  · exact fun h ↦ ((dedupByInsertText_sublist entries).map _).mem h
  · intro h
    obtain ⟨e, he, rfl⟩ := List.mem_map.mp h
    obtain ⟨d, hd⟩ : ∃ d, entries.find? (·.insertText = e.insertText) = some d :=
      Option.isSome_iff_exists.mp (List.find?_isSome.mpr ⟨e, he, decide_eq_true rfl⟩)
    have htext : d.insertText = e.insertText := by simpa using List.find?_some hd
    exact List.mem_map.mpr ⟨d, mem_dedupByInsertText_iff.mpr (htext ▸ hd), htext⟩

theorem nodup_map_dedupByInsertText (entries : List Entry) :
    ((dedupByInsertText entries).map (·.insertText)).Nodup := by
  induction entries with
  | nil => exact List.nodup_nil
  | cons e rest ih =>
    rw [dedupByInsertText_cons, List.map_cons, List.nodup_cons]
    refine ⟨fun h ↦ ?_, ih.sublist (List.filter_sublist.map _)⟩
    obtain ⟨d, hd, htext⟩ := List.mem_map.mp h
    exact of_decide_eq_true (List.mem_filter.mp hd).2 htext

/-- **The first entry of each text stays, and nothing else.** What stays is a sublist in which every
text of the list occurs once, with the first of the entries that insert it. So nothing is left out
of it again, and of two lists one after the other it is what stays of the first, followed by what
stays of the second and is new. -/
theorem dedupByInsertText_keepsFirst (entries : List Entry) :
    dedupByInsertText entries = firstOfEach entries ∧
      (dedupByInsertText entries).Sublist entries ∧
      ((dedupByInsertText entries).map (·.insertText)).Nodup ∧
      (∀ text, text ∈ (dedupByInsertText entries).map (·.insertText) ↔
        text ∈ entries.map (·.insertText)) ∧
      (∀ e, e ∈ dedupByInsertText entries ↔
        entries.find? (·.insertText = e.insertText) = some e) ∧
      dedupByInsertText (dedupByInsertText entries) = dedupByInsertText entries ∧
      ∀ more, dedupByInsertText (entries ++ more) = dedupByInsertText entries ++
        (dedupByInsertText more).filter (·.insertText ∉ entries.map (·.insertText)) := by
  have hnodup := nodup_map_dedupByInsertText entries
  exact ⟨dedupByInsertText_eq entries, dedupByInsertText_sublist entries, hnodup,
    fun _ ↦ mem_map_dedupByInsertText_iff, fun _ ↦ mem_dedupByInsertText_iff,
    dedupByInsertText_of_nodup hnodup, dedupByInsertText_append entries⟩

/-- The entry of a parameter hides a completion that inserts the same text. -/
example :
    dedupByInsertText [⟨"foo\tparam", "foo"⟩, ⟨"bar\tfunction", "bar"⟩, ⟨"foo\tinstance", "foo"⟩] =
      [⟨"foo\tparam", "foo"⟩, ⟨"bar\tfunction", "bar"⟩] := by
  decide

end CodeHints
