import CodeHints.Json.Value
import CodeHints.Proofs.Json.Grammar

/-!
# What is written follows the grammar

The compact text of a value is JSON, and it writes what the value is: strings with the characters
they consist of (`spells_string`), numbers with the digits of their value (`spells_ofNat`), lists
and objects with their parts in order (`spells_array`, `spells_object`).
-/

namespace CodeHints.Json

/-! ## Strings -/

/-- The part of a string that a character is written as. Control characters without a short escape
are written as code units. -/
def partOf (c : Char) : StringPart :=
  if c.toNat < 32 ∧ c ∉ escapes.map (·.2) then .unit c.toNat else .char c

/-- The parts of a string that a text is written as. -/
def partsOf (text : String) : List StringPart := text.toList.map partOf

/-- Control characters have two hexadecimal digits. -/
theorem hex4?_hexDigit {n : Nat} (h : n < 32) :
    hex4? '0' '0' (hexDigit (n / 16)) (hexDigit (n % 16)) = some n := by
  revert n
  decide

theorem spellsPart_escapeChar (c : Char) : SpellsPart (escapeChar c) (partOf c) := by
  by_cases hquote : c = '"'
  · subst hquote
    exact .escape (by decide)
  by_cases hbackslash : c = '\\'
  · subst hbackslash
    exact .escape (by decide)
  by_cases hshort : c ∈ ['\x08', '\x0c', '\n', '\r', '\t']
  · simp only [List.mem_cons, List.not_mem_nil, or_false] at hshort
    obtain rfl | rfl | rfl | rfl | rfl := hshort <;> exact .escape (by decide)
  have hescape : escapeChar c = if c.toNat < 32 then
      ['\\', 'u', '0', '0', hexDigit (c.toNat / 16), hexDigit (c.toNat % 16)] else [c] := by
    simp only [List.mem_cons, List.not_mem_nil, or_false, not_or] at hshort
    simp only [escapeChar, hquote, hbackslash, hshort, if_false]
  rw [hescape]
  split
  · next hcontrol =>
    have hslash : c ≠ '/' := by
      rintro rfl
      revert hcontrol
      decide
    have hmem : c ∉ escapes.map (·.2) := by
      simp only [List.mem_cons, List.not_mem_nil, or_false, not_or] at hshort
      simp [escapes, hquote, hbackslash, hslash, hshort]
    rw [partOf, if_pos ⟨hcontrol, hmem⟩]
    exact .unit (hex4?_hexDigit hcontrol)
  · next hcontrol =>
    rw [partOf, if_neg fun h ↦ hcontrol h.1]
    exact .plain hquote hbackslash (Nat.le_of_not_lt hcontrol)

theorem charsOf?_partOf_cons (c : Char) (parts : List StringPart) :
    charsOf? (partOf c :: parts) = (charsOf? parts).map (c :: ·) := by
  rw [partOf]
  split
  · next h =>
    have hlow : isLowSurrogate c.toNat = false := by simp [isLowSurrogate]; omega
    have hhigh : isHighSurrogate c.toNat = false := by simp [isHighSurrogate]; omega
    rw [charsOf?.eq_def]
    dsimp only
    rw [hlow, hhigh, Char.ofNat_toNat]
    rfl
  · rfl

theorem textOf?_partsOf (text : String) : textOf? (partsOf text) = some text := by
  have hchars (s : List Char) : charsOf? (s.map partOf) = some s := by
    induction s with
    | nil => rfl
    | cons c s ih =>
      rw [List.map_cons, charsOf?_partOf_cons, ih]
      rfl
  rw [textOf?, partsOf, hchars, Option.map_some, String.ofList_toList]

theorem spellsParts_partsOf (text : String) :
    SpellsParts (text.toList.flatMap escapeChar) (partsOf text) := by
  rw [partsOf]
  induction text.toList with
  | nil => exact .nil
  | cons c s ih => exact .cons (spellsPart_escapeChar c) ih

theorem spells_string (text : String) :
    Spells (string text).chars (.value (.string (partsOf text))) :=
  .string (spellsParts_partsOf text)

/-! ## Numbers -/

theorem head?_toDigits_ne {n : Nat} (h : 0 < n) : (Nat.toDigits 10 n).head? ≠ some '0' := by
  induction n using Nat.strongRecOn with
  | ind n ih =>
    rw [Nat.toDigits_eq_if (by decide)]
    split
    · next hlt =>
      have hdigit : ∀ m : Nat, m < 10 → 0 < m → [Nat.digitChar m].head? ≠ some '0' := by decide
      exact hdigit n hlt h
    · next hle =>
      have hhead := ih (n / 10) (by omega) (by omega)
      obtain ⟨c, t, ht⟩ := List.exists_cons_of_ne_nil (Nat.toDigits_ne_nil (n := n / 10) (b := 10))
      rw [ht] at hhead ⊢
      exact hhead

theorem isWhole_toDigits (n : Nat) : IsWhole (Nat.toDigits 10 n) := by
  obtain rfl | hn := Nat.eq_zero_or_pos n
  · exact .inl (Nat.toDigits_zero 10)
  · refine .inr ⟨⟨Nat.toDigits_ne_nil, fun c hc ↦ ?_⟩, head?_toDigits_ne hn⟩
    exact Nat.isDigit_of_mem_toDigits (by decide) (by decide) hc

theorem digitsValue_toDigits (n : Nat) : digitsValue (Nat.toDigits 10 n) = n := by
  have hdigits (s : List Char) : digitsValue s = Nat.ofDigitChars 10 s 0 := by
    simp only [digitsValue, Nat.ofDigitChars, Nat.mul_comm]
    rfl
  rw [hdigits, Nat.ofDigitChars_ten_toDigits]

theorem spells_ofNat (n : Nat) :
    Spells (ofNat n).chars (.value (.number false ⟨Nat.toDigits 10 n, none, none⟩)) := by
  have hnumber := SpellsNumber.mk (isWhole_toDigits n) .none .none
  rw [List.append_nil, List.append_nil] at hnumber
  change Spells n.repr.toList _
  rw [Nat.toList_repr]
  exact .natural hnumber

/-! ## Lists and objects -/

theorem commaSeparated_cons (t : List Char) (ts : List (List Char)) :
    commaSeparated (t :: ts) = t ++ ts.flatMap (',' :: ·) := by
  induction ts generalizing t with
  | nil => exact (List.append_nil t).symm
  | cons u ts ih =>
    rw [commaSeparated, ih, List.flatMap_cons, List.cons_append]
    exact nofun

theorem itemChars_eq_map (vs : List Json) : itemChars vs = vs.map chars := by
  induction vs with
  | nil => rfl
  | cons v vs ih => rw [itemChars, ih, List.map_cons]

theorem memberChars_eq_map (ms : List (String × Json)) :
    memberChars ms = ms.map fun m ↦ quote m.1 ++ ':' :: chars m.2 := by
  induction ms with
  | nil => rfl
  | cons m ms ih => rw [memberChars, ih, List.map_cons]

section Lists

variable {ι : Type} {value : ι → Json} {written : ι → Written} {l : List ι}
  (h : ∀ i ∈ l, Spells (value i).chars (.value (written i)))
include h

theorem spells_array : Spells (array (l.map value)).chars (.value (.array (l.map written))) := by
  have htail {l : List ι} (h : ∀ i ∈ l, Spells (value i).chars (.value (written i))) :
      Spells (((l.map value).map chars).flatMap (',' :: ·)) (.items false (l.map written)) := by
    induction l with
    | nil => exact .noItems isBlanks_nil
    | cons i l ih =>
      obtain ⟨hi, hl⟩ := List.forall_mem_cons.mp h
      exact .item (.later isBlanks_nil isBlanks_nil) hi (ih hl)
  change Spells ('[' :: (commaSeparated (itemChars (l.map value)) ++ [']'])) _
  rw [itemChars_eq_map]
  cases l with
  | nil => exact .array (.noItems isBlanks_nil)
  | cons i l =>
    obtain ⟨hi, hl⟩ := List.forall_mem_cons.mp h
    rw [List.map_cons, List.map_cons, commaSeparated_cons]
    exact .array (.item (.first isBlanks_nil) hi (htail hl))

theorem spells_object (name : ι → String) :
    Spells (object (l.map fun i ↦ (name i, value i))).chars
      (.value (.object (l.map fun i ↦ (partsOf (name i), written i)))) := by
  have hparts (i : ι) : SpellsParts ((name i).toList.flatMap escapeChar) (partsOf (name i)) :=
    spellsParts_partsOf (name i)
  have htail {l : List ι} (h : ∀ i ∈ l, Spells (value i).chars (.value (written i))) :
      Spells (((l.map fun i ↦ (name i, value i)).map fun m ↦ quote m.1 ++ ':' :: chars m.2).flatMap
        (',' :: ·)) (.members false (l.map fun i ↦ (partsOf (name i), written i))) := by
    induction l with
    | nil => exact .noMembers isBlanks_nil
    | cons i l ih =>
      obtain ⟨hi, hl⟩ := List.forall_mem_cons.mp h
      have hmember := Spells.member (.later isBlanks_nil isBlanks_nil) (hparts i) isBlanks_nil
        isBlanks_nil hi (ih hl)
      simp only [List.map_cons, List.flatMap_cons, quote, List.append_assoc, List.cons_append,
        List.nil_append] at hmember ⊢
      exact hmember
  change Spells ('\x7b' :: (commaSeparated (memberChars (l.map _)) ++ ['\x7d'])) _
  rw [memberChars_eq_map]
  cases l with
  | nil => exact .object (.noMembers isBlanks_nil)
  | cons i l =>
    obtain ⟨hi, hl⟩ := List.forall_mem_cons.mp h
    have hmember := Spells.member (.first isBlanks_nil) (hparts i) isBlanks_nil isBlanks_nil hi
      (htail hl)
    rw [List.map_cons, List.map_cons, commaSeparated_cons]
    refine .object ?_
    simp only [quote, List.append_assoc, List.cons_append, List.nil_append] at hmember ⊢
    exact hmember

end Lists

/-- A text with no blanks around its value. -/
theorem isDocument_text {v : Json} {w : Written} (h : Spells v.chars (.value w)) :
    IsDocument v.text w :=
  ⟨[], v.chars, [], isBlanks_nil, h, isBlanks_nil, by rw [text, List.nil_append, List.append_nil]⟩

end CodeHints.Json
