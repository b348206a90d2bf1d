import CodeHints.Proofs.Json.Running
import CodeHints.Proofs.Json.Skipping

/-!
# Values are read for what they are

Each reader of a wanted value goes with a function that takes a written value to what the reader
makes of it, or to nothing if the value does not fit: `readText` with `Written.text?`, `readWord`
with `Written.word?`, and so on. `Reads` is the agreement of the two. It says that a value that fits
is read up to its end, and that one that does not is refused.

The agreement is an equation of options, so it says nothing about why a value is refused.
-/

namespace CodeHints.Json

/-! ## What a value is wanted for -/

namespace Written

def text? : Written → Option String
  | .string parts => textOf? parts
  | _ => none

def flag? : Written → Option Bool
  | .bool value => some value
  | _ => none

/-- A natural number of 64 bits. -/
def word? : Written → Option Nat
  | .number false ⟨whole, none, none⟩ =>
    if digitsValue whole ≤ maxWord then some (digitsValue whole) else none
  | _ => none

def optional? {α : Type} (value : Written → Option α) : Written → Option (Option α)
  | .null => some none
  | v => (value v).map some

def list? {α : Type} (element : Written → Option α) : Written → Option (List α)
  | .array items => items.mapM element
  | _ => none

/-- A value without parts that is no number. -/
def atom? : Written → Option Json
  | .null => some .null
  | .bool value => some (.bool value)
  | .string parts => (textOf? parts).map .string
  | _ => none

instance (v : Written) (c : Char) : Decidable (v.BeginsWith c) :=
  match v with
  | .null => inferInstanceAs (Decidable (c = 'n'))
  | .bool true => inferInstanceAs (Decidable (c = 't'))
  | .bool false => inferInstanceAs (Decidable (c = 'f'))
  | .number _ _ => inferInstanceAs (Decidable (c = '-' ∨ isDigit c = true))
  | .string _ => inferInstanceAs (Decidable (c = '"'))
  | .array _ => inferInstanceAs (Decidable (c = '['))
  | .object _ => inferInstanceAs (Decidable (c = '\x7b'))

end Written

/-! ## What the first character says -/

namespace Spells

variable {s : List Char} {v : Written} (h : Spells s (.value v))
include h

theorem of_begins_null (hc : v.BeginsWith 'n') : v = .null ∧ s = "null".toList := by
  cases h with
  | null => exact ⟨rfl, rfl⟩
  | _ => simp [Written.BeginsWith, isDigit] at hc

theorem of_begins_true (hc : v.BeginsWith 't') : v = .bool true ∧ s = "true".toList := by
  cases h with
  | isTrue => exact ⟨rfl, rfl⟩
  | _ => simp [Written.BeginsWith, isDigit] at hc

theorem of_begins_false (hc : v.BeginsWith 'f') : v = .bool false ∧ s = "false".toList := by
  cases h with
  | isFalse => exact ⟨rfl, rfl⟩
  | _ => simp [Written.BeginsWith, isDigit] at hc

theorem of_begins_string (hc : v.BeginsWith '"') :
    ∃ t parts, v = .string parts ∧ s = '"' :: (t ++ ['"']) ∧ SpellsParts t parts := by
  cases h with
  | string ht => exact ⟨_, _, rfl, rfl, ht⟩
  | _ => simp [Written.BeginsWith, isDigit] at hc

theorem of_begins_array (hc : v.BeginsWith '[') :
    ∃ t vs, v = .array vs ∧ s = '[' :: (t ++ [']']) ∧ Spells t (.items true vs) := by
  cases h with
  | array ht => exact ⟨_, _, rfl, rfl, ht⟩
  | _ => simp [Written.BeginsWith, isDigit] at hc

theorem of_begins_object (hc : v.BeginsWith '\x7b') :
    ∃ t ms, v = .object ms ∧ s = '\x7b' :: (t ++ ['\x7d']) ∧ Spells t (.members true ms) := by
  cases h with
  | object ht => exact ⟨_, _, rfl, rfl, ht⟩
  | _ => simp [Written.BeginsWith, isDigit] at hc

theorem of_begins_number {c : Char} (hc : v.BeginsWith c) (hnumber : c = '-' ∨ isDigit c = true) :
    ∃ negative t, v = .number negative t := by
  cases h with
  | natural ht => exact ⟨_, _, rfl⟩
  | negative ht => exact ⟨_, _, rfl⟩
  | _ =>
    obtain rfl : c = _ := hc
    simp [isDigit] at hnumber

end Spells

/-! ## Natural numbers -/

/-- The value of digits that follow a number. -/
def digitsAfter (n : Nat) (digits : List Char) : Nat :=
  digits.foldl (fun n c ↦ n * 10 + (c.toNat - 48)) n

theorem le_digitsAfter (n : Nat) (digits : List Char) : n ≤ digitsAfter n digits := by
  induction digits generalizing n with
  | nil => exact Nat.le_refl n
  | cons c digits ih => exact Nat.le_trans (by omega) (ih (n * 10 + (c.toNat - 48)))

theorem absorb_of_le {n : Nat} {digits : List Char} (h : digitsAfter n digits ≤ maxWord) :
    absorb n digits = (digitsAfter n digits, []) := by
  induction digits generalizing n with
  | nil => rfl
  | cons c digits ih =>
    rw [absorb, if_pos (Nat.le_trans (le_digitsAfter _ digits) h), ih h]
    rfl

theorem absorb_of_lt {n : Nat} {digits : List Char} (hn : n ≤ maxWord)
    (h : maxWord < digitsAfter n digits) : (absorb n digits).2 ≠ [] := by
  induction digits generalizing n with
  | nil => exact absurd h (Nat.not_lt.mpr hn)
  | cons c digits ih =>
    rw [absorb]
    split
    · next hle => exact ih hle h
    · exact List.cons_ne_nil c digits

/-- What a number is as a natural number of 64 bits. -/
def Number.natural? : Number → Option Nat
  | .natural n => some n
  | _ => none

/-- A number that is written with a point or an exponent, or that does not fit, is no natural
number. -/
theorem natural?_value_of_float {t : NumberText} (negative : Bool)
    (h : ((absorb 0 t.whole).2.isEmpty && t.fraction.isNone && t.exponent.isNone) = false) :
    (t.value negative).toOption.bind Number.natural? = none := by
  have hfloat (x : Except Fault Float) (f : Float → Float) :
      (x >>= fun y ↦ pure (Number.float (f y)) : Except Fault Number).toOption.bind
        Number.natural? = none := by
    cases x <;> rfl
  rw [NumberText.value]
  dsimp only
  rw [if_neg (ne_true_of_eq_false h)]
  split
  · exact hfloat _ _
  · split
    · split <;> rfl
    · exact hfloat _ _

theorem natural?_value (t : NumberText) (negative : Bool) :
    (t.value negative).toOption.bind Number.natural? = (Written.number negative t).word? := by
  obtain ⟨whole, fraction, exponent⟩ := t
  by_cases hle : digitsValue whole ≤ maxWord
  · have habsorb : absorb 0 whole = (digitsValue whole, []) := absorb_of_le hle
    cases fraction with
    | none =>
      cases exponent with
      | none =>
        rw [NumberText.value, habsorb]
        cases negative with
        | false =>
          rw [Written.word?, if_pos hle]
          rfl
        | true =>
          change (wholeNumber true (digitsValue whole)).natural? = none
          rw [wholeNumber, if_pos rfl]
          split <;> rfl
      | some e =>
        rw [natural?_value_of_float _ (Bool.and_false _)]
        cases negative <;> rfl
    | some digits =>
      rw [natural?_value_of_float _ (by rw [Bool.and_right_comm]; exact Bool.and_false _)]
      cases negative <;> rfl
  · have hleft : (absorb 0 whole).2 ≠ [] := absorb_of_lt (Nat.zero_le _) (Nat.lt_of_not_le hle)
    rw [natural?_value_of_float _ (by simp [hleft])]
    cases negative <;> cases fraction <;> cases exponent <;> simp [Written.word?, hle]

namespace Reader

/-- A reader and what its values are wanted for go together. -/
def Reads {α : Type} (r : Reader α) (value : Written → Option α) : Prop :=
  ∀ a s rest v, IsBlanks a → Spells s (.value v) → Ends rest →
    r.run? (a ++ (s ++ rest)) = (value v).map (·, rest)

/-! ## Names, strings and numbers -/

theorem readIdent_append (name rest : List Char) : readIdent name (name ++ rest) = .ok rest := by
  induction name with
  | nil => cases rest <;> rfl
  | cons c name ih => rw [List.cons_append, readIdent, if_pos rfl, ih]

theorem run?_ident (name : String) (rest : List Char) :
    (ident name).run? (name.toList ++ rest) = some ((), rest) := by
  rw [run?, ident, readIdent_append]
  rfl

theorem run?_string {s : List Char} {parts : List StringPart} (h : SpellsParts s parts)
    (rest : List Char) :
    string.run? ('"' :: (s ++ '"' :: rest)) = (textOf? parts).map (·, rest) := by
  have hmap (x : Except Fault (List Char × List Char)) :
      (x.bind fun y ↦ .ok (String.ofList y.1, y.2)).toOption =
        x.toOption.map fun y ↦ (String.ofList y.1, y.2) := by
    cases x <;> rfl
  change ((readString (s ++ '"' :: rest)).bind fun x ↦ .ok (String.ofList x.1, x.2)).toOption = _
  rw [hmap, readString_spells h, textOf?, Option.map_map, Option.map_map]
  rfl

theorem run?_number {s : List Char} {negative : Bool} {t : NumberText}
    (h : Spells s (.value (.number negative t))) {rest : List Char} (hrest : Ends rest) :
    number.run? (s ++ rest) = (t.value negative).toOption.map (·, rest) := by
  have hread {negative : Bool} {u : List Char} (hu : SpellsNumber u t) :
      (readNumber negative (u ++ rest)).toOption = (t.value negative).toOption.map (·, rest) := by
    rw [readNumber, readNumberText_spells _ hu hrest]
    change ((t.value negative).bind fun n ↦ .ok (n, rest)).toOption = _
    cases t.value negative <;> rfl
  cases h with
  | natural hs =>
    obtain ⟨c, u, rfl, hc⟩ := hs.begins
    have hsign : ∀ w, c :: u ++ rest ≠ '-' :: w := by
      rintro w heq
      rw [(List.cons.inj heq).1] at hc
      cases hc
    rw [run?, number]
    · exact hread hs
    · exact hsign
  | negative hs => exact hread hs

/-! ## Values without parts -/

/-- Readers look at the first character of a value before they decide. -/
theorem run?_bind_peek {a s : List Char} {v : Written} (ha : IsBlanks a) (hs : Spells s (.value v))
    (rest : List Char) : ∃ c, v.BeginsWith c ∧ ∀ {α : Type} (f : Option Char → Reader α),
      (peek >>= f).run? (a ++ (s ++ rest)) = (f (some c)).run? (s ++ rest) := by
  obtain ⟨c, t, rfl, hc⟩ := hs.begins
  exact ⟨c, hc, run?_bind_of_eq_some (run?_peek ha hc.isBlank (t ++ rest))⟩

theorem run?_bind_peekValue {a s : List Char} {v : Written} (ha : IsBlanks a)
    (hs : Spells s (.value v)) (rest : List Char) :
    ∃ c, v.BeginsWith c ∧ ∀ {α : Type} (f : Char → Reader α),
      (peekValue >>= f).run? (a ++ (s ++ rest)) = (f c).run? (s ++ rest) := by
  obtain ⟨c, hc, hpeek⟩ := run?_bind_peek ha hs rest
  exact ⟨c, hc, fun f ↦ (congrArg (run? · _) (bind_assoc ..)).trans (hpeek _)⟩

theorem reads_text : Reads readText Written.text? := by
  intro a s rest v ha hs hrest
  obtain ⟨c, hc, hlook⟩ := run?_bind_peekValue ha hs rest
  rw [readText, hlook]
  split
  · next h =>
    obtain ⟨t, parts, rfl, rfl, ht⟩ := hs.of_begins_string (h ▸ hc)
    rw [List.cons_append, List.append_assoc]
    exact run?_string ht rest
  · next h =>
    rw [run?_refuse]
    cases v with
    | string parts => exact absurd hc h
    | _ => rfl

theorem reads_bool : Reads readBool Written.flag? := by
  intro a s rest v ha hs hrest
  obtain ⟨c, hc, hlook⟩ := run?_bind_peekValue ha hs rest
  rw [readBool, hlook]
  split
  · obtain ⟨rfl, rfl⟩ := hs.of_begins_true hc
    exact run?_bind_of_eq_some (run?_ident "true" rest) _
  · obtain ⟨rfl, rfl⟩ := hs.of_begins_false hc
    exact run?_bind_of_eq_some (run?_ident "false" rest) _
  · next htrue hfalse =>
    rw [run?_refuse]
    cases v with
    | bool value => cases value <;> contradiction
    | _ => rfl

theorem reads_word : Reads readWord Written.word? := by
  intro a s rest v ha hs hrest
  obtain ⟨c, hc, hlook⟩ := run?_bind_peekValue ha hs rest
  rw [readWord, hlook]
  split
  · next h =>
    obtain ⟨negative, t, rfl⟩ := hs.of_begins_number hc h
    rw [run?_bind_of_eq_map (run?_number hs hrest), ← natural?_value]
    cases (t.value negative).toOption with
    | none => rfl
    | some n => cases n <;> rfl
  · next h =>
    rw [run?_refuse]
    cases v with
    | number negative t => exact absurd hc h
    | _ => rfl

theorem run?_readNull {a s : List Char} {v : Written} (ha : IsBlanks a)
    (hs : Spells s (.value v)) (rest : List Char) :
    readNull.run? (a ++ (s ++ rest)) = match v with
      | .null => some ((), rest)
      | _ => none := by
  obtain ⟨c, hc, hlook⟩ := run?_bind_peekValue ha hs rest
  rw [readNull, hlook]
  split
  · next h =>
    obtain ⟨rfl, rfl⟩ := hs.of_begins_null (h ▸ hc)
    exact run?_ident "null" rest
  · next h =>
    rw [run?_refuse]
    cases v with
    | null => exact absurd hc h
    | _ => rfl

theorem Reads.map {α β : Type} {r : Reader α} {value : Written → Option α} (h : Reads r value)
    (f : α → β) : Reads (f <$> r) fun v ↦ (value v).map f := by
  intro a s rest v ha hs hrest
  rw [run?_map, h a s rest v ha hs hrest, Option.map_map, Option.map_map]
  rfl

theorem Reads.optional {α : Type} {r : Reader α} {value : Written → Option α} (h : Reads r value) :
    Reads (readOptional r) (Written.optional? value) := by
  intro a s rest v ha hs hrest
  obtain ⟨c, t, rfl, hc⟩ := hs.begins
  rw [readOptional, List.cons_append, run?_bind_of_eq_some (run?_peek ha hc.isBlank _)]
  split
  · next hn =>
    obtain rfl := Option.some.inj hn
    obtain ⟨rfl, heq⟩ := hs.of_begins_null hc
    rw [← List.cons_append, heq]
    exact run?_bind_of_eq_some (run?_ident "null" rest) _
  · next hn =>
    have hread := h.map some [] (c :: t) rest v isBlanks_nil hs hrest
    rw [List.nil_append] at hread
    rw [← List.cons_append, hread]
    cases v with
    | null => exact absurd (congrArg some hc) hn
    | _ => rfl

theorem Reads.andThen {α β : Type} {r : Reader α} {value : Written → Option α} (h : Reads r value)
    {f : α → Reader β} {g : α → Option β} (hf : ∀ x s, (f x).run? s = (g x).map (·, s)) :
    Reads (r >>= f) fun v ↦ (value v).bind g := by
  intro a s rest v ha hs hrest
  rw [run?_bind_of_eq_map (h a s rest v ha hs hrest)]
  dsimp only
  cases value v with
  | none => rfl
  | some x => exact hf x rest

/-! ## Elements -/

theorem run?_nextElement_end (first : Bool) {a : List Char} (ha : IsBlanks a) (rest : List Char) :
    (nextElement first).run? (a ++ ']' :: rest) = some (false, ']' :: rest) :=
  run?_bind_of_eq_some (run?_peek ha (by decide) rest) _

theorem run?_nextElement_item {first : Bool} {l s : List Char} {v : Written} (hl : Leads first l)
    (hs : Spells s (.value v)) (rest : List Char) :
    (nextElement first).run? (l ++ (s ++ rest)) = some (true, s ++ rest) := by
  obtain ⟨c, t, rfl, hc⟩ := hs.begins
  have hend : c ≠ ']' := hc.ne (by decide)
  cases hl with
  | first ha =>
    rw [nextElement, List.cons_append, run?_bind_of_eq_some (run?_peek ha hc.isBlank _)]
    split
    · next h => cases h
    · next h => exact absurd (Option.some.inj h) hend
    · rfl
  | later ha hb =>
    rw [nextElement, List.append_assoc, List.cons_append,
      run?_bind_of_eq_some (run?_peek ha (by decide) _)]
    change (eat >>= fun _ ↦ peek >>= _).run? _ = _
    rw [run?_bind_of_eq_some (run?_eat _ _), List.cons_append,
      run?_bind_of_eq_some (run?_peek hb hc.isBlank _)]
    split
    · next h => exact absurd (Option.some.inj h) hend
    · rfl
    · next h => cases h

theorem run?_endList {a : List Char} (ha : IsBlanks a) (rest : List Char) :
    endList.run? (a ++ ']' :: rest) = some ((), rest) :=
  run?_bind_of_eq_some (run?_peek ha (by decide) rest) _

theorem run?_endList_item {first : Bool} {l s : List Char} {v : Written} (hl : Leads first l)
    (hs : Spells s (.value v)) (rest : List Char) : endList.run? (l ++ (s ++ rest)) = none := by
  obtain ⟨c, t, rfl, hc⟩ := hs.begins
  have hend : c ≠ ']' := hc.ne (by decide)
  have hcomma : c ≠ ',' := hc.ne (by decide)
  cases hl with
  | first ha =>
    rw [endList, List.cons_append, run?_bind_of_eq_some (run?_peek ha hc.isBlank _)]
    split
    · next h => exact absurd (Option.some.inj h) hend
    · next h => exact absurd (Option.some.inj h) hcomma
    · rfl
    · rfl
  | later ha hb =>
    rw [endList, List.append_assoc, List.cons_append,
      run?_bind_of_eq_some (run?_peek ha (by decide) _)]
    change (eat >>= fun _ ↦ peek >>= _).run? _ = _
    rw [run?_bind_of_eq_some (run?_eat _ _), List.cons_append,
      run?_bind_of_eq_some (run?_peek hb hc.isBlank _)]
    split <;> rfl

theorem run?_elementsWithin {α : Type} {r : Reader α} {value : Written → Option α}
    (h : Reads r value) {fuel : Nat} {first : Bool} {s : List Char} {vs : List Written}
    (hs : Spells s (.items first vs)) (hfuel : s.length < fuel) (rest : List Char) :
    (elementsWithin r fuel first).run? (s ++ ']' :: rest) =
      (vs.mapM value).map (·, ']' :: rest) := by
  induction vs generalizing fuel first s with
  | nil =>
    obtain ⟨fuel, rfl⟩ := Nat.exists_eq_add_one_of_ne_zero (Nat.ne_zero_of_lt hfuel)
    cases hs with
    | noItems ha => exact run?_bind_of_eq_some (run?_nextElement_end first ha rest) _
  | cons v vs ih =>
    obtain ⟨fuel, rfl⟩ := Nat.exists_eq_add_one_of_ne_zero (Nat.ne_zero_of_lt hfuel)
    cases hs with
    | @item l s t _ _ _ hl hs ht =>
      have hlength := hs.length_pos
      simp only [List.length_append] at hfuel
      have hv : r.run? (s ++ (t ++ ']' :: rest)) = _ :=
        h [] s _ v isBlanks_nil hs (ht.ends_items rest)
      have htail : (elementsWithin r fuel false).run? (t ++ ']' :: rest) = _ := ih ht (by omega)
      rw [List.append_assoc, List.append_assoc, elementsWithin,
        run?_bind_of_eq_some (run?_nextElement_item hl hs _)]
      change (r >>= fun x ↦ elementsWithin r fuel false >>= fun xs ↦ pure (x :: xs)).run? _ = _
      rw [run?_bind_of_eq_map hv, List.mapM_cons]
      cases value v with
      | none => rfl
      | some x =>
        change (elementsWithin r fuel false >>= fun xs ↦ pure (x :: xs)).run? _ = _
        rw [run?_bind_of_eq_map htail]
        cases vs.mapM value <;> rfl

theorem Reads.list {α : Type} {r : Reader α} {value : Written → Option α} (h : Reads r value)
    {depth : Nat} (hdepth : 2 ≤ depth) : Reads (readList r depth) (Written.list? value) := by
  intro a s rest v ha hs hrest
  obtain ⟨c, hc, hlook⟩ := run?_bind_peekValue ha hs rest
  rw [readList, hlook]
  split
  · next heq =>
    obtain ⟨t, vs, rfl, rfl, ht⟩ := hs.of_begins_array (heq ▸ hc)
    have hlength : t.length < (t ++ ']' :: rest).length.succ :=
      Nat.lt_succ_of_le (by rw [List.length_append]; exact Nat.le_add_right _ _)
    rw [List.cons_append, List.append_assoc, run?_bind_of_eq_some (run?_descend hdepth _),
      run?_bind_of_eq_some (run?_eat _ _), run?_bind_of_eq_some (run?_get _)]
    rw [List.singleton_append, run?_bind_of_eq_map (run?_elementsWithin h ht hlength rest),
      Written.list?]
    cases vs.mapM value with
    | none => rfl
    | some xs => exact run?_bind_of_eq_some (run?_endList isBlanks_nil rest) _
  · next hne =>
    rw [run?_refuse]
    cases v with
    | array vs => exact absurd hc hne
    | _ => rfl

/-! ## Names -/

theorem run?_nextName_end (first : Bool) {a : List Char} (ha : IsBlanks a) (rest : List Char) :
    (nextName first).run? (a ++ '\x7d' :: rest) = some (none, '\x7d' :: rest) :=
  run?_bind_of_eq_some (run?_peek ha (by decide) rest) _

theorem run?_nextName_member {first : Bool} {l n : List Char} {name : List StringPart}
    (hl : Leads first l) (hn : SpellsParts n name) (rest : List Char) :
    (nextName first).run? (l ++ '"' :: (n ++ '"' :: rest)) =
      ((textOf? name).map some).map (·, rest) := by
  have hstring : (some <$> string).run? ('"' :: (n ++ '"' :: rest)) =
      ((textOf? name).map some).map (·, rest) := by
    rw [run?_map, run?_string hn, Option.map_map, Option.map_map]
    rfl
  cases hl with
  | first ha =>
    rw [nextName, run?_bind_of_eq_some (run?_peek ha (by decide) _)]
    exact hstring
  | later ha hb =>
    rw [nextName, List.append_assoc, List.cons_append,
      run?_bind_of_eq_some (run?_peek ha (by decide) _)]
    change (eat >>= fun _ ↦ peek >>= _).run? _ = _
    rw [run?_bind_of_eq_some (run?_eat _ _), run?_bind_of_eq_some (run?_peek hb (by decide) _)]
    exact hstring

theorem run?_colon {a : List Char} (ha : IsBlanks a) (rest : List Char) :
    colon.run? (a ++ ':' :: rest) = some ((), rest) :=
  run?_bind_of_eq_some (run?_peek ha (by decide) rest) _

/-! ## Values that are read whole -/

/-- A value that is read whole and then looked at, where a number is refused in any case, and so is
what has parts. -/
theorem Reads.whole {α : Type} {f : Json → Reader α} {g : Json → Option α}
    (hf : ∀ j s, (f j).run? s = (g j).map (·, s)) (hnumber : ∀ n, g (.number n) = none)
    (harray : ∀ items, g (.array items) = none) (hobject : ∀ ms, g (.object ms) = none)
    (depth : Nat) : Reads (readValue depth >>= f) fun v ↦ v.atom?.bind g := by
  intro a s rest v ha hs hrest
  obtain ⟨c, hc, hlook⟩ := run?_bind_peekValue ha hs rest
  -- There are always steps to begin with.
  have hsteps (t : List Char) : (readValue depth >>= f).run? t =
      (valueWithin (2 * t.length + 1 + 1) depth >>= f).run? t := by
    rw [run?_bind, run?_bind, run?, run?, readValue, stepsFor]
  have hrefused {r : Reader Json} {P : Json → Prop} (hr : Ensures r P) (hP : ∀ j, P j → g j = none)
      (t : List Char) : (r >>= f).run? t = none :=
    run?_bind_eq_none hr (fun j t hj ↦ by rw [hf, hP j hj]; rfl) t
  rw [hsteps, valueWithin, bind_assoc, hlook]
  split
  · obtain ⟨rfl, rfl⟩ := hs.of_begins_null hc
    rw [bind_assoc]
    exact (run?_bind_of_eq_some (run?_ident "null" rest) _).trans (hf _ _)
  · obtain ⟨rfl, rfl⟩ := hs.of_begins_true hc
    rw [bind_assoc]
    exact (run?_bind_of_eq_some (run?_ident "true" rest) _).trans (hf _ _)
  · obtain ⟨rfl, rfl⟩ := hs.of_begins_false hc
    rw [bind_assoc]
    exact (run?_bind_of_eq_some (run?_ident "false" rest) _).trans (hf _ _)
  · obtain ⟨t, parts, rfl, rfl, ht⟩ := hs.of_begins_string hc
    rw [List.cons_append, List.append_assoc, List.singleton_append, bind_assoc,
      run?_bind_of_eq_map (run?_string ht rest)]
    dsimp only [Written.atom?]
    cases textOf? parts with
    | none => rfl
    | some text => exact hf _ _
  · obtain ⟨t, vs, rfl, -, -⟩ := hs.of_begins_array hc
    refine hrefused (P := fun j ↦ ∃ items, j = .array items) ?_ ?_ _
    · exact .last _ fun _ ↦ .last _ fun _ ↦ .last _ fun _ ↦ .last _ fun _ ↦ .pure ⟨_, rfl⟩
    · rintro _ ⟨items, rfl⟩
      exact harray items
  · obtain ⟨t, ms, rfl, -, -⟩ := hs.of_begins_object hc
    refine hrefused (P := fun j ↦ ∃ ms, j = .object ms) ?_ ?_ _
    · exact .last _ fun _ ↦ .last _ fun _ ↦ .last _ fun _ ↦ .last _ fun _ ↦ .pure ⟨_, rfl⟩
    · rintro _ ⟨ms, rfl⟩
      exact hobject ms
  · split
    · next h =>
      obtain ⟨negative, t, rfl⟩ := hs.of_begins_number hc h
      refine hrefused (P := fun j ↦ ∃ n, j = .number n) (.last _ fun _ ↦ .pure ⟨_, rfl⟩) ?_ _
      rintro _ ⟨n, rfl⟩
      exact hnumber n
    · next htrue hfalse hstring harray hobject h =>
      cases v with
      | null => contradiction
      | bool value => cases value <;> contradiction
      | number negative t => exact absurd hc h
      | string parts => contradiction
      | array vs => contradiction
      | object ms => contradiction

/-! ## Documents -/

theorem Reads.document {α : Type} {r : Reader α} {value : Written → Option α} (h : Reads r value)
    {text : String} {v : Written} (htext : IsDocument text v) :
    (readDocument r text).toOption = value v := by
  obtain ⟨a, s, b, ha, hs, hb, rfl⟩ := htext
  have hends : Ends b := by
    rw [← List.append_nil b]
    exact .of_isBlanks hb nofun
  rw [toOption_readDocument, String.toList_ofList, h a s b v ha hs hends]
  cases value v with
  | none => rfl
  | some x => exact if_pos (skipBlanks_of_isBlanks hb)

end Reader

end CodeHints.Json
