import CodeHints.Json.Token

/-!
# The grammar of JSON

Which texts are JSON, and what they say. `Spells s (.value v)` means that the characters `s` write
the value `v`. There is one rule for each form that a value can be written in, and the rules say
nothing about how a text is read.

## Written values

A `Written` value is a text without what does not matter: the blanks between tokens are gone, and so
is the choice between a character and a short escape for it. Two things stay as they were written.

* A hexadecimal escape stands for a code unit. Two of them may make a character together, and one
  that lacks its partner makes none. A string that has such a unit is valid JSON and yet no text, so
  `textOf?` is partial, and it is never asked about a string that is passed over.
* A number keeps its digits, since how large it may be depends on who wants it.

Members of an object keep their order, and a name may occur more than once.
-/

namespace CodeHints.Json

/-! ## Written values -/

/-- A part of a string: a character, or a code unit that was written as a hexadecimal escape. -/
inductive StringPart where
  | char (c : Char)
  | unit (n : Nat)
  deriving DecidableEq, Repr

/-- A value as it is written. -/
inductive Written where
  | null
  | bool (value : Bool)
  | number (negative : Bool) (text : NumberText)
  | string (parts : List StringPart)
  | array (items : List Written)
  | object (members : List (List StringPart × Written))

/-- The characters of a string, if each half of a surrogate pair has its other half. -/
def charsOf? : List StringPart → Option (List Char)
  | [] => some []
  | .char c :: parts => (charsOf? parts).map (c :: ·)
  | .unit n :: parts =>
    if isLowSurrogate n then none
    else if isHighSurrogate n then
      match parts with
      | .unit m :: parts =>
        if isLowSurrogate m then (charsOf? parts).map (surrogatePair n m :: ·) else none
      | _ => none
    else (charsOf? parts).map (Char.ofNat n :: ·)

/-- The text of a string. -/
def textOf? (parts : List StringPart) : Option String := (charsOf? parts).map String.ofList

/-! ## Tokens -/

def IsBlanks (s : List Char) : Prop := ∀ c ∈ s, isBlank c = true

theorem isBlanks_nil : IsBlanks [] := nofun

instance : DecidablePred IsBlanks := fun s ↦ List.decidableBAll _ s

/-- The letters behind a backslash, and the characters that they stand for. -/
def escapes : List (Char × Char) :=
  [('"', '"'), ('\\', '\\'), ('/', '/'), ('b', '\x08'), ('f', '\x0c'), ('n', '\n'), ('r', '\r'),
   ('t', '\t')]

/-- How one part of a string is written. -/
inductive SpellsPart : List Char → StringPart → Prop
  | plain {c : Char} (hquote : c ≠ '"') (hbackslash : c ≠ '\\') (hcontrol : 32 ≤ c.toNat) :
      SpellsPart [c] (.char c)
  | escape {e c : Char} (h : (e, c) ∈ escapes) : SpellsPart ['\\', e] (.char c)
  | unit {x₁ x₂ x₃ x₄ : Char} {n : Nat} (h : hex4? x₁ x₂ x₃ x₄ = some n) :
      SpellsPart ['\\', 'u', x₁, x₂, x₃, x₄] (.unit n)

/-- What stands between the quotation marks of a string. -/
inductive SpellsParts : List Char → List StringPart → Prop
  | nil : SpellsParts [] []
  | cons {s t : List Char} {part : StringPart} {parts : List StringPart} (hs : SpellsPart s part)
      (ht : SpellsParts t parts) : SpellsParts (s ++ t) (part :: parts)

/-- Nothing but characters that need no escape. -/
def IsPlain (s : List Char) : Prop := ∀ c ∈ s, c ≠ '"' ∧ c ≠ '\\' ∧ 32 ≤ c.toNat

instance : DecidablePred IsPlain := fun s ↦ List.decidableBAll _ s

/-- Characters that need no escape stand for themselves. -/
theorem SpellsParts.plain {s : List Char} (h : IsPlain s) : SpellsParts s (s.map .char) := by
  induction s with
  | nil => exact .nil
  | cons c s ih =>
    obtain ⟨⟨hquote, hbackslash, hcontrol⟩, hs⟩ := List.forall_mem_cons.mp h
    exact .cons (.plain hquote hbackslash hcontrol) (ih hs)

/-- At least one digit. -/
def IsDigits (s : List Char) : Prop := s ≠ [] ∧ ∀ c ∈ s, isDigit c = true

instance : DecidablePred IsDigits := fun s ↦
  have : Decidable (∀ c ∈ s, isDigit c = true) := List.decidableBAll _ s
  inferInstanceAs (Decidable (_ ∧ _))

/-- The digits before the point: a zero, or a number that does not begin with one. -/
def IsWhole (s : List Char) : Prop := s = ['0'] ∨ IsDigits s ∧ s.head? ≠ some '0'

instance : DecidablePred IsWhole := fun _ ↦ inferInstanceAs (Decidable (_ ∨ _ ∧ _))

/-- The point and the digits behind it. -/
inductive SpellsFraction : List Char → Option (List Char) → Prop
  | none : SpellsFraction [] none
  | some {digits : List Char} (h : IsDigits digits) : SpellsFraction ('.' :: digits) (some digits)

inductive SpellsSign : List Char → Bool → Prop
  | none : SpellsSign [] false
  | plus : SpellsSign ['+'] false
  | minus : SpellsSign ['-'] true

inductive SpellsExponent : List Char → Option (Bool × List Char) → Prop
  | none : SpellsExponent [] none
  | some {mark : Char} {sign digits : List Char} {negative : Bool} (hmark : mark = 'e' ∨ mark = 'E')
      (hsign : SpellsSign sign negative) (h : IsDigits digits) :
      SpellsExponent (mark :: (sign ++ digits)) (some (negative, digits))

/-- A number without its sign. -/
inductive SpellsNumber : List Char → NumberText → Prop
  | mk {whole fraction exponent : List Char} {f : Option (List Char)}
      {e : Option (Bool × List Char)} (hwhole : IsWhole whole)
      (hfraction : SpellsFraction fraction f) (hexponent : SpellsExponent exponent e) :
      SpellsNumber (whole ++ (fraction ++ exponent)) ⟨whole, f, e⟩

/-! ## Values -/

/-- What stands in front of an element: blanks, and a comma unless it is the first one. -/
inductive Leads : Bool → List Char → Prop
  | first {a : List Char} (ha : IsBlanks a) : Leads true a
  | later {a b : List Char} (ha : IsBlanks a) (hb : IsBlanks b) : Leads false (a ++ ',' :: b)

/-- What the rules of the grammar speak about: values, and the elements and members that stand up to
the closing bracket, with or without others in front of them. -/
inductive Phrase where
  | value (v : Written)
  | items (first : Bool) (vs : List Written)
  | members (first : Bool) (ms : List (List StringPart × Written))

/-- The rules of the grammar. -/
inductive Spells : List Char → Phrase → Prop
  | null : Spells ['n', 'u', 'l', 'l'] (.value .null)
  | isTrue : Spells ['t', 'r', 'u', 'e'] (.value (.bool true))
  | isFalse : Spells ['f', 'a', 'l', 's', 'e'] (.value (.bool false))
  | natural {s : List Char} {t : NumberText} (h : SpellsNumber s t) :
      Spells s (.value (.number false t))
  | negative {s : List Char} {t : NumberText} (h : SpellsNumber s t) :
      Spells ('-' :: s) (.value (.number true t))
  | string {s : List Char} {parts : List StringPart} (h : SpellsParts s parts) :
      Spells ('"' :: (s ++ ['"'])) (.value (.string parts))
  | array {s : List Char} {vs : List Written} (h : Spells s (.items true vs)) :
      Spells ('[' :: (s ++ [']'])) (.value (.array vs))
  | object {s : List Char} {ms : List (List StringPart × Written)}
      (h : Spells s (.members true ms)) : Spells ('\x7b' :: (s ++ ['\x7d'])) (.value (.object ms))
  | noItems {s : List Char} {first : Bool} (h : IsBlanks s) : Spells s (.items first [])
  | item {l s t : List Char} {first : Bool} {v : Written} {vs : List Written} (hl : Leads first l)
      (hs : Spells s (.value v)) (ht : Spells t (.items false vs)) :
      Spells (l ++ (s ++ t)) (.items first (v :: vs))
  | noMembers {s : List Char} {first : Bool} (h : IsBlanks s) : Spells s (.members first [])
  | member {l n a b s t : List Char} {first : Bool} {name : List StringPart} {v : Written}
      {ms : List (List StringPart × Written)} (hl : Leads first l) (hn : SpellsParts n name)
      (ha : IsBlanks a) (hb : IsBlanks b) (hs : Spells s (.value v))
      (ht : Spells t (.members false ms)) :
      Spells (l ++ '"' :: (n ++ '"' :: (a ++ ':' :: (b ++ (s ++ t)))))
        (.members first ((name, v) :: ms))

/-- A text that holds one value, with blanks around it. -/
def IsDocument (text : String) (v : Written) : Prop :=
  ∃ a s b, IsBlanks a ∧ Spells s (.value v) ∧ IsBlanks b ∧ text = String.ofList (a ++ (s ++ b))

/-! ## The first character of a value -/

/-- What a value begins with. -/
def Written.BeginsWith : Written → Char → Prop
  | .null, c => c = 'n'
  | .bool true, c => c = 't'
  | .bool false, c => c = 'f'
  | .number _ _, c => c = '-' ∨ isDigit c = true
  | .string _, c => c = '"'
  | .array _, c => c = '['
  | .object _, c => c = '\x7b'

theorem SpellsNumber.begins {s : List Char} {t : NumberText} (h : SpellsNumber s t) :
    ∃ c rest, s = c :: rest ∧ isDigit c = true := by
  obtain ⟨rfl | ⟨⟨hne, hdigits⟩, -⟩, -, -⟩ := h
  · exact ⟨'0', _, rfl, by decide⟩
  · obtain ⟨c, rest, rfl⟩ := List.exists_cons_of_ne_nil hne
    exact ⟨c, _, rfl, hdigits c List.mem_cons_self⟩

theorem Spells.begins {s : List Char} {v : Written} (h : Spells s (.value v)) :
    ∃ c rest, s = c :: rest ∧ v.BeginsWith c := by
  cases h with
  | null => exact ⟨_, _, rfl, rfl⟩
  | isTrue => exact ⟨_, _, rfl, rfl⟩
  | isFalse => exact ⟨_, _, rfl, rfl⟩
  | natural h =>
    obtain ⟨c, rest, hs, hc⟩ := h.begins
    exact ⟨c, rest, hs, .inr hc⟩
  | negative h => exact ⟨_, _, rfl, .inl rfl⟩
  | string h => exact ⟨_, _, rfl, rfl⟩
  | array h => exact ⟨_, _, rfl, rfl⟩
  | object h => exact ⟨_, _, rfl, rfl⟩

theorem isBlank_of_isDigit {c : Char} (h : isDigit c = true) : isBlank c = false := by
  rw [Bool.eq_false_iff]
  intro hblank
  simp only [isBlank, Bool.or_eq_true, beq_iff_eq] at hblank
  obtain ((rfl | rfl) | rfl) | rfl := hblank <;> cases h

theorem Written.BeginsWith.ne {v : Written} {c : Char} (h : v.BeginsWith c) {d : Char}
    (hd : d ∈ [' ', '\n', '\t', '\r', ',', ':', ']', '\x7d']) : c ≠ d := by
  have hdigit : isDigit d = false := by
    simp only [List.mem_cons, List.not_mem_nil, or_false] at hd
    obtain rfl | rfl | rfl | rfl | rfl | rfl | rfl | rfl := hd <;> rfl
  rintro rfl
  cases v with
  | null => revert hd; subst h; decide
  | bool value => cases value <;> (revert hd; subst h; decide)
  | number negative text =>
    obtain rfl | h := h
    · revert hd; decide
    · rw [hdigit] at h; cases h
  | string parts => revert hd; subst h; decide
  | array items => revert hd; subst h; decide
  | object members => revert hd; subst h; decide

theorem Written.BeginsWith.isBlank {v : Written} {c : Char} (h : v.BeginsWith c) :
    isBlank c = false := by
  rw [Bool.eq_false_iff]
  intro hblank
  simp only [Json.isBlank, Bool.or_eq_true, beq_iff_eq] at hblank
  obtain ((hc | hc) | hc) | hc := hblank <;> exact h.ne (by decide) hc

end CodeHints.Json
