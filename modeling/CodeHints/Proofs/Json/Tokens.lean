import CodeHints.Proofs.Json.Grammar

/-!
# Tokens are read as they are written

For every token of the grammar, what the reader of the token makes of it with any text behind it.
Strings and numbers are read up to their end and no further. For a number this depends on what
follows, since it has no closing mark: `Ends` says that something follows that no number goes on
with.

A string that is decoded is refused exactly if it is no text, and one that is passed over never is.
-/

namespace CodeHints.Json

/-! ## Blanks -/

theorem skipBlanks_append {a : List Char} (ha : IsBlanks a) (s : List Char) :
    skipBlanks (a ++ s) = skipBlanks s := List.dropWhile_append_of_pos ha

theorem skipBlanks_cons {c : Char} (hc : isBlank c = false) (s : List Char) :
    skipBlanks (c :: s) = c :: s := List.dropWhile_cons_of_neg (by simp [hc])

theorem skipBlanks_of_isBlanks {a : List Char} (ha : IsBlanks a) : skipBlanks a = [] := by
  rw [← List.append_nil a, skipBlanks_append ha]
  rfl

/-! ## Strings -/

theorem toOption_consChar {c : Char} {r : Except Fault (List Char × List Char)}
    {chars? : Option (List Char)} {rest : List Char} (h : r.toOption = chars?.map (·, rest)) :
    (consChar c r).toOption = (chars?.map (c :: ·)).map (·, rest) := by
  have hcons : (consChar c r).toOption = r.toOption.map fun x ↦ (c :: x.1, x.2) := by
    cases r <;> rfl
  rw [hcons, h]
  cases chars? <;> rfl

theorem readString_of_ne {c : Char} (h : c ≠ '\\') (s : List Char) :
    readString (c :: s) =
      if c = '"' then .ok ([], s)
      else if c.toNat < 32 then .error .controlCharacter
      else consChar c (readString s) := by
  rw [readString.eq_def]
  dsimp only
  rw [if_neg h]

theorem readString_quote (s : List Char) : readString ('"' :: s) = .ok ([], s) := by
  rw [readString_of_ne (by decide), if_pos rfl]

theorem readString_plain {c : Char} (hquote : c ≠ '"') (hbackslash : c ≠ '\\')
    (hcontrol : 32 ≤ c.toNat) (s : List Char) :
    readString (c :: s) = consChar c (readString s) := by
  rw [readString_of_ne hbackslash, if_neg hquote, if_neg (Nat.not_lt.mpr hcontrol)]

theorem readString_escape {e c : Char} (h : (e, c) ∈ escapes) (s : List Char) :
    readString ('\\' :: e :: s) = consChar c (readString s) := by
  simp only [escapes, List.mem_cons, Prod.mk.injEq, List.not_mem_nil, or_false] at h
  obtain ⟨rfl, rfl⟩ | ⟨rfl, rfl⟩ | ⟨rfl, rfl⟩ | ⟨rfl, rfl⟩ | ⟨rfl, rfl⟩ | ⟨rfl, rfl⟩ | ⟨rfl, rfl⟩ |
    ⟨rfl, rfl⟩ := h <;> rw [readString.eq_def] <;> rfl

theorem skipString_of_ne {c : Char} (h : c ≠ '\\') (s : List Char) :
    skipString (c :: s) =
      if c = '"' then .ok s
      else if c.toNat < 32 then .error .controlCharacter
      else skipString s := by
  rw [skipString.eq_def]
  dsimp only
  rw [if_neg h]

theorem skipString_quote (s : List Char) : skipString ('"' :: s) = .ok s := by
  rw [skipString_of_ne (by decide), if_pos rfl]

theorem skipString_plain {c : Char} (hquote : c ≠ '"') (hbackslash : c ≠ '\\')
    (hcontrol : 32 ≤ c.toNat) (s : List Char) : skipString (c :: s) = skipString s := by
  rw [skipString_of_ne hbackslash, if_neg hquote, if_neg (Nat.not_lt.mpr hcontrol)]

theorem skipString_escape {e c : Char} (h : (e, c) ∈ escapes) (s : List Char) :
    skipString ('\\' :: e :: s) = skipString s := by
  simp only [escapes, List.mem_cons, Prod.mk.injEq, List.not_mem_nil, or_false] at h
  obtain ⟨rfl, -⟩ | ⟨rfl, -⟩ | ⟨rfl, -⟩ | ⟨rfl, -⟩ | ⟨rfl, -⟩ | ⟨rfl, -⟩ | ⟨rfl, -⟩ |
    ⟨rfl, -⟩ := h <;> rw [skipString.eq_def] <;> rfl

section Units

variable {x₁ x₂ x₃ x₄ : Char} {n : Nat} (h : hex4? x₁ x₂ x₃ x₄ = some n)
include h

theorem skipString_unit (s : List Char) :
    skipString ('\\' :: 'u' :: x₁ :: x₂ :: x₃ :: x₄ :: s) = skipString s := by
  rw [skipString.eq_def]
  simp [h]

theorem readString_unit (hlow : isLowSurrogate n = false) (hhigh : isHighSurrogate n = false)
    (s : List Char) : readString ('\\' :: 'u' :: x₁ :: x₂ :: x₃ :: x₄ :: s) =
      consChar (Char.ofNat n) (readString s) := by
  rw [readString.eq_def]
  simp [h, hlow, hhigh]

theorem readString_low (hlow : isLowSurrogate n = true) (s : List Char) :
    (readString ('\\' :: 'u' :: x₁ :: x₂ :: x₃ :: x₄ :: s)).toOption = none := by
  rw [readString.eq_def]
  simp [h, hlow, Except.toOption]

theorem readString_pair (hlow : isLowSurrogate n = false) (hhigh : isHighSurrogate n = true)
    {y₁ y₂ y₃ y₄ : Char} {m : Nat} (hy : hex4? y₁ y₂ y₃ y₄ = some m) (s : List Char) :
    (readString ('\\' :: 'u' :: x₁ :: x₂ :: x₃ :: x₄ ::
        '\\' :: 'u' :: y₁ :: y₂ :: y₃ :: y₄ :: s)).toOption =
      if isLowSurrogate m then (consChar (surrogatePair n m) (readString s)).toOption
      else none := by
  rw [readString.eq_def]
  simp only [h, hlow, hhigh, hy]
  cases isLowSurrogate m <;> rfl

/-- The first half of a pair needs the second one right behind it. -/
theorem readString_high (hlow : isLowSurrogate n = false) (hhigh : isHighSurrogate n = true)
    {s : List Char} (hs : ∀ t, s ≠ '\\' :: 'u' :: t) :
    (readString ('\\' :: 'u' :: x₁ :: x₂ :: x₃ :: x₄ :: s)).toOption = none := by
  rw [readString.eq_def]
  simp only [h, hlow, hhigh, Char.reduceEq, if_false, if_true, Bool.false_eq_true]
  split
  · rfl
  · next y₁ y₂ y₃ y₄ t => exact absurd rfl (hs (y₁ :: y₂ :: y₃ :: y₄ :: t))
  · next short _ => exact absurd rfl (hs short)
  · rfl
  · rfl

end Units

theorem readString_char {s : List Char} {c : Char} (h : SpellsPart s (.char c)) (t : List Char) :
    readString (s ++ t) = consChar c (readString t) := by
  cases h with
  | plain hquote hbackslash hcontrol => exact readString_plain hquote hbackslash hcontrol t
  | escape he => exact readString_escape he t

/-- A code unit is written in one way only. -/
theorem SpellsParts.exists_of_unit {s : List Char} {n : Nat} {parts : List StringPart}
    (h : SpellsParts s (.unit n :: parts)) :
    ∃ x₁ x₂ x₃ x₄ t, s = '\\' :: 'u' :: x₁ :: x₂ :: x₃ :: x₄ :: t ∧
      hex4? x₁ x₂ x₃ x₄ = some n ∧ SpellsParts t parts := by
  cases h with
  | cons hs ht =>
    cases hs with
    | unit hx => exact ⟨_, _, _, _, _, rfl, hx, ht⟩

/-- A string goes on with a hexadecimal escape only if its next part is a code unit. -/
theorem SpellsParts.exists_unit {s rest t : List Char} {parts : List StringPart}
    (h : SpellsParts s parts) (heq : s ++ '"' :: rest = '\\' :: 'u' :: t) :
    ∃ n parts', parts = .unit n :: parts' := by
  cases h with
  | nil => cases heq
  | cons hs ht =>
    cases hs with
    | plain hquote hbackslash hcontrol => exact absurd (List.cons.inj heq).1 hbackslash
    | escape he =>
      obtain rfl := (List.cons.inj (List.cons.inj heq).2).1
      simp [escapes] at he
    | unit hx => exact ⟨_, _, rfl⟩

/-- **A string is read if it is a text**, up to its closing quotation mark. -/
theorem readString_spells {s : List Char} {parts : List StringPart} (h : SpellsParts s parts)
    (rest : List Char) :
    (readString (s ++ '"' :: rest)).toOption = (charsOf? parts).map (·, rest) := by
  -- The cases are those of `charsOf?`, which looks one part ahead for the second half of a pair.
  fun_induction charsOf? parts generalizing s with
  | case1 =>
    cases h
    rw [List.nil_append, readString_quote]
    rfl
  | case2 c parts ih =>
    cases h with
    | cons hs ht =>
      rw [List.append_assoc, readString_char hs, toOption_consChar (ih ht)]
  | case3 n parts hlow =>
    obtain ⟨x₁, x₂, x₃, x₄, t, rfl, hx, -⟩ := h.exists_of_unit
    exact readString_low hx hlow _
  | case4 n hlow hhigh m parts hlow' ih =>
    obtain ⟨x₁, x₂, x₃, x₄, _, rfl, hx, ht⟩ := h.exists_of_unit
    obtain ⟨y₁, y₂, y₃, y₄, t, rfl, hy, ht'⟩ := ht.exists_of_unit
    have hpair := readString_pair hx (by simpa using hlow) hhigh hy (t ++ '"' :: rest)
    rw [if_pos hlow'] at hpair
    exact hpair.trans (toOption_consChar (ih ht'))
  | case5 n hlow hhigh m parts hlow' =>
    obtain ⟨x₁, x₂, x₃, x₄, _, rfl, hx, ht⟩ := h.exists_of_unit
    obtain ⟨y₁, y₂, y₃, y₄, t, rfl, hy, -⟩ := ht.exists_of_unit
    have hpair := readString_pair hx (by simpa using hlow) hhigh hy (t ++ '"' :: rest)
    rwa [if_neg hlow'] at hpair
  | case6 n parts hlow hhigh hnot =>
    obtain ⟨x₁, x₂, x₃, x₄, t, rfl, hx, ht⟩ := h.exists_of_unit
    refine readString_high hx (by simpa using hlow) hhigh fun u heq ↦ ?_
    obtain ⟨m, parts', hparts⟩ := ht.exists_unit heq
    exact hnot m parts' hparts
  | case7 n parts hlow hhigh ih =>
    obtain ⟨x₁, x₂, x₃, x₄, t, rfl, hx, ht⟩ := h.exists_of_unit
    have hunit := readString_unit hx (by simpa using hlow) (by simpa using hhigh) (t ++ '"' :: rest)
    exact (congrArg Except.toOption hunit).trans (toOption_consChar (ih ht))

theorem skipString_spells {s : List Char} {parts : List StringPart} (h : SpellsParts s parts)
    (rest : List Char) : skipString (s ++ '"' :: rest) = .ok rest := by
  induction h with
  | nil => exact skipString_quote rest
  | cons hs _ ih =>
    cases hs with
    | plain hquote hbackslash hcontrol =>
      rw [List.singleton_append, List.cons_append, skipString_plain hquote hbackslash hcontrol, ih]
    | escape he =>
      rw [List.cons_append, List.singleton_append, List.cons_append, List.cons_append,
        skipString_escape he, ih]
    | unit hx =>
      simp only [List.cons_append, List.nil_append]
      rw [skipString_unit hx, ih]

/-! ## Numbers -/

/-- A text that no number goes on with: it ends, or a blank or a mark between tokens follows. -/
def Ends (s : List Char) : Prop :=
  ∀ c ∈ s.head?, isBlank c = true ∨ c = ',' ∨ c = ']' ∨ c = '\x7d'

/-- A text that does not begin with a digit. -/
def NoDigit (s : List Char) : Prop := ∀ c ∈ s.head?, isDigit c = false

theorem isDigit_eq_false_of_ends {s : List Char} (h : Ends s) {c : Char} (hc : c ∈ s.head?) :
    isDigit c = false ∧ c ≠ '.' ∧ c ≠ 'e' ∧ c ≠ 'E' := by
  obtain hblank | rfl | rfl | rfl := h c hc
  · simp only [isBlank, Bool.or_eq_true, beq_iff_eq] at hblank
    obtain ((rfl | rfl) | rfl) | rfl := hblank <;> decide
  all_goals decide

theorem Ends.noDigit {s : List Char} (h : Ends s) : NoDigit s :=
  fun _ hc ↦ (isDigit_eq_false_of_ends h hc).1

theorem spanDigits_append {digits : List Char} (hdigits : ∀ c ∈ digits, isDigit c = true)
    {s : List Char} (hs : NoDigit s) : spanDigits (digits ++ s) = (digits, s) := by
  rw [spanDigits, List.takeWhile_append_of_pos hdigits, List.dropWhile_append_of_pos hdigits]
  cases s with
  | nil => simp
  | cons c s =>
    have hc : ¬isDigit c = true := by rw [hs c rfl]; exact Bool.false_ne_true
    rw [List.takeWhile_cons_of_neg hc, List.dropWhile_cons_of_neg hc, List.append_nil]

theorem readWhole_spells (atEnd : Fault) {whole : List Char} (h : IsWhole whole) {s : List Char}
    (hs : NoDigit s) : readWhole atEnd (whole ++ s) = .ok (whole, s) := by
  obtain rfl | ⟨⟨hne, hdigits⟩, hzero⟩ := h
  · cases s with
    | nil => rfl
    | cons c s =>
      rw [List.singleton_append, readWhole, hs c rfl]
      rfl
  · obtain ⟨c, rest, rfl⟩ := List.exists_cons_of_ne_nil hne
    have hc : c ≠ '0' := fun heq ↦ hzero (congrArg some heq)
    rw [List.cons_append, readWhole, ← List.cons_append, spanDigits_append hdigits hs]
    rintro t ⟨⟩
    exact hc rfl

theorem readFraction_spells (atEnd : Fault) {fraction : List Char} {f : Option (List Char)}
    (h : SpellsFraction fraction f) {s : List Char} (hs : NoDigit s) (hdot : '.' ∉ s.head?) :
    readFraction atEnd (fraction ++ s) = .ok (f, s) := by
  cases h with
  | none =>
    rw [List.nil_append, readFraction]
    rintro t rfl
    exact hdot rfl
  | some h =>
    obtain ⟨c, rest, hcons⟩ := List.exists_cons_of_ne_nil h.1
    rw [List.cons_append, readFraction, spanDigits_append h.2 hs, hcons]

theorem exponentSign_spells {sign : List Char} {negative : Bool} (h : SpellsSign sign negative)
    {s : List Char} (hs : ∃ c t, s = c :: t ∧ isDigit c = true) :
    exponentSign (sign ++ s) = (negative, s) := by
  obtain ⟨c, t, rfl, hc⟩ := hs
  cases h with
  | none =>
    rw [List.nil_append, exponentSign]
    · rintro u ⟨⟩
      cases hc
    · rintro u ⟨⟩
      cases hc
  | plus => rfl
  | minus => rfl

theorem readExponent_spells (atEnd : Fault) {exponent : List Char}
    {e : Option (Bool × List Char)} (h : SpellsExponent exponent e) {s : List Char}
    (hs : Ends s) : readExponent atEnd (exponent ++ s) = .ok (e, s) := by
  cases h with
  | none =>
    cases s with
    | nil => rfl
    | cons c s =>
      obtain ⟨-, -, he, hE⟩ := isDigit_eq_false_of_ends hs rfl
      rw [List.nil_append, readExponent, if_neg (not_or.mpr ⟨he, hE⟩)]
  | @some mark sign digits negative hmark hsign h =>
    obtain ⟨c, rest, hcons⟩ := List.exists_cons_of_ne_nil h.1
    have hdigit : ∃ c t, digits ++ s = c :: t ∧ isDigit c = true :=
      ⟨c, rest ++ s, by rw [hcons]; rfl, h.2 c (by rw [hcons]; exact List.mem_cons_self)⟩
    rw [List.cons_append, readExponent, if_pos hmark, List.append_assoc,
      exponentSign_spells hsign hdigit]
    dsimp only
    rw [spanDigits_append h.2 hs.noDigit, hcons]

/-- **A number is read up to its end**, whether it is wanted or passed over. -/
theorem readNumberText_spells (atEnd : Fault) {s : List Char} {t : NumberText}
    (h : SpellsNumber s t) {rest : List Char} (hrest : Ends rest) :
    readNumberText atEnd (s ++ rest) = .ok (t, rest) := by
  obtain ⟨hwhole, hfraction, hexponent⟩ := h
  rename_i whole fraction exponent f e
  have hexponent' : NoDigit (exponent ++ rest) ∧ '.' ∉ (exponent ++ rest).head? := by
    cases hexponent with
    | none => exact ⟨hrest.noDigit, fun hdot ↦ (isDigit_eq_false_of_ends hrest hdot).2.1 rfl⟩
    | some hmark =>
      obtain rfl | rfl := hmark
      · exact ⟨by rintro _ ⟨⟩; decide, by rintro ⟨⟩⟩
      · exact ⟨by rintro _ ⟨⟩; decide, by rintro ⟨⟩⟩
  have hfraction' : NoDigit (fraction ++ (exponent ++ rest)) := by
    cases hfraction with
    | none => exact hexponent'.1
    | some h => rintro _ ⟨⟩; decide
  rw [List.append_assoc, List.append_assoc]
  simp only [readNumberText, readWhole_spells atEnd hwhole hfraction',
    readFraction_spells atEnd hfraction hexponent'.1 hexponent'.2,
    readExponent_spells atEnd hexponent hrest, bind, Except.bind, pure, Except.pure]

end CodeHints.Json
