import CodeHints.Json.Reader
import CodeHints.Proofs.Json.Tokens

/-!
# What is not wanted is passed over

A value that nobody wants is passed over up to its end, whatever it is: nested to any depth, with
numbers of any size, and with strings that are no texts. Passing over is one loop for elements and
one for members, and each starts in the middle of a rule of the grammar. `passItems` and
`passMembers` put the beginning back, so the induction follows the grammar (`Spells.passes`).

No more steps are needed than the value has characters.
-/

namespace CodeHints.Json

/-! ## What follows a value -/

theorem Ends.cons {c : Char} (h : isBlank c = true ∨ c = ',' ∨ c = ']' ∨ c = '\x7d')
    (s : List Char) : Ends (c :: s) := by
  rintro _ ⟨⟩
  exact h

theorem Ends.of_isBlanks {a s : List Char} (ha : IsBlanks a) (hs : Ends s) : Ends (a ++ s) := by
  cases a with
  | nil => exact hs
  | cons c a => exact .cons (.inl (ha c List.mem_cons_self)) _

theorem Leads.ends {l s : List Char} (h : Leads false l) : Ends (l ++ s) := by
  cases h with
  | later ha hb =>
    rw [List.append_assoc]
    exact .of_isBlanks ha (.cons (.inr (.inl rfl)) _)

theorem Spells.ends_items {s : List Char} {vs : List Written} (h : Spells s (.items false vs))
    (rest : List Char) : Ends (s ++ ']' :: rest) := by
  cases h with
  | noItems ha => exact .of_isBlanks ha (.cons (.inr (.inr (.inl rfl))) _)
  | item hl _ _ =>
    rw [List.append_assoc]
    exact hl.ends

theorem Spells.ends_members {s : List Char} {ms : List (List StringPart × Written)}
    (h : Spells s (.members false ms)) (rest : List Char) : Ends (s ++ '\x7d' :: rest) := by
  cases h with
  | noMembers ha => exact .of_isBlanks ha (.cons (.inr (.inr (.inr rfl))) _)
  | member hl _ _ _ _ _ =>
    rw [List.append_assoc]
    exact hl.ends

theorem Spells.length_pos {s : List Char} {v : Written} (h : Spells s (.value v)) :
    0 < s.length := by
  obtain ⟨c, rest, rfl, -⟩ := h.begins
  exact Nat.succ_pos _

namespace Reader

/-! ## The two loops -/

/-- Pass over the elements of a list up to its end. -/
def passItems (fuel : Nat) (first : Bool) (s : List Char) : Except Fault (List Char) :=
  if first then
    match skipBlanks s with
    | [] => .error .endInList
    | ']' :: rest => .ok rest
    | s => do skipItems fuel (← skipWithin fuel s)
  else skipItems (fuel + 1) s

/-- Pass over the members of an object up to its end. -/
def passMembers (fuel : Nat) (first : Bool) (s : List Char) : Except Fault (List Char) :=
  if first then
    match skipBlanks s with
    | [] => .error .endInObject
    | '\x7d' :: rest => .ok rest
    | s => skipMember fuel s
  else
    match skipBlanks s with
    | [] => .error .endInObject
    | '\x7d' :: rest => .ok rest
    | ',' :: rest => skipMember fuel rest
    | _ :: _ => .error .expectedObjectCommaOrEnd

section Equations

variable (fuel : Nat) {a : List Char} (ha : IsBlanks a) (s : List Char)
include ha

theorem skipWithin_append : skipWithin (fuel + 1) (a ++ s) = skipWithin (fuel + 1) s := by
  rw [skipWithin, skipBlanks_append ha, skipWithin]

theorem skipWithin_null : skipWithin (fuel + 1) (a ++ 'n' :: s) = readIdent "ull".toList s := by
  rw [skipWithin_append fuel ha]
  rfl

theorem skipWithin_true : skipWithin (fuel + 1) (a ++ 't' :: s) = readIdent "rue".toList s := by
  rw [skipWithin_append fuel ha]
  rfl

theorem skipWithin_false : skipWithin (fuel + 1) (a ++ 'f' :: s) = readIdent "alse".toList s := by
  rw [skipWithin_append fuel ha]
  rfl

theorem skipWithin_string : skipWithin (fuel + 1) (a ++ '"' :: s) = skipString s := by
  rw [skipWithin_append fuel ha]
  rfl

theorem skipWithin_negative : skipWithin (fuel + 1) (a ++ '-' :: s) = skipNumber s := by
  rw [skipWithin_append fuel ha]
  rfl

theorem skipWithin_array : skipWithin (fuel + 1) (a ++ '[' :: s) = passItems fuel true s := by
  rw [skipWithin_append fuel ha]
  rfl

theorem skipWithin_object :
    skipWithin (fuel + 1) (a ++ '\x7b' :: s) = passMembers fuel true s := by
  rw [skipWithin_append fuel ha]
  rfl

theorem skipWithin_digit {c : Char} (hc : isDigit c = true) :
    skipWithin (fuel + 1) (a ++ c :: s) = skipNumber (c :: s) := by
  rw [skipWithin_append fuel ha, skipWithin, skipBlanks_cons (isBlank_of_isDigit hc)]
  split
  case h_9 => simp_all
  all_goals simp_all [isDigit]

end Equations

/-! ## One step of each loop -/

theorem passItems_end (fuel : Nat) (first : Bool) {a : List Char} (ha : IsBlanks a)
    (rest : List Char) : passItems fuel first (a ++ ']' :: rest) = .ok rest := by
  cases first with
  | true =>
    rw [passItems, if_pos rfl, skipBlanks_append ha, skipBlanks_cons (by decide)]
    rfl
  | false =>
    rw [passItems, if_neg (by decide), skipItems, skipBlanks_append ha, skipBlanks_cons (by decide)]
    rfl

theorem passItems_item (fuel : Nat) {first : Bool} {l s : List Char} {v : Written}
    (hl : Leads first l) (hs : Spells s (.value v)) (rest : List Char) :
    ∃ a, IsBlanks a ∧ passItems fuel first (l ++ (s ++ rest)) =
      (skipWithin fuel (a ++ (s ++ rest))).bind (skipItems fuel) := by
  obtain ⟨c, t, rfl, hc⟩ := hs.begins
  cases hl with
  | first ha =>
    refine ⟨[], by rintro _ ⟨⟩, ?_⟩
    have hblank : isBlank c = false := hc.isBlank
    rw [passItems, if_pos rfl, skipBlanks_append ha, List.cons_append, skipBlanks_cons hblank]
    split
    · next heq => cases heq
    · next heq => exact absurd (List.cons.inj heq).1 (hc.ne (by decide))
    · rfl
  | later ha hb =>
    refine ⟨_, hb, ?_⟩
    rw [passItems, if_neg (by decide), skipItems, List.append_assoc, skipBlanks_append ha,
      List.cons_append, skipBlanks_cons (by decide)]
    rfl

theorem passMembers_end (fuel : Nat) (first : Bool) {a : List Char} (ha : IsBlanks a)
    (rest : List Char) : passMembers fuel first (a ++ '\x7d' :: rest) = .ok rest := by
  cases first with
  | true =>
    rw [passMembers, if_pos rfl, skipBlanks_append ha, skipBlanks_cons (by decide)]
    rfl
  | false =>
    rw [passMembers, if_neg (by decide), skipBlanks_append ha, skipBlanks_cons (by decide)]
    rfl

theorem passMembers_leads (fuel : Nat) {first : Bool} {l : List Char} (hl : Leads first l)
    (rest : List Char) :
    ∃ a, IsBlanks a ∧ passMembers fuel first (l ++ '"' :: rest) =
      skipMember fuel (a ++ '"' :: rest) := by
  cases hl with
  | first ha =>
    refine ⟨[], by rintro _ ⟨⟩, ?_⟩
    rw [passMembers, if_pos rfl, skipBlanks_append ha, skipBlanks_cons (by decide)]
    rfl
  | later ha hb =>
    refine ⟨_, hb, ?_⟩
    rw [passMembers, if_neg (by decide), List.append_assoc, skipBlanks_append ha,
      List.cons_append, skipBlanks_cons (by decide)]
    rfl

theorem skipMember_member (fuel : Nat) {a b c n : List Char} {name : List StringPart}
    (ha : IsBlanks a) (hb : IsBlanks b) (hn : SpellsParts n name) (rest : List Char) :
    skipMember (fuel + 1) (a ++ '"' :: (n ++ '"' :: (b ++ ':' :: (c ++ rest)))) =
      (skipWithin fuel (c ++ rest)).bind (passMembers fuel false) := by
  have hcolon : skipBlanks (b ++ ':' :: (c ++ rest)) = ':' :: (c ++ rest) := by
    rw [skipBlanks_append hb, skipBlanks_cons (by decide)]
  rw [skipMember, skipBlanks_append ha, skipBlanks_cons (by decide)]
  simp only [bind, skipString_spells hn, Except.bind, hcolon]
  rfl

/-! ## Every value -/

/-- What is passed over, for each kind of phrase. -/
def Passes (s : List Char) : Phrase → Prop
  | .value _ => ∀ fuel a rest, s.length ≤ fuel → IsBlanks a → Ends rest →
    skipWithin fuel (a ++ (s ++ rest)) = .ok rest
  | .items first _ => ∀ fuel rest, s.length ≤ fuel →
    passItems fuel first (s ++ ']' :: rest) = .ok rest
  | .members first _ => ∀ fuel rest, s.length ≤ fuel →
    passMembers fuel first (s ++ '\x7d' :: rest) = .ok rest

theorem skipNumber_spells {s : List Char} {t : NumberText} (h : SpellsNumber s t)
    {rest : List Char} (hrest : Ends rest) : skipNumber (s ++ rest) = .ok rest := by
  rw [skipNumber, readNumberText_spells _ h hrest]
  rfl

/-- A value takes a step, so there is one to take. -/
theorem passes_value {s : List Char} {v : Written} (hpos : 0 < s.length)
    (h : ∀ fuel a rest, s.length ≤ fuel + 1 → IsBlanks a → Ends rest →
      skipWithin (fuel + 1) (a ++ (s ++ rest)) = .ok rest) : Passes s (.value v) := by
  intro fuel a rest hfuel ha hrest
  cases fuel with
  | zero => omega
  | succ fuel => exact h fuel a rest hfuel ha hrest

/-- **Every value is passed over up to its end.** -/
theorem passes_of_spells {s : List Char} {phrase : Phrase} (h : Spells s phrase) :
    Passes s phrase := by
  induction h with
  | null => exact passes_value (Nat.succ_pos _) fun fuel _ _ _ ha _ ↦ skipWithin_null fuel ha _
  | isTrue => exact passes_value (Nat.succ_pos _) fun fuel _ _ _ ha _ ↦ skipWithin_true fuel ha _
  | isFalse => exact passes_value (Nat.succ_pos _) fun fuel _ _ _ ha _ ↦ skipWithin_false fuel ha _
  | natural h =>
    obtain ⟨c, t, rfl, hc⟩ := h.begins
    refine passes_value (Nat.succ_pos _) fun fuel a rest _ ha hrest ↦ ?_
    rw [List.cons_append, skipWithin_digit fuel ha _ hc, ← List.cons_append]
    exact skipNumber_spells h hrest
  | negative h =>
    refine passes_value (Nat.succ_pos _) fun fuel a rest _ ha hrest ↦ ?_
    rw [List.cons_append, skipWithin_negative fuel ha]
    exact skipNumber_spells h hrest
  | string h =>
    refine passes_value (Nat.succ_pos _) fun fuel a rest _ ha _ ↦ ?_
    rw [List.cons_append, skipWithin_string fuel ha, List.append_assoc]
    exact skipString_spells h rest
  | array h ih =>
    refine passes_value (Nat.succ_pos _) fun fuel a rest hfuel ha _ ↦ ?_
    rw [List.length_cons, List.length_append] at hfuel
    rw [List.cons_append, skipWithin_array fuel ha, List.append_assoc]
    exact ih fuel rest (by omega)
  | object h ih =>
    refine passes_value (Nat.succ_pos _) fun fuel a rest hfuel ha _ ↦ ?_
    rw [List.length_cons, List.length_append] at hfuel
    rw [List.cons_append, skipWithin_object fuel ha, List.append_assoc]
    exact ih fuel rest (by omega)
  | noItems h => exact fun fuel rest _ ↦ passItems_end fuel _ h rest
  | @item l s t first v vs hl hs ht ihs iht =>
    -- The element takes a step of its own, so there is one left for what follows it.
    intro fuel rest hfuel
    have hpos := hs.length_pos
    rw [List.length_append, List.length_append] at hfuel
    obtain ⟨a, ha, heq⟩ := passItems_item fuel hl hs (t ++ ']' :: rest)
    rw [List.append_assoc, List.append_assoc, heq,
      ihs fuel a (t ++ ']' :: rest) (by omega) ha (ht.ends_items rest)]
    cases fuel with
    | zero => omega
    | succ fuel => exact iht fuel rest (by omega)
  | noMembers h => exact fun fuel rest _ ↦ passMembers_end fuel _ h rest
  | @member l n a b s t first name v ms hl hn ha hb hs ht ihs iht =>
    intro fuel rest hfuel
    simp only [List.length_append, List.length_cons] at hfuel
    obtain ⟨c, hc, heq⟩ :=
      passMembers_leads fuel hl (n ++ '"' :: (a ++ ':' :: (b ++ (s ++ (t ++ '\x7d' :: rest)))))
    cases fuel with
    | zero => omega
    | succ fuel =>
      simp only [List.append_assoc, List.cons_append]
      rw [heq, skipMember_member fuel hc ha hn,
        ihs fuel b (t ++ '\x7d' :: rest) (by omega) hb (ht.ends_members rest)]
      exact iht fuel rest (by omega)

theorem skipValue_spells {a s rest : List Char} {v : Written} (ha : IsBlanks a)
    (hs : Spells s (.value v)) (hrest : Ends rest) :
    skipValue (a ++ (s ++ rest)) = .ok ((), rest) := by
  have hsteps : s.length ≤ stepsFor (a ++ (s ++ rest)) := by
    rw [stepsFor, List.length_append, List.length_append]
    omega
  rw [skipValue, passes_of_spells hs _ a rest hsteps ha hrest]
  rfl

end Reader

end CodeHints.Json
