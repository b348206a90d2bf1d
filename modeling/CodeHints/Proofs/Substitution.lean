import CodeHints.Variables
import Mathlib.Data.List.Infix

/-!
# Templates and what they stand for

A `Template` is a text that has been taken apart into literal characters, dollar signs and
references to variables. `Template.chars` puts it together again, and `Template.meaning` says what
it stands for without looking at any text. Substitution only ever sees the text, and finds the parts
by itself.

## When the parts can be found again

Not every template is read as it was written: a lone dollar sign in front of a letter begins a name.
`Template.IsReadable` lists what has to be avoided. Nearly all of it is about the first character of
what follows. The exception is a default, which ends at the brace that closes it. That brace is
found by counting, and counting knows nothing of literals and escapes, so the default has to be
`Balanced` as a text. Then its own parts do not matter, which is what lets defaults be nested to any
depth (`takeBraced_append`).

Main result: `substitute_text`.
-/

namespace CodeHints

/-- A template by its parts. -/
inductive Template where
  | done
  /-- A character that stands for itself. -/
  | literal (c : Char) (rest : Template)
  /-- A dollar sign behind a backslash. -/
  | escaped (rest : Template)
  /-- A dollar sign that begins nothing. -/
  | lone (rest : Template)
  /-- A reference without braces. -/
  | plain (name : String) (rest : Template)
  /-- A reference in braces. -/
  | braced (name : String) (rest : Template)
  /-- A reference in braces with a default. -/
  | fallback (name : String) (default rest : Template)

namespace Template

def chars : Template → List Char
  | done => []
  | literal c rest => c :: rest.chars
  | escaped rest => '\\' :: '$' :: rest.chars
  | lone rest => '$' :: rest.chars
  | plain name rest => '$' :: (name.toList ++ rest.chars)
  | braced name rest => '$' :: '\x7b' :: (name.toList ++ '\x7d' :: rest.chars)
  | fallback name default rest =>
    '$' :: '\x7b' :: (name.toList ++ ':' :: default.chars ++ '\x7d' :: rest.chars)

def text (t : Template) : String := String.ofList t.chars

/-- What a template stands for. Values are taken as they are. -/
def meaning (vars : Variables) : Template → String
  | done => ""
  | literal c rest => String.singleton c ++ rest.meaning vars
  | escaped rest | lone rest => "$" ++ rest.meaning vars
  | plain name rest | braced name rest => (vars.get? name).getD "" ++ rest.meaning vars
  | fallback name default rest =>
    (vars.get? name).getD (default.meaning vars) ++ rest.meaning vars

/-! ## Readable templates -/

/-- There are as many closing as opening braces, and none closes before it was opened. -/
def Balanced (s : List Char) : Prop :=
  s.count '\x7d' = s.count '\x7b' ∧ ∀ p ∈ s.inits, p.count '\x7d' ≤ p.count '\x7b'

instance (s : List Char) : Decidable (Balanced s) := inferInstanceAs (Decidable (_ ∧ _))

/-- What the first character of a text is not, if there is one. -/
def StartsWithout (s : List Char) (p : Char → Bool) : Prop := ∀ c ∈ s.head?, p c = false

instance (s : List Char) (p : Char → Bool) : Decidable (StartsWithout s p) :=
  decidable_of_iff (s.head?.all (fun c ↦ !p c) = true) (by simp [StartsWithout, Option.all_eq_true])

/-- A name that can stand in braces. -/
def IsBracedName (name : String) : Prop := ∀ c ∈ name.toList, c ≠ ':' ∧ c ≠ '\x7b' ∧ c ≠ '\x7d'

instance (name : String) : Decidable (IsBracedName name) := List.decidableBAll _ _

/-- The parts of a template cannot be mistaken for others. -/
def IsReadable : Template → Prop
  | done => True
  | literal c rest =>
    c ≠ '$' ∧ (c = '\\' → StartsWithout rest.chars (· == '$')) ∧ rest.IsReadable
  | escaped rest => rest.IsReadable
  | lone rest =>
    StartsWithout rest.chars (fun c ↦ c == '\x7b' || Variables.isNameChar c) ∧ rest.IsReadable
  | plain name rest =>
    name ≠ "" ∧ (∀ c ∈ name.toList, Variables.isNameChar c = true) ∧
      StartsWithout rest.chars Variables.isNameChar ∧ rest.IsReadable
  | braced name rest => IsBracedName name ∧ rest.IsReadable
  | fallback name default rest =>
    IsBracedName name ∧ Balanced default.chars ∧ default.IsReadable ∧ rest.IsReadable

instance decidableIsReadable : (t : Template) → Decidable t.IsReadable
  | done => .isTrue trivial
  | literal _ rest =>
    have := rest.decidableIsReadable
    inferInstanceAs (Decidable (_ ∧ _ ∧ _))
  | escaped rest => rest.decidableIsReadable
  | lone rest =>
    have := rest.decidableIsReadable
    inferInstanceAs (Decidable (_ ∧ _))
  | plain name rest =>
    have : Decidable (∀ c ∈ name.toList, Variables.isNameChar c = true) := List.decidableBAll _ _
    have := rest.decidableIsReadable
    inferInstanceAs (Decidable (_ ∧ _ ∧ _ ∧ _))
  | braced _ rest =>
    have := rest.decidableIsReadable
    inferInstanceAs (Decidable (_ ∧ _))
  | fallback _ default rest =>
    have := default.decidableIsReadable
    have := rest.decidableIsReadable
    inferInstanceAs (Decidable (_ ∧ _ ∧ _ ∧ _))

end Template

namespace Variables

open Template (Balanced StartsWithout IsBracedName)

/-! ## Finding the closing brace -/

theorem takeBraced_closing (depth : Nat) (s : List Char) :
    takeBraced (depth + 1) ('\x7d' :: s) =
      ('\x7d' :: (takeBraced depth s).1, (takeBraced depth s).2) := rfl

theorem takeBraced_other (depth : Nat) {c : Char} (h : c ≠ '\x7d') (s : List Char) :
    takeBraced depth (c :: s) =
      (c :: (takeBraced (if c = '\x7b' then depth + 1 else depth) s).1,
        (takeBraced (if c = '\x7b' then depth + 1 else depth) s).2) := by
  rw [takeBraced.eq_def]
  exact if_neg h

/-- As long as a text closes no brace from outside, reading up to the closing brace goes on behind
it, with as many braces open as it leaves. -/
theorem takeBraced_append (depth : Nat) (s rest : List Char)
    (h : ∀ p, p <+: s → p.count '\x7d' ≤ depth + p.count '\x7b') :
    takeBraced depth (s ++ rest) =
      (s ++ (takeBraced (depth + s.count '\x7b' - s.count '\x7d') rest).1,
        (takeBraced (depth + s.count '\x7b' - s.count '\x7d') rest).2) := by
  induction s generalizing depth with
  | nil => simp
  | cons c s ih =>
    have htail (p : List Char) (hp : p <+: s) :
        (c :: p).count '\x7d' ≤ depth + (c :: p).count '\x7b' :=
      h (c :: p) (List.cons_prefix_cons.mpr ⟨rfl, hp⟩)
    rw [List.cons_append]
    by_cases hclose : c = '\x7d'
    · subst hclose
      cases depth with
      | zero => simpa using htail [] List.nil_prefix
      | succ depth =>
        have hstep := ih depth fun p hp ↦ by
          have := htail p hp
          simp at this
          omega
        have hdepth : depth + 1 + ('\x7d' :: s).count '\x7b' - ('\x7d' :: s).count '\x7d' =
            depth + s.count '\x7b' - s.count '\x7d' := by
          simp
          omega
        rw [takeBraced_closing, hstep, hdepth, List.cons_append]
    · have hopen (p : List Char) : depth + (c :: p).count '\x7b' =
          (if c = '\x7b' then depth + 1 else depth) + p.count '\x7b' := by
        rw [List.count_cons]
        simp only [beq_iff_eq]
        split <;> omega
      have hsame (p : List Char) : (c :: p).count '\x7d' = p.count '\x7d' :=
        List.count_cons_of_ne hclose
      have hstep := ih (if c = '\x7b' then depth + 1 else depth) fun p hp ↦ by
        rw [← hopen, ← hsame]
        exact htail p hp
      rw [takeBraced_other depth hclose, hstep, hopen, hsame, List.cons_append]

/-- The brace behind a name and a balanced text is the one that closes. -/
theorem takeBraced_of_balanced {s : List Char} (h : Balanced s) (rest : List Char) :
    takeBraced 0 (s ++ '\x7d' :: rest) = (s, rest) := by
  have hprefix (p : List Char) (hp : p <+: s) : p.count '\x7d' ≤ 0 + p.count '\x7b' := by
    rw [Nat.zero_add]
    exact h.2 p ((List.mem_inits p s).mpr hp)
  rw [takeBraced_append 0 s _ hprefix, h.1]
  simp [takeBraced]

theorem takeBraced_of_no_braces (depth : Nat) {s : List Char}
    (h : ∀ c ∈ s, c ≠ '\x7b' ∧ c ≠ '\x7d') (rest : List Char) :
    takeBraced depth (s ++ rest) = (s ++ (takeBraced depth rest).1, (takeBraced depth rest).2) := by
  have hopening : s.count '\x7b' = 0 := List.count_eq_zero.mpr fun hmem ↦ (h _ hmem).1 rfl
  have hclosing {p : List Char} (hp : p <+: s) : p.count '\x7d' = 0 :=
    List.count_eq_zero.mpr fun hmem ↦ (h _ (hp.subset hmem)).2 rfl
  rw [takeBraced_append depth s rest fun p hp ↦ by rw [hclosing hp]; exact Nat.zero_le _,
    hopening, hclosing (List.prefix_refl s)]
  rfl

theorem takeBraced_name {name : String} (h : IsBracedName name) (rest : List Char) :
    takeBraced 0 (name.toList ++ '\x7d' :: rest) = (name.toList, rest) := by
  rw [takeBraced_of_no_braces 0 fun c hc ↦ (h c hc).2]
  simp [takeBraced]

theorem takeBraced_fallback {name : String} (hname : IsBracedName name) {default : List Char}
    (hdefault : Balanced default) (rest : List Char) :
    takeBraced 0 (name.toList ++ ':' :: default ++ '\x7d' :: rest) =
      (name.toList ++ ':' :: default, rest) := by
  rw [List.append_assoc, takeBraced_of_no_braces 0 fun c hc ↦ (hname c hc).2, List.cons_append,
    takeBraced_other 0 (by decide), if_neg (by decide), takeBraced_of_balanced hdefault]

/-! ## Finding the colon -/

theorem splitColon?_of_not_mem {s : List Char} (h : ':' ∉ s) : splitColon? s = none := by
  induction s with
  | nil => rfl
  | cons c s ih =>
    obtain ⟨hc, hs⟩ := List.ne_and_not_mem_of_not_mem_cons h
    rw [splitColon?, if_neg (Ne.symm hc), ih hs, Option.map_none]

theorem splitColon?_append {before : List Char} (h : ':' ∉ before) (after : List Char) :
    splitColon? (before ++ ':' :: after) = some (before, after) := by
  induction before with
  | nil => simp [splitColon?]
  | cons c before ih =>
    obtain ⟨hc, hbefore⟩ := List.ne_and_not_mem_of_not_mem_cons h
    rw [List.cons_append, splitColon?, if_neg (Ne.symm hc), ih hbefore, Option.map_some]

/-! ## One part at a time -/

section Parts

variable (vars : Variables)

theorem expand_escaped (s : List Char) :
    vars.expand ('\\' :: '$' :: s) = '$' :: vars.expand s := by
  rw [expand]

/-- A character other than a dollar sign stands for itself, but for a backslash in front of a dollar
sign. -/
theorem expand_literal {c : Char} (hc : c ≠ '$') {s : List Char}
    (hs : c = '\\' → StartsWithout s (· == '$')) : vars.expand (c :: s) = c :: vars.expand s := by
  rw [expand]
  · rintro rest rfl rfl
    simpa using hs rfl '$' rfl
  · rintro rest rfl -
    exact hc rfl
  · rintro d rest rfl -
    exact hc rfl

theorem expand_lone {s : List Char}
    (hs : StartsWithout s fun c ↦ c == '\x7b' || isNameChar c) :
    vars.expand ('$' :: s) = '$' :: vars.expand s := by
  cases s with
  | nil => simp [expand]
  | cons c s =>
    obtain ⟨hbrace, hname⟩ := Bool.or_eq_false_iff.mp (hs c rfl)
    rw [expand, if_neg (by rw [hname]; exact Bool.false_ne_true)]
    rintro rfl
    cases hbrace

theorem expand_plain {name : String} (hne : name ≠ "")
    (hname : ∀ c ∈ name.toList, isNameChar c = true) {s : List Char}
    (hs : StartsWithout s isNameChar) :
    vars.expand ('$' :: (name.toList ++ s)) = vars.valueOf name.toList ++ vars.expand s := by
  cases hchars : name.toList with
  | nil => exact absurd (String.toList_eq_nil_iff.mp hchars) hne
  | cons c rest =>
    rw [hchars] at hname
    have hrest (d : Char) (hd : d ∈ rest) : isNameChar d = true :=
      hname d (List.mem_cons_of_mem c hd)
    have hbrace : c ≠ '\x7b' := by
      rintro rfl
      cases hname '\x7b' List.mem_cons_self
    have htake : (rest ++ s).takeWhile isNameChar = rest := by
      rw [List.takeWhile_append_of_pos hrest]
      cases s with
      | nil => simp
      | cons d s => rw [List.takeWhile_cons_of_neg (by simp [hs d rfl]), List.append_nil]
    have hdrop : (rest ++ s).dropWhile isNameChar = s := by
      rw [List.dropWhile_append_of_pos hrest]
      cases s with
      | nil => rfl
      | cons d s => rw [List.dropWhile_cons_of_neg (by simp [hs d rfl])]
    rw [List.cons_append, expand, if_pos (hname c List.mem_cons_self)]
    · simp only [htake, hdrop]
    · exact hbrace

theorem expand_braced {name : String} (hname : IsBracedName name) (s : List Char) :
    vars.expand ('$' :: '\x7b' :: (name.toList ++ '\x7d' :: s)) =
      vars.valueOf name.toList ++ vars.expand s := by
  have hcolon : ':' ∉ name.toList := fun hmem ↦ (hname ':' hmem).1 rfl
  rw [expand]
  simp only [takeBraced_name hname]
  split
  · next before after hsplit =>
    rw [takeBraced_name hname, splitColon?_of_not_mem hcolon] at hsplit
    cases hsplit
  · rfl

theorem expand_fallback {name : String} (hname : IsBracedName name) {default : List Char}
    (hdefault : Balanced default) (s : List Char) :
    vars.expand ('$' :: '\x7b' :: (name.toList ++ ':' :: default ++ '\x7d' :: s)) =
      ((vars.get? name).map String.toList).getD (vars.expand default) ++ vars.expand s := by
  have hcolon : ':' ∉ name.toList := fun hmem ↦ (hname ':' hmem).1 rfl
  rw [expand]
  simp only [takeBraced_fallback hname hdefault]
  split
  · next before after hsplit =>
    rw [takeBraced_fallback hname hdefault, splitColon?_append hcolon] at hsplit
    cases hsplit
    rw [String.ofList_toList]
    cases vars.get? name <;> rfl
  · next hsplit =>
    rw [takeBraced_fallback hname hdefault, splitColon?_append hcolon] at hsplit
    cases hsplit

end Parts

end Variables

/-! ## The whole -/

/-- The characters of a readable template expand to what it stands for. -/
theorem Template.expand_chars (vars : Variables) {t : Template} (h : t.IsReadable) :
    vars.expand t.chars = (t.meaning vars).toList := by
  induction t with
  | done => simp [chars, meaning, Variables.expand]
  | literal c rest ih =>
    obtain ⟨hc, hnext, hrest⟩ := h
    rw [chars, vars.expand_literal hc hnext, ih hrest, meaning, String.toList_append,
      String.toList_singleton, List.singleton_append]
  | escaped rest ih =>
    rw [chars, vars.expand_escaped, ih h, meaning, String.toList_append]
    rfl
  | lone rest ih =>
    rw [chars, vars.expand_lone h.1, ih h.2, meaning, String.toList_append]
    rfl
  | plain name rest ih =>
    obtain ⟨hne, hname, hnext, hrest⟩ := h
    rw [chars, vars.expand_plain hne hname hnext, ih hrest, meaning, String.toList_append,
      Variables.valueOf, String.ofList_toList]
  | braced name rest ih =>
    obtain ⟨hname, hrest⟩ := h
    rw [chars, vars.expand_braced hname, ih hrest, meaning, String.toList_append,
      Variables.valueOf, String.ofList_toList]
  | fallback name default rest ihdefault ih =>
    obtain ⟨hname, hbalanced, hdefault, hrest⟩ := h
    rw [chars, vars.expand_fallback hname hbalanced, ih hrest, ihdefault hdefault, meaning,
      String.toList_append]
    cases vars.get? name <;> rfl

/-- **Substitution finds the meaning of a template**: what the text of a readable template expands
to is what its parts stand for. -/
theorem Template.substitute_text (vars : Variables) {t : Template} (h : t.IsReadable) :
    vars.substitute t.text = t.meaning vars := by
  rw [Variables.substitute, text, String.toList_ofList, expand_chars vars h, String.ofList_toList]

/-- A template with a backslash in front of an escape, and with defaults inside each other. -/
def Template.nested : Template :=
  .literal '\\' <| .escaped <| .plain "a" <| .literal '/' <|
    .fallback "x" (.literal '\x7b' <| .fallback "y" (.lone .done) <| .literal '\x7d' .done) <|
    .lone .done

/-- A value is not expanded again, and braces in a default need not belong to a reference. -/
theorem Template.substitute_nested :
    nested.IsReadable ∧ nested.text = "\\\\$$a/$\x7bx:\x7b$\x7by:$\x7d\x7d\x7d$" ∧
      (Variables.ofList [("a", "$b")]).substitute nested.text = "\\$$b/\x7b$\x7d$" := by
  have hreadable : nested.IsReadable := by decide
  have htext := substitute_text (Variables.ofList [("a", "$b")]) hreadable
  exact ⟨hreadable, by decide, htext.trans (by decide)⟩

end CodeHints
