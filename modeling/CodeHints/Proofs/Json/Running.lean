import CodeHints.Json.Reader
import CodeHints.Proofs.Json.Tokens

/-!
# Readers without their faults

Which fault a reader stops at matters little for what it makes of a text. `Reader.run?` forgets the
fault: a bind of readers becomes a bind of options, and a reader is followed step by step by
rewriting with what each step makes of the characters in front of it.

`Reader.Ensures` is for the rest: a property that every answer of a reader has, on any text.
-/

namespace CodeHints.Json

namespace Reader

/-! ## Runs -/

section Run

variable {α β : Type}

/-- What a reader makes of a text, and what it leaves. -/
def run? (r : Reader α) (s : List Char) : Option (α × List Char) := (r s).toOption

theorem toOption_eq_some_iff {x : Except Fault α} {a : α} : x.toOption = some a ↔ x = .ok a := by
  cases x with
  | ok b => exact ⟨fun h ↦ congrArg _ (Option.some.inj h), fun h ↦ congrArg _ (Except.ok.inj h)⟩
  | error fault => exact ⟨nofun, nofun⟩

theorem run?_of_ok {r : Reader α} {s t : List Char} {a : α} (h : r s = .ok (a, t)) :
    r.run? s = some (a, t) := by
  rw [run?, h]
  rfl

theorem run?_bind (r : Reader α) (f : α → Reader β) (s : List Char) :
    (r >>= f).run? s = (r.run? s).bind fun x ↦ (f x.1).run? x.2 := by
  change ((r s).bind fun x ↦ f x.1 x.2).toOption = (r s).toOption.bind fun x ↦ (f x.1 x.2).toOption
  cases r s <;> rfl

theorem run?_bind_of_eq_some {r : Reader α} {s t : List Char} {a : α} (h : r.run? s = some (a, t))
    (f : α → Reader β) : (r >>= f).run? s = (f a).run? t := by
  rw [run?_bind, h]
  rfl

theorem run?_bind_of_eq_map {r : Reader α} {s t : List Char} {value : Option α}
    (h : r.run? s = value.map (·, t)) (f : α → Reader β) :
    (r >>= f).run? s = value.bind fun a ↦ (f a).run? t := by
  rw [run?_bind, h]
  cases value <;> rfl

theorem run?_map (f : α → β) (r : Reader α) (s : List Char) :
    (f <$> r).run? s = (r.run? s).map fun x ↦ (f x.1, x.2) := by
  rw [map_eq_pure_bind, run?_bind]
  cases r.run? s <;> rfl

@[simp] theorem run?_liftM (x : Except Fault α) (s : List Char) :
    (liftM x : Reader α).run? s = x.toOption.map (·, s) := by
  cases x <;> rfl

@[simp] theorem run?_eat (c : Char) (s : List Char) : eat.run? (c :: s) = some ((), s) := rfl

@[simp] theorem run?_get (s : List Char) : (get : Reader (List Char)).run? s = some (s, s) := rfl

theorem run?_descend {depth : Nat} (h : 2 ≤ depth) (s : List Char) :
    (descend depth).run? s = some (depth - 1, s) := by
  rw [descend, if_neg (by omega)]
  rfl

theorem run?_peek {a : List Char} (ha : IsBlanks a) {c : Char} (hc : isBlank c = false)
    (s : List Char) : peek.run? (a ++ c :: s) = some (some c, c :: s) := by
  rw [run?, peek, skipBlanks_append ha, skipBlanks_cons hc]
  rfl

theorem run?_refuse (expected : String) (s : List Char) :
    (refuse expected : Reader α).run? s = none := by
  rw [refuse, run?_bind]
  cases found.run? s <;> rfl

end Run

/-! ## Documents -/

theorem toOption_readDocument {α : Type} (r : Reader α) (text : String) :
    (readDocument r text).toOption =
      (r.run? text.toList).bind fun x ↦ if skipBlanks x.2 = [] then some x.1 else none := by
  rw [readDocument, run?]
  cases r text.toList with
  | error fault => rfl
  | ok x =>
    simp only [bind, Except.bind, Except.toOption, Option.bind]
    cases skipBlanks x.2 <;> rfl

/-! ## What holds of every answer -/

/-- Every answer of a reader satisfies a predicate, whatever the text. -/
def Ensures {α : Type} (r : Reader α) (P : α → Prop) : Prop :=
  ∀ s a t, r.run? s = some (a, t) → P a

section Ensures

variable {α β : Type} {P : α → Prop} {Q : β → Prop}

theorem Ensures.pure {a : α} (h : P a) : Ensures (Pure.pure a) P := by
  rintro s _ t ⟨⟩
  exact h

theorem Ensures.throw (fault : Fault) : Ensures (MonadExcept.throw fault : Reader α) P := nofun

theorem Ensures.bind {r : Reader α} {f : α → Reader β} (hr : Ensures r P)
    (hf : ∀ a, P a → Ensures (f a) Q) : Ensures (r >>= f) Q := by
  intro s b t h
  rw [run?_bind, Option.bind_eq_some_iff] at h
  obtain ⟨⟨a, u⟩, ha, hb⟩ := h
  exact hf a (hr s a u ha) u b t hb

theorem Ensures.map {r : Reader α} {f : α → β} (hr : Ensures r P) (hf : ∀ a, P a → Q (f a)) :
    Ensures (f <$> r) Q := by
  rw [map_eq_pure_bind]
  exact hr.bind fun a ha ↦ .pure (hf a ha)

theorem Ensures.trivial (r : Reader α) : Ensures r fun _ ↦ True := fun _ _ _ _ ↦ True.intro

theorem Ensures.last (r : Reader α) {f : α → Reader β} (hf : ∀ a, Ensures (f a) Q) :
    Ensures (r >>= f) Q :=
  (Ensures.trivial r).bind fun a _ ↦ hf a

theorem Ensures.lift {x : Except Fault α} (h : ∀ a, x = .ok a → P a) :
    Ensures (liftM x : Reader α) P := by
  intro s a t hrun
  rw [run?_liftM] at hrun
  cases x with
  | ok b =>
    cases hrun
    exact h a rfl
  | error fault => cases hrun

theorem Ensures.document {r : Reader α} (hr : Ensures r P) {text : String} {a : α}
    (h : readDocument r text = .ok a) : P a := by
  have hdocument := toOption_readDocument r text
  rw [h, eq_comm] at hdocument
  obtain ⟨⟨b, rest⟩, hrun, hend⟩ := Option.bind_eq_some_iff.mp hdocument
  dsimp only at hend
  split at hend
  · cases hend
    exact hr _ _ _ hrun
  · cases hend

theorem run?_bind_eq_none {r : Reader α} {f : α → Reader β} (hr : Ensures r P)
    (hf : ∀ a s, P a → (f a).run? s = none) (s : List Char) : (r >>= f).run? s = none := by
  rw [run?_bind, Option.bind_eq_none_iff]
  exact fun x hx ↦ hf x.1 x.2 (hr s x.1 x.2 hx)

end Ensures

end Reader

end CodeHints.Json
