import CodeHints.Proofs.Json.Grammar
import Mathlib.Data.List.Forall2
import Mathlib.Data.List.Nodup

/-!
# Records mean their members

A record is made from an object in one pass, member after member, out of a state that starts with
the defaults (`Shape.record?`). What the pass comes to can be told without it, and without the order
of the members (`Shape.Describes`): every field is the value of the member with its name, or the
default if there is none.

A `Shape` says which fields a record has and how each is reached. Its laws are those of a lens for
every field, and that the fields are all there is to a record. With them the two accounts agree
(`Shape.record?_object_eq_some_iff`).
-/

namespace CodeHints.Json

/-- The fields of a record, and how their values are reached. -/
structure Shape (κ σ : Type) where
  /-- What a field holds. -/
  Value : κ → Type
  /-- The fields in the order of their declaration. -/
  keys : List κ
  /-- The name of a field in documents. -/
  name : κ → String
  get : σ → (k : κ) → Value k
  set : σ → (k : κ) → Value k → σ
  mem_keys : ∀ k, k ∈ keys
  nodup_keys : keys.Nodup
  name_injective : Function.Injective name
  get_set_self : ∀ s k x, get (set s k x) k = x
  get_set_of_ne : ∀ s {k j} x, j ≠ k → get (set s k x) j = get s j
  ext_get : ∀ {s t}, (∀ k, get s k = get t k) → s = t

/-- The values of the members with a given name. -/
def valuesOf (name : String) (ms : List (List StringPart × Written)) : List Written :=
  ms.filterMap fun m ↦ if textOf? m.1 = some name then some m.2 else none

/-- Every name is a text. -/
def HasNames (ms : List (List StringPart × Written)) : Prop := ∀ m ∈ ms, (textOf? m.1).isSome

instance : DecidablePred HasNames := fun ms ↦ inferInstanceAs (Decidable (∀ m ∈ ms, _))

section Values

variable {name : String} {parts : List StringPart} {v : Written}
  {ms : List (List StringPart × Written)}

theorem valuesOf_cons_of_eq (h : textOf? parts = some name) :
    valuesOf name ((parts, v) :: ms) = v :: valuesOf name ms := by
  rw [valuesOf, List.filterMap_cons, if_pos h]
  rfl

theorem valuesOf_cons_of_ne (h : textOf? parts ≠ some name) :
    valuesOf name ((parts, v) :: ms) = valuesOf name ms := by
  rw [valuesOf, List.filterMap_cons, if_neg h]
  rfl

theorem valuesOf_eq_nil (h : ∀ m ∈ ms, textOf? m.1 ≠ some name) : valuesOf name ms = [] :=
  List.filterMap_eq_nil_iff.mpr fun m hm ↦ if_neg (h m hm)

theorem hasNames_cons : HasNames ((parts, v) :: ms) ↔ (textOf? parts).isSome ∧ HasNames ms :=
  List.forall_mem_cons

end Values

namespace Shape

variable {κ σ : Type} (S : Shape κ σ)

def named? (name : String) : Option κ := S.keys.find? (S.name · == name)

theorem named?_name (k : κ) : S.named? (S.name k) = some k := by
  cases h : S.named? (S.name k) with
  | none =>
    have hno := List.find?_eq_none.mp h k (S.mem_keys k)
    exact absurd (beq_self_eq_true _) hno
  | some j =>
    have hname := List.find?_some h
    rw [S.name_injective (eq_of_beq hname)]

theorem named?_eq_some_iff {name : String} {k : κ} : S.named? name = some k ↔ S.name k = name := by
  constructor
  · intro h
    have hname := List.find?_some h
    exact eq_of_beq hname
  · rintro rfl
    exact S.named?_name k

/-! ## The order-free account -/

section Describes

variable (means : (k : κ) → Written → S.Value k → Prop)

/-- What the members of an object say about a record. A field without a member is as in `start`, and
`means` tells which values a member may hold and what they stand for. -/
structure Describes (start : σ) (ms : List (List StringPart × Written)) (s : σ) : Prop where
  names : HasNames ms
  once : ∀ k, (valuesOf (S.name k) ms).length ≤ 1
  missing : ∀ k, valuesOf (S.name k) ms = [] → S.get s k = S.get start k
  present : ∀ k, ∀ v ∈ valuesOf (S.name k) ms, means k v (S.get s k)

variable {S means} {start s : σ} {parts : List StringPart} {v : Written}
  {ms : List (List StringPart × Written)}

theorem describes_nil : S.Describes means start [] s ↔ s = start :=
  ⟨fun h ↦ S.ext_get fun k ↦ h.missing k rfl,
    fun h ↦ ⟨nofun, fun _ ↦ Nat.zero_le 1, fun _ _ ↦ h ▸ rfl, nofun⟩⟩

theorem describes_cons_of_unknown (hparts : (textOf? parts).isSome)
    (h : ∀ k, textOf? parts ≠ some (S.name k)) :
    S.Describes means start ((parts, v) :: ms) s ↔ S.Describes means start ms s := by
  have hvalues k : valuesOf (S.name k) ((parts, v) :: ms) = valuesOf (S.name k) ms :=
    valuesOf_cons_of_ne (h k)
  constructor
  · rintro ⟨hnames, honce, hmissing, hpresent⟩
    simp only [hvalues] at honce hmissing hpresent
    exact ⟨(hasNames_cons.mp hnames).2, honce, hmissing, hpresent⟩
  · rintro ⟨hnames, honce, hmissing, hpresent⟩
    simp only [← hvalues] at honce hmissing hpresent
    exact ⟨hasNames_cons.mpr ⟨hparts, hnames⟩, honce, hmissing, hpresent⟩

/-- The member of a field gives it its value, and no member behind it may do so again. -/
theorem describes_cons_of_known {k : κ} (h : textOf? parts = some (S.name k)) :
    S.Describes means start ((parts, v) :: ms) s ↔
      ∃ x, means k v x ∧ S.Describes means (S.set start k x) ms s ∧
        valuesOf (S.name k) ms = [] := by
  have hself : valuesOf (S.name k) ((parts, v) :: ms) = v :: valuesOf (S.name k) ms :=
    valuesOf_cons_of_eq h
  have hother {j : κ} (hj : j ≠ k) :
      valuesOf (S.name j) ((parts, v) :: ms) = valuesOf (S.name j) ms :=
    valuesOf_cons_of_ne fun heq ↦
      hj (S.name_injective (Option.some.inj (heq.symm.trans h)))
  constructor
  · intro hd
    have hnil : valuesOf (S.name k) ms = [] := by
      have hlength := hd.once k
      rw [hself, List.length_cons] at hlength
      exact List.eq_nil_of_length_eq_zero (by omega)
    refine ⟨S.get s k, hd.present k v (hself ▸ List.mem_cons_self),
      ⟨(hasNames_cons.mp hd.names).2, fun j ↦ ?_, fun j hj ↦ ?_, fun j w hw ↦ ?_⟩, hnil⟩
    -- Each law for the field of the member, and for the others.
    all_goals obtain rfl | hne := eq_or_ne j k
    · exact hnil ▸ Nat.zero_le 1
    · exact hother hne ▸ hd.once j
    · exact (S.get_set_self start j _).symm
    · exact (hd.missing j (hother hne ▸ hj)).trans (S.get_set_of_ne start _ hne).symm
    · exact absurd (hnil ▸ hw) List.not_mem_nil
    · exact hd.present j w (hother hne ▸ hw)
  · rintro ⟨x, hx, hd, hnil⟩
    have hget : S.get s k = x := (hd.missing k hnil).trans (S.get_set_self start k x)
    refine ⟨hasNames_cons.mpr ⟨h ▸ rfl, hd.names⟩, fun j ↦ ?_, fun j hj ↦ ?_, fun j w hw ↦ ?_⟩
    all_goals obtain rfl | hne := eq_or_ne j k
    · rw [hself, hnil]
      exact Nat.le_refl 1
    · exact hother hne ▸ hd.once j
    · exact absurd (hself ▸ hj) (List.cons_ne_nil _ _)
    · exact (hd.missing j (hother hne ▸ hj)).trans (S.get_set_of_ne start x hne)
    · rw [hself, hnil, List.mem_singleton] at hw
      exact hw ▸ hget ▸ hx
    · exact hd.present j w (hother hne ▸ hw)

/-- Members that are of use, with no field given twice, make up a record. -/
theorem exists_describes (hnames : HasNames ms) (honce : ∀ k, (valuesOf (S.name k) ms).length ≤ 1)
    (hmeans : ∀ k, ∀ v ∈ valuesOf (S.name k) ms, ∃ x, means k v x) :
    ∃ s, S.Describes means start ms s := by
  induction ms generalizing start with
  | nil => exact ⟨start, describes_nil.mpr rfl⟩
  | cons m ms ih =>
    obtain ⟨parts, v⟩ := m
    obtain ⟨hparts, hnames⟩ := hasNames_cons.mp hnames
    have hsub k : (valuesOf (S.name k) ms).Sublist (valuesOf (S.name k) ((parts, v) :: ms)) :=
      (List.sublist_cons_self _ _).filterMap _
    have htail (start : σ) : ∃ s, S.Describes means start ms s :=
      ih hnames (fun k ↦ Nat.le_trans (hsub k).length_le (honce k))
        fun k v hv ↦ hmeans k v ((hsub k).mem hv)
    by_cases hk : ∃ k, textOf? parts = some (S.name k)
    · obtain ⟨k, hk⟩ := hk
      have hself : valuesOf (S.name k) ((parts, v) :: ms) = v :: valuesOf (S.name k) ms :=
        valuesOf_cons_of_eq hk
      obtain ⟨x, hx⟩ := hmeans k v (hself ▸ List.mem_cons_self)
      obtain ⟨s, hs⟩ := htail (S.set start k x)
      have hlength := honce k
      rw [hself, List.length_cons] at hlength
      exact ⟨s, (describes_cons_of_known hk).mpr
        ⟨x, hx, hs, List.eq_nil_of_length_eq_zero (by omega)⟩⟩
    · obtain ⟨s, hs⟩ := htail start
      exact ⟨s, (describes_cons_of_unknown hparts (not_exists.mp hk)).mpr hs⟩

/-- A record depends on the members of its fields only, and on what these stand for. -/
theorem Describes.congr {means' : (k : κ) → Written → S.Value k → Prop}
    {ms' : List (List StringPart × Written)} (h : S.Describes means start ms s)
    (hnames : HasNames ms')
    (hvalues : ∀ k, List.Forall₂ (fun v v' ↦ ∀ x, means k v x → means' k v' x)
      (valuesOf (S.name k) ms) (valuesOf (S.name k) ms')) : S.Describes means' start ms' s where
  names := hnames
  once k := (hvalues k).length_eq ▸ h.once k
  missing k hnil := h.missing k <| List.forall₂_nil_right_iff.mp (hnil ▸ hvalues k)
  present k v hv := by
    obtain ⟨i, rfl⟩ := List.mem_iff_get.mp hv
    have hi : i < (valuesOf (S.name k) ms).length := (hvalues k).length_eq.symm ▸ i.isLt
    exact (hvalues k).get hi i.isLt _ (h.present k _ (List.get_mem _ ⟨i, hi⟩))

theorem describes_map {written : κ → Written} {parts : κ → List StringPart}
    (hparts : ∀ k, textOf? (parts k) = some (S.name k))
    (hmeans : ∀ k, means k (written k) (S.get s k)) :
    S.Describes means start (S.keys.map fun k ↦ (parts k, written k)) s := by
  have hnone {k : κ} {l : List κ} (hl : k ∉ l) :
      valuesOf (S.name k) (l.map fun j ↦ (parts j, written j)) = [] := by
    refine valuesOf_eq_nil fun m hm h ↦ hl ?_
    obtain ⟨j, hj, rfl⟩ := List.mem_map.mp hm
    rw [hparts] at h
    exact S.name_injective (Option.some.inj h) ▸ hj
  have hvalues k : valuesOf (S.name k) (S.keys.map fun j ↦ (parts j, written j)) = [written k] := by
    obtain ⟨before, behind, hkeys⟩ := List.append_of_mem (S.mem_keys k)
    have hnot := (List.nodup_cons.mp (List.nodup_middle.mp (hkeys ▸ S.nodup_keys))).1
    obtain ⟨hbefore, hbehind⟩ := not_or.mp (mt List.mem_append.mpr hnot)
    rw [hkeys, List.map_append, List.map_cons, valuesOf, List.filterMap_append, ← valuesOf,
      ← valuesOf, hnone hbefore, valuesOf_cons_of_eq (hparts k), hnone hbehind]
    rfl
  refine ⟨?_, fun k ↦ ?_, fun k hnil ↦ ?_, fun k v hv ↦ ?_⟩
  · intro m hm
    obtain ⟨k, -, rfl⟩ := List.mem_map.mp hm
    rw [hparts]
    rfl
  · rw [hvalues]
    exact Nat.le_refl 1
  · rw [hvalues] at hnil
    cases hnil
  · rw [hvalues, List.mem_singleton] at hv
    exact hv ▸ hmeans k

end Describes

/-! ## The pass over a document -/

section Pass

variable [DecidableEq κ] (value : (k : κ) → Written → Option (S.Value k))

/-- A record from the members of an object, of which those in `seen` have occurred. -/
def fromMembers : List κ → List (List StringPart × Written) → σ → Option σ
  | _, [], s => some s
  | seen, (parts, v) :: ms, s => do
    match S.named? (← textOf? parts) with
    | none => fromMembers seen ms s
    | some k => if k ∈ seen then none else fromMembers (k :: seen) ms (S.set s k (← value k v))

/-- A record from values in the order of some fields. -/
def fromItems : List κ → List Written → σ → Option σ
  | _, [], s => some s
  | [], _ :: _, _ => none
  | k :: keys, v :: vs, s => do fromItems keys vs (S.set s k (← value k v))

/-- A record from either of its two written forms. -/
def record? (start : σ) : Written → Option σ
  | .array vs => S.fromItems value S.keys vs start
  | .object ms => S.fromMembers value [] ms start
  | _ => none

/-- The two accounts agree, also in the middle of an object. Names that have occurred may not occur
again. -/
theorem fromMembers_eq_some_iff {seen : List κ} {ms : List (List StringPart × Written)}
    {start s : σ} : S.fromMembers value seen ms start = some s ↔
      S.Describes (fun k v x ↦ value k v = some x) start ms s ∧
        ∀ k ∈ seen, valuesOf (S.name k) ms = [] := by
  -- A member changes the record and the names that have occurred, so both are general.
  induction ms generalizing seen start with
  | nil =>
    rw [fromMembers, describes_nil, Option.some.injEq, eq_comm]
    exact (and_iff_left fun _ _ ↦ rfl).symm
  | cons m ms ih =>
    obtain ⟨parts, v⟩ := m
    rw [fromMembers]
    cases hparts : textOf? parts with
    | none =>
      refine ⟨nofun, fun h ↦ ?_⟩
      have hsome := (hasNames_cons.mp h.1.names).1
      rw [hparts] at hsome
      cases hsome
    | some name =>
      rw [Option.bind_eq_bind, Option.bind_some]
      cases hk : S.named? name with
      | none =>
        have hunknown k : textOf? parts ≠ some (S.name k) := by
          rw [hparts]
          rintro ⟨⟩
          rw [S.named?_name] at hk
          cases hk
        have hvalues k : valuesOf (S.name k) ((parts, v) :: ms) = valuesOf (S.name k) ms :=
          valuesOf_cons_of_ne (hunknown k)
        simp only [describes_cons_of_unknown (hparts ▸ rfl) hunknown, hvalues]
        exact ih
      | some k =>
        obtain rfl := S.named?_eq_some_iff.mp hk
        rw [describes_cons_of_known hparts]
        dsimp only
        split
        · next hseen =>
          refine ⟨nofun, fun h ↦ ?_⟩
          have hnil := h.2 k hseen
          rw [valuesOf_cons_of_eq hparts] at hnil
          cases hnil
        · next hseen =>
          have hvalues j (hj : j ∈ seen) :
              valuesOf (S.name j) ((parts, v) :: ms) = valuesOf (S.name j) ms :=
            valuesOf_cons_of_ne fun heq ↦
              hseen (S.name_injective (Option.some.inj (heq.symm.trans hparts)) ▸ hj)
          simp only [Option.bind_eq_bind, Option.bind_eq_some_iff, ih, List.forall_mem_cons]
          constructor
          · rintro ⟨x, hx, hd, hnil, hrest⟩
            exact ⟨⟨x, hx, hd, hnil⟩, fun j hj ↦ (hvalues j hj).trans (hrest j hj)⟩
          · rintro ⟨⟨x, hx, hd, hnil⟩, hrest⟩
            exact ⟨x, hx, hd, hnil, fun j hj ↦ (hvalues j hj).symm.trans (hrest j hj)⟩

theorem record?_object_eq_some_iff {ms : List (List StringPart × Written)} {start s : σ} :
    S.record? value start (.object ms) = some s ↔
      S.Describes (fun k v x ↦ value k v = some x) start ms s := by
  rw [record?, fromMembers_eq_some_iff]
  exact and_iff_left nofun

theorem record?_object_congr {ms ms' : List (List StringPart × Written)} (start : σ)
    (h : HasNames ms) (h' : HasNames ms')
    (hvalues : ∀ k, List.Forall₂ (fun v v' ↦ value k v = value k v')
      (valuesOf (S.name k) ms) (valuesOf (S.name k) ms')) :
    S.record? value start (.object ms) = S.record? value start (.object ms') := by
  refine Option.ext fun s ↦ ?_
  rw [record?_object_eq_some_iff, record?_object_eq_some_iff]
  constructor
  · intro hd
    exact hd.congr h' fun k ↦ (hvalues k).imp fun v v' heq x hx ↦ heq ▸ hx
  · intro hd
    exact hd.congr h fun k ↦ (hvalues k).flip.imp fun v v' heq x hx ↦ heq ▸ hx

end Pass

end Shape

end CodeHints.Json
