import CodeHints.Proofs.Json.Shape
import CodeHints.Proofs.Json.Writing

/-!
# Records by position

An array gives the values of the first fields of a record, in the order of declaration, and so does
an object with the names of these fields (`Gives`). The two are read in passes of their own. Here is
an account of what an array says about a record that has no pass in it (`Shape.Assigns`), and it is
the account of every object that gives the same values (`Shape.describes_iff_assigns`). So both make
up the same record (`Shape.record?_of_gives`).

An array may be shorter than the list of fields, but not longer: no record is made from an array
with more values than there are fields.
-/

namespace CodeHints.Json

/-! ## Values for the first of some names -/

/-- A written record gives the first of some names their values: an array lists the values, and an
object has them as the members of these names, in any order, with no member for a name behind them.
Other members of the object do not count. -/
inductive Gives (names : List String) (vs : List Written) : Written → Prop
  | array : Gives names vs (.array vs)
  | object {ms : List (List StringPart × Written)} (hnames : HasNames ms)
      (hvalues : ∀ (i : Nat) (name : String), names[i]? = some name →
        valuesOf name ms = vs[i]?.toList) :
      Gives names vs (.object ms)

theorem exists_gives_object {names : List String} (hnames : names.Nodup) (vs : List Written) :
    ∃ ms, Gives names vs (.object ms) := by
  refine ⟨(names.zip vs).map fun m ↦ (partsOf m.1, m.2), .object ?_ fun i name hi ↦ ?_⟩
  · intro m hm
    obtain ⟨n, -, rfl⟩ := List.mem_map.mp hm
    rw [textOf?_partsOf]
    rfl
  induction names generalizing vs i with
  | nil => cases hi
  | cons n names ih =>
    obtain ⟨hn, hnames⟩ := List.nodup_cons.mp hnames
    cases vs with
    | nil => rfl
    | cons v vs =>
      rw [List.zip_cons_cons, List.map_cons]
      cases i with
      | zero =>
        obtain rfl : n = name := Option.some.inj hi
        rw [valuesOf_cons_of_eq (textOf?_partsOf n), valuesOf_eq_nil]
        · rfl
        · intro m hm h
          obtain ⟨j, hj, rfl⟩ := List.mem_map.mp hm
          rw [textOf?_partsOf, Option.some.injEq] at h
          exact hn (h ▸ (List.of_mem_zip hj).1)
      | succ i =>
        have hne : n ≠ name := fun h ↦ hn (h ▸ List.mem_of_getElem? hi)
        rw [valuesOf_cons_of_ne (by rwa [textOf?_partsOf, ne_eq, Option.some.injEq])]
        exact ih hnames vs i hi

namespace Shape

variable {κ σ : Type} (S : Shape κ σ)

/-! ## The account without a pass -/

/-- What values in the order of declaration say about a record. A field behind them is as in
`start`. -/
structure Assigns (means : (k : κ) → Written → S.Value k → Prop) (start : σ) (vs : List Written)
    (s : σ) : Prop where
  length_le : vs.length ≤ S.keys.length
  present : ∀ m ∈ S.keys.zip vs, means m.1 m.2 (S.get s m.1)
  missing : ∀ k ∉ S.keys.take vs.length, S.get s k = S.get start k

variable {S} {start s : σ} {vs : List Written}

/-- An object gives values if each field has the one at its own place. -/
theorem gives_object [DecidableEq κ] {ms : List (List StringPart × Written)} (hnames : HasNames ms)
    (hvalues : ∀ k, valuesOf (S.name k) ms = vs[S.keys.idxOf k]?.toList) :
    Gives (S.keys.map S.name) vs (.object ms) := by
  refine .object hnames fun i name hi ↦ ?_
  rw [List.getElem?_map, Option.map_eq_some_iff] at hi
  obtain ⟨k, hk, rfl⟩ := hi
  obtain ⟨hlt, rfl⟩ := List.getElem?_eq_some_iff.mp hk
  rw [hvalues, S.nodup_keys.idxOf_getElem]

/-- An object says the same as the values that it gives by name. -/
theorem describes_iff_assigns {means : (k : κ) → Written → S.Value k → Prop}
    {ms : List (List StringPart × Written)} (h : Gives (S.keys.map S.name) vs (.object ms))
    (hlength : vs.length ≤ S.keys.length) :
    S.Describes means start ms s ↔ S.Assigns means start vs s := by
  obtain ⟨hnames, hgiven⟩ : HasNames ms ∧
      ∀ (i : Nat) (k : κ), S.keys[i]? = some k → valuesOf (S.name k) ms = vs[i]?.toList := by
    cases h with
    | object hnames hvalues =>
      refine ⟨hnames, fun i k hk ↦ hvalues i _ ?_⟩
      rw [List.getElem?_map, hk]
      rfl
  -- Every field has a place, and the place tells its value.
  have hplace (k : κ) :
      ∃ i : Nat, S.keys[i]? = some k ∧ valuesOf (S.name k) ms = vs[i]?.toList := by
    obtain ⟨i, hi⟩ := List.mem_iff_getElem?.mp (S.mem_keys k)
    exact ⟨i, hi, hgiven i k hi⟩
  constructor
  · intro hd
    refine ⟨hlength, fun m hm ↦ ?_, fun k hk ↦ ?_⟩
    · obtain ⟨i, hi⟩ := List.mem_iff_getElem?.mp hm
      obtain ⟨hkey, hvalue⟩ := List.getElem?_zip_eq_some.mp hi
      refine hd.present m.1 m.2 ?_
      rw [hgiven i m.1 hkey, hvalue]
      exact List.mem_singleton_self _
    · obtain ⟨i, hkey, hvalues⟩ := hplace k
      refine hd.missing k (hvalues.trans ?_)
      have hbehind : vs.length ≤ i := by
        by_contra hlt
        refine hk (List.mem_of_getElem? (i := i) ?_)
        rw [List.getElem?_take_of_lt (Nat.lt_of_not_le hlt), hkey]
      rw [List.getElem?_eq_none hbehind]
      rfl
  · intro ha
    refine ⟨hnames, fun k ↦ ?_, fun k hnil ↦ ?_, fun k v hv ↦ ?_⟩
    · obtain ⟨i, -, hvalues⟩ := hplace k
      rw [hvalues]
      cases vs[i]? <;> simp
    · refine ha.missing k fun hk ↦ ?_
      obtain ⟨i, hi⟩ := List.mem_iff_getElem?.mp hk
      rw [List.getElem?_take, Option.ite_none_right_eq_some] at hi
      obtain ⟨hlt, hkey⟩ := hi
      rw [hgiven i k hkey, List.getElem?_eq_getElem hlt] at hnil
      cases hnil
    · obtain ⟨i, hkey, hvalues⟩ := hplace k
      rw [hvalues, Option.mem_toList] at hv
      exact ha.present (k, v) (List.mem_of_getElem? (List.getElem?_zip_eq_some.mpr ⟨hkey, hv⟩))

/-! ## The pass over an array -/

variable {value : (k : κ) → Written → Option (S.Value k)} {keys : List κ}

/-- Values by position, also in the middle of an array: the fields of the values in front are none
of `keys`, and stay as they are. -/
theorem fromItems_eq_some_iff (hkeys : keys.Nodup) :
    S.fromItems value keys vs start = some s ↔
      vs.length ≤ keys.length ∧ (∀ m ∈ keys.zip vs, value m.1 m.2 = some (S.get s m.1)) ∧
        ∀ k ∉ keys.take vs.length, S.get s k = S.get start k := by
  -- A value changes the record and takes up its field, so both are general.
  induction vs generalizing keys start with
  | nil =>
    rw [fromItems, Option.some.injEq]
    constructor
    · rintro rfl
      exact ⟨Nat.zero_le _, by simp, fun _ _ ↦ rfl⟩
    · rintro ⟨-, -, hmissing⟩
      exact S.ext_get fun k ↦ (hmissing k List.not_mem_nil).symm
  | cons v vs ih =>
    cases keys with
    | nil => exact ⟨nofun, fun h ↦ absurd h.1 (Nat.not_succ_le_zero _)⟩
    | cons k keys =>
      obtain ⟨hk, hkeys⟩ := List.nodup_cons.mp hkeys
      rw [List.zip_cons_cons, List.forall_mem_cons, List.length_cons, List.length_cons,
        List.take_succ_cons, Nat.add_le_add_iff_right]
      simp only [fromItems, Option.bind_eq_bind, Option.bind_eq_some_iff, ih hkeys, List.mem_cons,
        not_or]
      constructor
      · rintro ⟨x, hx, hlength, hpresent, hmissing⟩
        have hget : S.get s k = x :=
          (hmissing k fun h ↦ hk (List.mem_of_mem_take h)).trans (S.get_set_self start k x)
        refine ⟨hlength, ⟨hget ▸ hx, hpresent⟩, fun j ⟨hne, hj⟩ ↦ ?_⟩
        exact (hmissing j hj).trans (S.get_set_of_ne start x hne)
      · rintro ⟨hlength, ⟨hx, hpresent⟩, hmissing⟩
        refine ⟨S.get s k, hx, hlength, hpresent, fun j hj ↦ ?_⟩
        obtain rfl | hne := eq_or_ne j k
        · exact (S.get_set_self start j _).symm
        · exact (hmissing j ⟨hne, hj⟩).trans (S.get_set_of_ne start _ hne).symm

theorem exists_fromItems (hlength : vs.length ≤ keys.length)
    (hvalues : ∀ m ∈ keys.zip vs, ∃ x, value m.1 m.2 = some x) :
    ∃ s, S.fromItems value keys vs start = some s := by
  induction vs generalizing keys start with
  | nil => exact ⟨start, by rw [fromItems]⟩
  | cons v vs ih =>
    cases keys with
    | nil => exact absurd hlength (Nat.not_succ_le_zero _)
    | cons k keys =>
      obtain ⟨⟨x, hx⟩, hvalues⟩ := List.forall_mem_cons.mp hvalues
      rw [fromItems, hx]
      exact ih (Nat.le_of_succ_le_succ hlength) hvalues

theorem fromItems_congr {vs' : List Written} (hlength : vs.length ≤ keys.length)
    (hvalues : List.Forall₂ (fun m w ↦ value m.1 m.2 = value m.1 w) (keys.zip vs) vs') :
    S.fromItems value keys vs start = S.fromItems value keys vs' start := by
  induction vs generalizing keys vs' start with
  | nil =>
    rw [List.zip_nil_right] at hvalues
    cases hvalues
    rfl
  | cons v vs ih =>
    cases keys with
    | nil => exact absurd hlength (Nat.not_succ_le_zero _)
    | cons k keys =>
      cases hvalues with
      | cons hv hvalues =>
        rw [fromItems, fromItems, hv]
        exact congrArg _ (funext fun x ↦ ih (Nat.le_of_succ_le_succ hlength) hvalues)

variable [DecidableEq κ] {v : Written}

theorem record?_array_eq_some_iff :
    S.record? value start (.array vs) = some s ↔
      S.Assigns (fun k v x ↦ value k v = some x) start vs s :=
  (fromItems_eq_some_iff S.nodup_keys).trans
    ⟨fun ⟨hlength, hpresent, hmissing⟩ ↦ ⟨hlength, hpresent, hmissing⟩,
      fun h ↦ ⟨h.length_le, h.present, h.missing⟩⟩

/-- **The record of values does not depend on whether they are given by position or by name.** -/
theorem record?_of_gives (h : Gives (S.keys.map S.name) vs v)
    (hlength : vs.length ≤ S.keys.length) :
    S.record? value start v = S.record? value start (.array vs) := by
  cases h with
  | array => rfl
  | object hnames hvalues =>
    refine Option.ext fun s ↦ ?_
    rw [record?_object_eq_some_iff, record?_array_eq_some_iff]
    exact describes_iff_assigns (.object hnames hvalues) hlength

end Shape

end CodeHints.Json
