import CodeHints.Proofs.Json.Reading
import CodeHints.Proofs.Json.Shape

/-!
# Records are read for what their members mean

Reading a record is making it from the value that is written there (`Reads.record`), in either of
its forms: an object that names its fields, or an array that lists them in order. The reader goes
through the text with the names that have occurred, and `Shape.fromMembers` goes through the members
with their fields, so the two stay in step.

On any text at all, what holds of the start and of every value that is read holds of the record
(`Ensures.record`).
-/

namespace CodeHints.Json

namespace Reader

/-! ## The pass over a text -/

section Pass

variable {κ σ : Type} (S : Shape κ σ) (read : (k : κ) → Nat → Reader (S.Value k))

/-- A field of a record for its reader. -/
def fieldOf (k : κ) : RecordField σ := ⟨S.name k, fun depth s ↦ S.set s k <$> read k depth⟩

/-- The fields of a record for its reader. -/
def fieldsOf : List (RecordField σ) := S.keys.map (fieldOf S read)

theorem find?_fieldsOf (name : String) :
    (fieldsOf S read).find? (·.name == name) = (S.named? name).map (fieldOf S read) :=
  List.find?_map ..

variable {S read} {value : (k : κ) → Written → Option (S.Value k)} {depth : Nat}
  (h : ∀ k, Reads (read k depth) (value k))
include h

theorem run?_fieldOf (k : κ) (start : σ) {a s rest : List Char} {v : Written} (ha : IsBlanks a)
    (hs : Spells s (.value v)) (hrest : Ends rest) :
    ((fieldOf S read k).read depth start).run? (a ++ (s ++ rest)) =
      ((value k v).map (S.set start k)).map (·, rest) :=
  (h k).map (S.set start k) a s rest v ha hs hrest

/-- Fields by position, up to the end of the list. Values that no field is left for are found there.
-/
theorem run?_readPositions {keys : List κ} {first : Bool} {s : List Char} {vs : List Written}
    (hs : Spells s (.items first vs)) (start : σ) (rest : List Char) :
    (readPositions depth (keys.map (fieldOf S read)) first start >>= fun state ↦ do
        endList
        return state).run? (s ++ ']' :: rest) =
      (S.fromItems value keys vs start).map (·, rest) := by
  -- The induction is on the fields: the reader stops behind the last one, whatever is left.
  induction keys generalizing first s vs start with
  | nil =>
    cases hs with
    | noItems ha =>
      change (endList >>= fun _ ↦ pure start).run? _ = _
      exact run?_bind_of_eq_some (run?_endList ha rest) _
    | item hl hs ht =>
      change (endList >>= fun _ ↦ pure start).run? _ = _
      rw [List.append_assoc, List.append_assoc, run?_bind, run?_endList_item hl hs]
      rfl
  | cons k keys ih =>
    cases hs with
    | noItems ha =>
      rw [List.map_cons, readPositions, bind_assoc,
        run?_bind_of_eq_some (run?_nextElement_end first ha rest)]
      change (endList >>= fun _ ↦ pure start).run? _ = _
      exact run?_bind_of_eq_some (run?_endList isBlanks_nil rest) _
    | @item l s t _ v vs hl hs ht =>
      have hfield := run?_fieldOf h k start isBlanks_nil hs (ht.ends_items rest)
      rw [List.nil_append] at hfield
      rw [List.map_cons, readPositions, bind_assoc, List.append_assoc, List.append_assoc,
        run?_bind_of_eq_some (run?_nextElement_item hl hs _), if_pos rfl, bind_assoc,
        run?_bind_of_eq_map hfield, Shape.fromItems]
      cases value k v with
      | none => rfl
      | some x => exact ih ht (S.set start k x)

variable [DecidableEq κ]

theorem run?_readNamed {fuel : Nat} {first : Bool} {s : List Char}
    {ms : List (List StringPart × Written)} (hs : Spells s (.members first ms))
    (hfuel : s.length < fuel) (seen : List κ) (start : σ) (rest : List Char) :
    (readNamed depth (fieldsOf S read) fuel first (seen.map S.name) start).run?
        (s ++ '\x7d' :: rest) =
      (S.fromMembers value seen ms start).map (·, '\x7d' :: rest) := by
  -- The induction is on the members. `seen` grows with every field that is read, and the names that
  -- the reader remembers are always those of `seen`.
  induction ms generalizing fuel first s seen start with
  | nil =>
    obtain ⟨fuel, rfl⟩ := Nat.exists_eq_add_one_of_ne_zero (Nat.ne_zero_of_lt hfuel)
    cases hs with
    | noMembers ha => exact run?_bind_of_eq_some (run?_nextName_end first ha rest) _
  | cons m ms ih =>
    obtain ⟨fuel, rfl⟩ := Nat.exists_eq_add_one_of_ne_zero (Nat.ne_zero_of_lt hfuel)
    cases hs with
    | @member l n a b s t _ parts v _ hl hn ha hb hs ht =>
      have htail (seen : List κ) (start : σ) :
          (readNamed depth (fieldsOf S read) fuel false (seen.map S.name) start).run?
            (t ++ '\x7d' :: rest) = _ :=
        ih ht (by simp only [List.length_append, List.length_cons] at hfuel; omega) seen start
      simp only [List.append_assoc, List.cons_append]
      rw [readNamed, run?_bind_of_eq_map (run?_nextName_member hl hn _), Shape.fromMembers]
      cases textOf? parts with
      | none => rfl
      | some name =>
        rw [Option.map_some, Option.bind_some, Option.bind_eq_bind, Option.bind_some]
        dsimp only
        rw [find?_fieldsOf]
        cases hk : S.named? name with
        | none =>
          change (colon >>= fun _ ↦ skipValue >>= fun _ ↦ _).run? _ = _
          rw [run?_bind_of_eq_some (run?_colon ha _),
            run?_bind_of_eq_some (run?_of_ok (skipValue_spells hb hs (ht.ends_members rest)))]
          exact htail seen start
        | some k =>
          obtain rfl := S.named?_eq_some_iff.mp hk
          have hcontains : (seen.map S.name).contains (S.name k) = decide (k ∈ seen) := by
            rw [List.contains_eq_mem]
            exact decide_eq_decide.mpr (List.mem_map_of_injective S.name_injective)
          rw [Option.map_some]
          dsimp only
          rw [hcontains]
          by_cases hseen : k ∈ seen
          · rw [if_pos (decide_eq_true hseen), if_pos hseen]
            rfl
          · rw [if_neg (by simpa using hseen), if_neg hseen]
            change (colon >>= fun _ ↦ (fieldOf S read k).read depth start >>= fun _ ↦ _).run? _ = _
            rw [run?_bind_of_eq_some (run?_colon ha _),
              run?_bind_of_eq_map (run?_fieldOf h k start hb hs (ht.ends_members rest))]
            cases value k v with
            | none => rfl
            | some x => exact htail (k :: seen) (S.set start k x)

omit h in
/-- Reading a record is making it from the value that is written there. -/
theorem Reads.record (h : ∀ k, Reads (read k (depth - 1)) (value k)) (hdepth : 2 ≤ depth)
    (type : String) (start : σ) :
    Reads (readRecord type (fieldsOf S read) depth start) (S.record? value start) := by
  intro a s rest v ha hs hrest
  obtain ⟨c, hc, hlook⟩ := run?_bind_peekValue ha hs rest
  rw [readRecord, hlook]
  split
  · obtain ⟨t, vs, rfl, rfl, ht⟩ := hs.of_begins_array hc
    rw [List.cons_append, List.append_assoc, run?_bind_of_eq_some (run?_descend hdepth _),
      run?_bind_of_eq_some (run?_eat _ _)]
    exact run?_readPositions h ht start rest
  · obtain ⟨t, ms, rfl, rfl, ht⟩ := hs.of_begins_object hc
    have hlength : t.length < (t ++ '\x7d' :: rest).length.succ :=
      Nat.lt_succ_of_le (by rw [List.length_append]; exact Nat.le_add_right _ _)
    have hread : (readNamed (depth - 1) (fieldsOf S read) (t ++ '\x7d' :: rest).length.succ true []
        start).run? (t ++ '\x7d' :: rest) = _ := run?_readNamed h ht hlength [] start rest
    rw [List.cons_append, List.append_assoc, run?_bind_of_eq_some (run?_descend hdepth _),
      run?_bind_of_eq_some (run?_eat _ _), run?_bind_of_eq_some (run?_get _), List.singleton_append,
      run?_bind_of_eq_map hread, Shape.record?]
    cases S.fromMembers value [] ms start with
    | none => rfl
    | some state => exact run?_bind_of_eq_some (run?_eat _ _) _
  · next harray hobject =>
    rw [run?_refuse]
    cases v with
    | array vs => exact absurd hc harray
    | object ms => exact absurd hc hobject
    | _ => rfl

end Pass

/-! ## What holds of every record -/

section Invariant

variable {σ : Type} {I : σ → Prop} {fields : List (RecordField σ)}
  (h : ∀ field ∈ fields, ∀ depth s, I s → Ensures (field.read depth s) I)
include h

theorem Ensures.readPositions (depth : Nat) (first : Bool) {start : σ} (hstart : I start) :
    Ensures (Reader.readPositions depth fields first start) I := by
  induction fields generalizing first start with
  | nil => exact .pure hstart
  | cons field rest ih =>
    obtain ⟨hfield, hrest⟩ := List.forall_mem_cons.mp h
    refine .last _ fun more ↦ ?_
    cases more with
    | true => exact (hfield depth start hstart).bind fun _ hs ↦ ih hrest false hs
    | false => exact .pure hstart

theorem Ensures.readNamed (depth fuel : Nat) (first : Bool) (seen : List String) {start : σ}
    (hstart : I start) : Ensures (Reader.readNamed depth fields fuel first seen start) I := by
  induction fuel generalizing first seen start with
  | zero => exact .throw _
  | succ fuel ih =>
    refine .last _ fun name? ↦ ?_
    cases name? with
    | none => exact .pure hstart
    | some name =>
      dsimp only
      cases hfield : fields.find? (·.name == name) with
      | none => exact .last _ fun _ ↦ .last _ fun _ ↦ ih false seen hstart
      | some field =>
        dsimp only
        split
        · exact .throw _
        · have hread := h field (List.mem_of_find?_eq_some hfield) depth start hstart
          exact .last _ fun _ ↦ hread.bind fun _ hs ↦ ih false (name :: seen) hs

/-- What holds of the start, and is kept by every field, holds of the record that is read. -/
theorem Ensures.readRecord (type : String) (depth : Nat) {start : σ} (hstart : I start) :
    Ensures (Reader.readRecord type fields depth start) I := by
  refine .last _ fun c ↦ ?_
  split
  · exact .last _ fun depth ↦ .last _ fun _ ↦
      (Ensures.readPositions h depth true hstart).bind fun _ hs ↦ .last _ fun _ ↦ .pure hs
  · exact .last _ fun depth ↦ .last _ fun _ ↦ .last _ fun _ ↦
      (Ensures.readNamed h depth _ true [] hstart).bind fun _ hs ↦ .last _ fun _ ↦ .pure hs
  · exact .last _ fun _ ↦ .throw _

end Invariant

/-- What holds of the value of every field, in the start and as it is read, holds of the fields of
the record. -/
theorem Ensures.record {κ σ : Type} {S : Shape κ σ} {read : (k : κ) → Nat → Reader (S.Value k)}
    {P : (k : κ) → S.Value k → Prop} (hread : ∀ k depth, Ensures (read k depth) (P k))
    (type : String) (depth : Nat) {start : σ} (hstart : ∀ k, P k (S.get start k)) :
    Ensures (Reader.readRecord type (fieldsOf S read) depth start)
      fun s ↦ ∀ k, P k (S.get s k) := by
  refine Ensures.readRecord (fun field hfield depth s hs ↦ ?_) type depth hstart
  obtain ⟨k, -, rfl⟩ := List.mem_map.mp hfield
  refine (hread k depth).map fun x hx j ↦ ?_
  by_cases hj : j = k
  · subst hj
    rw [S.get_set_self]
    exact hx
  · rw [S.get_set_of_ne s x hj]
    exact hs j

end Reader

end CodeHints.Json
