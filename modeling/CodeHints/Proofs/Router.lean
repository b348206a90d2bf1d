import CodeHints.Pipeline.Router
import CodeHints.Proofs.Registry

/-!
# What the operations of a router do

A router is a list of inboxes and a table of windows. Each operation is described by what it does to
the inbox that is looked up under an identity: whether it is held, and what is queued in it. The
table matters only through `Router.target?`, which is where deliveries to a window go.
-/

namespace CodeHints

namespace Router

variable {δ : Type} (r : Router δ) {id other : InboxId} {window : WindowKey}

theorem inbox?_modify (id other : InboxId) (f : Inbox δ → Inbox δ) :
    (r.modify id f).inbox? other = if other = id then (r.inbox? id).map f else r.inbox? other := by
  rw [inbox?, modify, List.getElem?_modify]
  by_cases h : other = id
  · simp [h, inbox?]
  · have hindex : id.index ≠ other.index := fun e ↦ h (congrArg InboxId.mk e).symm
    simp [h, hindex, inbox?]

theorem inbox?_attach (window : WindowKey) (id : InboxId) :
    (r.attach window).2.inbox? id =
      if id = ⟨r.inboxes.length⟩ then some ⟨[], true⟩ else r.inbox? id := by
  rw [inbox?, attach]
  dsimp only
  split
  · next h =>
    rw [h]
    exact List.getElem?_concat_length
  · next h =>
    rw [List.getElem?_append, inbox?]
    split
    · rfl
    · next hge =>
      have hgt : r.inboxes.length < id.index :=
        Nat.lt_of_le_of_ne (Nat.not_lt.mp hge) fun hindex ↦ h (congrArg InboxId.mk hindex).symm
      rw [List.getElem?_eq_none (Nat.not_lt.mp hge), List.getElem?_eq_none]
      exact Nat.sub_pos_of_lt hgt

theorem length_modify (f : Inbox δ → Inbox δ) :
    (r.modify id f).inboxes.length = r.inboxes.length := List.length_modify _ _ _

theorem isHeld_iff : r.isHeld id = true ↔ ∃ box, r.inbox? id = some box ∧ box.isHeld = true := by
  rw [isHeld]
  cases r.inbox? id <;> simp

theorem target?_eq_some_iff :
    r.target? window = some id ↔ r.windows.lookup window = some id ∧ r.isHeld id = true := by
  rw [target?, Option.filter_eq_some_iff]

theorem isHeld_attach (window : WindowKey) (id : InboxId) :
    (r.attach window).2.isHeld id = true ↔ id = ⟨r.inboxes.length⟩ ∨ r.isHeld id = true := by
  rw [isHeld_iff, inbox?_attach]
  split
  · next h => simp [h]
  · next h => simp [h, isHeld_iff]

theorem queued_attach (window : WindowKey) (id : InboxId) :
    (r.attach window).2.queued id = r.queued id := by
  rw [queued, inbox?_attach]
  split
  · next h =>
    have hnone : r.inbox? id = none := by
      rw [inbox?, h]
      exact List.getElem?_eq_none (Nat.le_refl _)
    rw [queued, hnone]
    rfl
  · rfl

theorem isHeld_modify (f : Inbox δ → Inbox δ) (hf : ∀ box, (f box).isHeld = box.isHeld) :
    (r.modify id f).isHeld other = r.isHeld other := by
  rw [isHeld, inbox?_modify, isHeld]
  split
  · next h =>
    rw [h, Option.map_map]
    exact congrArg (·.getD false) (Option.map_congr fun box _ ↦ hf box)
  · rfl

theorem queued_takeAll (id other : InboxId) :
    (r.takeAll id).2.queued other = if other = id then [] else r.queued other := by
  rw [queued, takeAll, inbox?_modify]
  split
  · cases r.inbox? id <;> rfl
  · rfl

theorem isHeld_takeAll (id other : InboxId) : (r.takeAll id).2.isHeld other = r.isHeld other :=
  r.isHeld_modify _ fun _ ↦ rfl

theorem queued_drop (id other : InboxId) :
    (r.drop id).queued other = if other = id then [] else r.queued other := by
  rw [queued, drop, inbox?_modify]
  split
  · cases r.inbox? id <;> rfl
  · rfl

theorem isHeld_drop (id other : InboxId) :
    (r.drop id).isHeld other = true ↔ other ≠ id ∧ r.isHeld other = true := by
  rw [isHeld, drop, inbox?_modify]
  split
  · next h => cases r.inbox? id <;> simp [h]
  · next h => simp [h, isHeld]

theorem isHeld_deliver (window : WindowKey) (a : δ) (other : InboxId) :
    (r.deliver window a).2.isHeld other = r.isHeld other := by
  rw [deliver]
  split
  · exact r.isHeld_modify _ fun _ ↦ rfl
  · rfl

theorem deliver_fst (window : WindowKey) (a : δ) :
    (r.deliver window a).1 = r.isAttached window := by
  rw [deliver, isAttached]
  cases r.target? window <;> rfl

theorem queued_deliver (window : WindowKey) (a : δ) (other : InboxId) :
    (r.deliver window a).2.queued other =
    if r.target? window = some other then r.queued other ++ [a] else r.queued other := by
  rw [deliver]
  cases htarget : r.target? window with
  | none => rfl
  | some id =>
    obtain ⟨-, hheld⟩ := r.target?_eq_some_iff.mp htarget
    obtain ⟨box, hbox, -⟩ := r.isHeld_iff.mp hheld
    dsimp only
    rw [queued, inbox?_modify, queued]
    by_cases h : other = id
    · subst h
      simp [hbox]
    · rw [if_neg h, if_neg fun hsame ↦ h (Option.some.inj hsame).symm]

theorem length_deliver (window : WindowKey) (a : δ) :
    (r.deliver window a).2.inboxes.length = r.inboxes.length := by
  rw [deliver]
  split
  · exact r.length_modify _
  · rfl

theorem take?_eq_some_iff {first : δ} {r' : Router δ} : r.take? id = some (first, r') ↔
    ∃ rest, r.queued id = first :: rest ∧
      r' = r.modify id fun box ↦ { box with queue := rest } := by
  rw [take?]
  cases r.queued id with
  | nil => simp
  | cons a rest =>
    simp only [Option.some.injEq, Prod.mk.injEq, List.cons.injEq]
    constructor
    · rintro ⟨rfl, rfl⟩
      exact ⟨rest, ⟨rfl, rfl⟩, rfl⟩
    · rintro ⟨rest, ⟨rfl, rfl⟩, rfl⟩
      exact ⟨rfl, rfl⟩

theorem queued_modify_queue (rest : List δ) (h : r.queued id ≠ []) :
    (r.modify id fun box ↦ { box with queue := rest }).queued other =
      if other = id then rest else r.queued other := by
  rw [queued, inbox?_modify]
  split
  · cases hbox : r.inbox? id with
    | none => exact absurd (by rw [queued, hbox]; rfl) h
    | some box => rfl
  · rfl

theorem queued_take? {first : δ} {r' : Router δ} (h : r.take? id = some (first, r')) :
    r.queued id = first :: r'.queued id ∧ ∀ other ≠ id, r'.queued other = r.queued other := by
  obtain ⟨rest, hqueued, rfl⟩ := r.take?_eq_some_iff.mp h
  have hne : r.queued id ≠ [] := hqueued ▸ List.cons_ne_nil _ _
  refine ⟨?_, fun other hother ↦ ?_⟩
  · rw [r.queued_modify_queue rest hne, if_pos rfl, hqueued]
  · rw [r.queued_modify_queue rest hne, if_neg hother]

theorem length_take? {first : δ} {r' : Router δ} (h : r.take? id = some (first, r')) :
    r'.inboxes.length = r.inboxes.length := by
  obtain ⟨rest, -, rfl⟩ := r.take?_eq_some_iff.mp h
  exact r.length_modify _

theorem isHeld_take? {first : δ} {r' : Router δ} (h : r.take? id = some (first, r')) :
    r'.isHeld other = r.isHeld other := by
  obtain ⟨rest, -, rfl⟩ := r.take?_eq_some_iff.mp h
  exact r.isHeld_modify _ fun _ ↦ rfl

/-! ## Detached windows -/

variable {r} {r' : Router δ}

theorem windows_deliver (r : Router δ) (window : WindowKey) (delivery : δ) :
    (r.deliver window delivery).2.windows = r.windows := by
  rw [deliver]
  split <;> rfl

theorem windows_take? {inbox : InboxId} {delivery : δ} (h : r.take? inbox = some (delivery, r')) :
    r'.windows = r.windows := by
  rw [take?] at h
  split at h
  · obtain ⟨-, rfl⟩ := Prod.mk.inj (Option.some.inj h)
    rfl
  · cases h

theorem deliver_of_detached {window : WindowKey} (h : ∀ inbox, (window, inbox) ∉ r.windows)
    (delivery : δ) : r.deliver window delivery = (false, r) := by
  have htarget : r.target? window = none := by
    rw [target?, Option.filter_eq_none_iff]
    exact fun inbox hlookup ↦ absurd (Registry.mem_of_lookup hlookup) (h inbox)
  rw [deliver, htarget]

end Router

end CodeHints
