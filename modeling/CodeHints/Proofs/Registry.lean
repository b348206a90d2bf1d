import CodeHints.Pipeline.Registry
import CodeHints.Proofs.Pool.Links
import Mathlib.Data.List.Nodup

/-!
# The entries of a registry

A registry has at most one worker for a window. This is a property of the list of its keys, and as
long as it holds, the first entry for a window is the only one, so looking it up and asking whether
it is there come to the same.

An invalidation is a fold over all workers. `invalidateAll_induction` takes it apart into
`letGo`, which retires one worker and takes it from the list at once. A property of registry and
pool that survives this one step survives an invalidation.
-/

namespace CodeHints

namespace Registry

/-! ## Entries -/

section Entries

variable {β : Type}

theorem mem_of_lookup {entries : List (WindowKey × β)} {window : WindowKey} {b : β}
    (h : entries.lookup window = some b) : (window, b) ∈ entries := by
  obtain ⟨before, after, rfl, -⟩ := List.lookup_eq_some_iff.mp h
  exact List.mem_append_right _ List.mem_cons_self

theorem lookup_eq_none {entries : List (WindowKey × β)} {window : WindowKey} :
    entries.lookup window = none ↔ ∀ b, (window, b) ∉ entries := by
  rw [List.lookup_eq_none_iff]
  constructor
  · intro h b hmem
    simpa using h _ hmem
  · rintro h ⟨key, b⟩ hmem
    rw [bne_iff_ne]
    rintro rfl
    exact h b hmem

theorem lookup_of_mem {entries : List (WindowKey × β)} {window : WindowKey} {b : β}
    (hkeys : (entries.map (·.1)).Nodup) (h : (window, b) ∈ entries) :
    entries.lookup window = some b := by
  induction entries with
  | nil => cases h
  | cons first rest ih =>
    rw [List.map_cons, List.nodup_cons] at hkeys
    rw [List.lookup_cons]
    obtain rfl | hrest := List.mem_cons.mp h
    · simp
    · have hne : window ≠ first.1 := fun e ↦
        hkeys.1 (e ▸ List.mem_map.mpr ⟨_, hrest, rfl⟩)
      rw [beq_eq_false_iff_ne.mpr hne]
      exact ih hkeys.2 hrest

theorem mem_without {entries : List (WindowKey × β)} {window : WindowKey} {x : WindowKey × β} :
    x ∈ without entries window ↔ x ∈ entries ∧ x.1 ≠ window := by
  simp [without]

theorem without_sublist (entries : List (WindowKey × β)) (window : WindowKey) :
    List.Sublist (without entries window) entries := List.filter_sublist

theorem lookup_without (entries : List (WindowKey × β)) (window : WindowKey) :
    (without entries window).lookup window = none :=
  lookup_eq_none.mpr fun _ h ↦ (mem_without.mp h).2 rfl

theorem lookup_without_of_ne (entries : List (WindowKey × β)) {window other : WindowKey}
    (h : other ≠ window) : (without entries window).lookup other = entries.lookup other := by
  induction entries with
  | nil => rfl
  | cons first rest ih =>
    rw [without, List.filter_cons]
    split
    · rw [List.lookup_cons, List.lookup_cons, ← ih]
      rfl
    · next hfirst =>
      have hne : (other == first.1) = false := by
        rw [beq_eq_false_iff_ne]
        intro e
        exact hfirst (by simpa [← e] using h)
      rw [List.lookup_cons, hne, ← ih]
      rfl

theorem lookup_append_single_of_ne (entries : List (WindowKey × β)) {window other : WindowKey}
    (h : window ≠ other) (b : β) :
    (entries ++ [(other, b)]).lookup window = entries.lookup window := by
  have hsingle : [(other, b)].lookup window = none :=
    lookup_eq_none.mpr fun c hc ↦ h (Prod.mk.inj (List.mem_singleton.mp hc)).1
  rw [List.lookup_append, hsingle, Option.or_none]

theorem without_append_single {entries : List (WindowKey × β)} {window : WindowKey} {b : β}
    (h : window ∉ entries.map (·.1)) : without (entries ++ [(window, b)]) window = entries := by
  rw [without, List.filter_append, List.filter_eq_self.mpr, List.filter_cons_of_neg,
    List.filter_nil, List.append_nil]
  · simp
  · intro x hx
    rw [decide_eq_true_eq]
    rintro rfl
    exact h (List.mem_map.mpr ⟨x, hx, rfl⟩)

theorem nodup_append_single {entries : List (WindowKey × β)} {window : WindowKey}
    (hkeys : (entries.map (·.1)).Nodup) (h : entries.lookup window = none) (b : β) :
    ((entries ++ [(window, b)]).map (·.1)).Nodup := by
  rw [List.map_append, List.nodup_append]
  refine ⟨hkeys, List.nodup_singleton window, fun key hkey other hother ↦ ?_⟩
  rintro rfl
  obtain rfl := List.mem_singleton.mp hother
  obtain ⟨x, hx, heq⟩ := List.mem_map.mp hkey
  exact lookup_eq_none.mp h x.2 (by rw [← heq]; exact hx)

/-- Two lists have the same for a window. -/
structure SameAt (window : WindowKey) (entries entries' : List (WindowKey × β)) : Prop where
  lookup : entries'.lookup window = entries.lookup window
  mem : ∀ b, (window, b) ∈ entries' ↔ (window, b) ∈ entries

namespace SameAt

variable {window other : WindowKey} {entries : List (WindowKey × β)}

theorem refl (window : WindowKey) (entries : List (WindowKey × β)) :
    SameAt window entries entries := ⟨rfl, fun _ ↦ Iff.rfl⟩

theorem without (h : window ≠ other) (entries : List (WindowKey × β)) :
    SameAt window entries (without entries other) :=
  ⟨lookup_without_of_ne entries h, fun _ ↦ mem_without.trans (and_iff_left h)⟩

theorem append_single {entries' : List (WindowKey × β)} (hsame : SameAt window entries entries')
    (h : window ≠ other) (b : β) : SameAt window entries (entries' ++ [(other, b)]) := by
  refine ⟨(lookup_append_single_of_ne entries' h b).trans hsame.lookup, fun c ↦ ?_⟩
  rw [← hsame.mem, List.mem_append, List.mem_singleton]
  exact ⟨fun hmem ↦ hmem.resolve_right fun e ↦ h (Prod.mk.inj e).1, .inl⟩

end SameAt

end Entries

/-! ## Environments -/

/-- A look that finds no environment finds the present generation. -/
theorem lookup_eq_missing {r : Registry} {window : WindowKey} {generation : Nat} :
    r.lookup window = .missing generation ↔
      r.daemons.lookup window = none ∧ generation = r.generation := by
  rw [lookup, daemon?]
  cases r.daemons.lookup window with
  | some found => simp
  | none => simp [eq_comm]

/-- What handing over an environment comes to: it is counted, and it is kept if the generation is
still the same and the window has none yet. -/
theorem insert_spec (r : Registry) (window : WindowKey) (generation : Nat) (daemon : Daemon) :
    (r.insert window generation daemon).2 = { r with resolved := r.resolved + 1 } ∨
      (r.generation = generation ∧ (r.insert window generation daemon).2 =
        { r with
          resolved := r.resolved + 1
          daemons := r.daemons ++ [(window, ⟨r.resolved, daemon⟩)] }) := by
  unfold insert
  by_cases hgeneration : r.generation = generation
  · cases hfirst : r.daemons.lookup window with
    | some first => exact .inl (by simp [hgeneration, daemon?, hfirst])
    | none => exact .inr ⟨hgeneration, by simp [hgeneration, daemon?, hfirst]⟩
  · exact .inl (by simp [hgeneration])

theorem insert_of_none {r : Registry} {window : WindowKey} (h : r.daemons.lookup window = none)
    (daemon : Daemon) : (r.insert window r.generation daemon).2 =
      { r with
        resolved := r.resolved + 1
        daemons := r.daemons ++ [(window, ⟨r.resolved, daemon⟩)] } := by
  simp [insert, daemon?, h]

/-- What is kept after an environment was handed over: what was kept before, and for its window the
new one if it is the first of the generation. -/
theorem lookup_insert (r : Registry) (window : WindowKey) (generation : Nat) (daemon : Daemon)
    (other : WindowKey) :
    (r.insert window generation daemon).2.daemons.lookup other =
      (r.daemons.lookup other).or
        (if window = other ∧ generation = r.generation then some ⟨r.resolved, daemon⟩
        else none) := by
  rw [insert]
  by_cases hgeneration : r.generation = generation
  · rw [if_neg (not_not_intro hgeneration)]
    cases hfirst : r.daemons.lookup window with
    | some first =>
      simp only [daemon?, hfirst]
      by_cases hwindow : window = other
      · rw [← hwindow, hfirst]
        rfl
      · rw [if_neg fun h ↦ hwindow h.1, Option.or_none]
    | none =>
      simp only [daemon?, hfirst]
      by_cases hwindow : window = other
      · rw [← hwindow, List.lookup_append, hfirst, if_pos ⟨rfl, hgeneration.symm⟩]
        rw [List.lookup_cons_self, Option.none_or]
      · rw [lookup_append_single_of_ne _ (Ne.symm hwindow), if_neg fun h ↦ hwindow h.1,
          Option.or_none]
  · rw [if_pos hgeneration, if_neg fun h ↦ hgeneration h.2.symm, Option.or_none]

/-- What is handed back: the environment that is kept by now, unless a new generation has begun. -/
theorem insert_fst (r : Registry) (window : WindowKey) (generation : Nat) (daemon : Daemon) :
    (r.insert window generation daemon).1 =
      if generation = r.generation then (r.daemons.lookup window).getD ⟨r.resolved, daemon⟩
      else ⟨r.resolved, daemon⟩ := by
  rw [insert]
  by_cases hgeneration : r.generation = generation
  · rw [if_neg (not_not_intro hgeneration), if_pos hgeneration.symm]
    cases hfirst : r.daemons.lookup window <;> simp [daemon?, hfirst]
  · rw [if_pos hgeneration, if_neg (Ne.symm hgeneration)]

theorem nodup_insert {r : Registry} (h : (r.daemons.map (·.1)).Nodup) (window : WindowKey)
    (generation : Nat) (daemon : Daemon) :
    ((r.insert window generation daemon).2.daemons.map (·.1)).Nodup := by
  rw [insert]
  split
  · exact h
  · dsimp only [daemon?]
    split
    · exact h
    · next hnone => exact nodup_append_single h hnone _

/-! ## Names -/

theorem workerName_injective {window other : WindowKey} (h : workerName window = workerName other) :
    window = other := by
  have hval : window.val.repr = other.val.repr := String.append_right_inj _ |>.mp h
  have hdigits : Nat.toDigits 10 window.val = Nat.toDigits 10 other.val := by
    rw [← Nat.toList_repr, ← Nat.toList_repr, hval]
  have heq : window.val = other.val := by
    rw [← Nat.ofDigitChars_ten_toDigits (n := window.val), hdigits,
      Nat.ofDigitChars_ten_toDigits]
  cases window
  cases other
  exact congrArg _ heq

/-! ## Invalidation -/

variable {α : Type}

/-- Retire one worker, and take it from the list of workers. -/
def letGo (r : Registry) (pool : WorkerPool α) (window : WindowKey) (id : WorkerId) :
    Registry × WorkerPool α :=
  ({ (r.retire pool window id).1 with workers := without r.workers window },
    (r.retire pool window id).2)

def retireAll (r : Registry) (pool : WorkerPool α) (entries : List (WindowKey × WorkerId)) :
    Registry × WorkerPool α :=
  entries.foldl (fun x entry ↦ x.1.retire x.2 entry.1 entry.2) (r, pool)

theorem invalidateAll_eq (r : Registry) (pool : WorkerPool α) :
    r.invalidateAll pool =
      ({ (r.retireAll pool r.retirementOrder).1 with
          daemons := []
          workers := []
          generation := (r.retireAll pool r.retirementOrder).1.generation + 1 },
        (r.retireAll pool r.retirementOrder).2) := rfl

private theorem retireAll_induction {P : Registry → WorkerPool α → Prop}
    (hstep : ∀ r pool window id, P r pool → (window, id) ∈ r.workers →
      P (r.letGo pool window id).1 (r.letGo pool window id).2)
    (entries : List (WindowKey × WorkerId)) (hkeys : (entries.map (·.1)).Nodup) :
    ∀ (r : Registry) (pool : WorkerPool α), P { r with workers := entries.reverse } pool →
      P { (r.retireAll pool entries).1 with workers := [] } (r.retireAll pool entries).2 := by
  induction entries with
  | nil => exact fun r pool h ↦ h
  | cons first rest ih =>
    obtain ⟨window, id⟩ := first
    intro r pool h
    rw [List.map_cons, List.nodup_cons] at hkeys
    rw [retireAll, List.foldl_cons]
    refine ih hkeys.2 _ _ ?_
    have hgo := hstep _ pool window id h (by simp)
    rw [letGo, List.reverse_cons, without_append_single (by simpa using hkeys.1)] at hgo
    exact hgo

/-- **What letting one worker go preserves, an invalidation preserves.** -/
theorem invalidateAll_induction {P : Registry → WorkerPool α → Prop} {r : Registry}
    {pool : WorkerPool α} (hkeys : (r.workers.map (·.1)).Nodup) (h : P r pool)
    (hstep : ∀ r pool window id, P r pool → (window, id) ∈ r.workers →
      P (r.letGo pool window id).1 (r.letGo pool window id).2)
    (hrest : ∀ r pool daemons generation, P r pool →
      P { r with daemons := daemons, generation := generation } pool) :
    P (r.invalidateAll pool).1 (r.invalidateAll pool).2 := by
  have hkeys' : (r.workers.reverse.map (·.1)).Nodup := by
    rw [List.map_reverse]
    exact List.nodup_reverse.mpr hkeys
  have hfold := retireAll_induction hstep r.workers.reverse hkeys' r pool
    (by rw [List.reverse_reverse]; exact h)
  rw [invalidateAll_eq]
  exact hrest _ _ [] _ hfold

/-- What an invalidation does to the environments: none is left, and a new generation begins. -/
theorem invalidateAll_spec (r : Registry) (pool : WorkerPool α) :
    (r.invalidateAll pool).1.daemons = [] ∧ (r.invalidateAll pool).1.workers = [] ∧
      (r.invalidateAll pool).1.generation = r.generation + 1 ∧
      (r.invalidateAll pool).1.resolved = r.resolved := by
  have hfold (entries : List (WindowKey × WorkerId)) : ∀ (r : Registry) (pool : WorkerPool α),
      (r.retireAll pool entries).1.generation = r.generation ∧
        (r.retireAll pool entries).1.resolved = r.resolved := by
    induction entries with
    | nil => exact fun r pool ↦ ⟨rfl, rfl⟩
    | cons first rest ih => exact fun r pool ↦ ih _ _
  obtain ⟨hgeneration, hresolved⟩ := hfold r.retirementOrder r pool
  rw [invalidateAll_eq]
  exact ⟨rfl, rfl, congrArg (· + 1) hgeneration, hresolved⟩

/-! ## One worker is let go -/

/-- What letting an open worker go does: a new signal is put at the end of its line, and the next
worker of the window will have to wait for it. -/
theorem letGo_spec (r : Registry) {pool : WorkerPool α} (window : WindowKey) {i : WorkerId}
    {w : SerialWorker α} (hw : pool.worker? i = some w) (hopen : w.isClosed = false) :
    (r.letGo pool window i).1.retiring =
        without r.retiring window ++ [(window, ⟨pool.signals.length⟩)] ∧
      (r.letGo pool window i).2.signals = pool.signals ++ [.pending] ∧
      ∀ id, (r.letGo pool window i).2.station id =
        if id = i then
          ((pool.station id).mapWorker fun w ↦ { w with
            queue := w.queue ++ [.signal ⟨pool.signals.length⟩]
            backlog := w.backlog + 1 }).mapWorker .release
        else pool.station id := by
  obtain ⟨pool', hsubmit, hdrained⟩ := WorkerPool.drained_of_open hw hopen
  obtain ⟨v, hv, -, hsignals, hstation⟩ := WorkerPool.station_submit hsubmit
  refine ⟨?_, ?_, ?_⟩
  · rw [letGo, retire, hdrained]
  · rw [letGo, retire, hdrained]
    exact hsignals
  · intro id
    rw [letGo, retire, hdrained]
    refine (WorkerPool.station_modify _ _ _ _).trans ?_
    rw [hstation]
    split <;> rfl

end Registry

end CodeHints
