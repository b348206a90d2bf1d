import CodeHints.Pipeline.Basic
import CodeHints.Proofs.Pool.Tasks
import CodeHints.Proofs.Registry
import Mathlib.Data.List.Nodup
import Mathlib.Data.List.Perm.Basic

/-!
# Where requests are in the pipeline

On its way through the pipeline a request is held back by the debouncer, then it is pending in the
pool of workers, and in the end there is an answer that waits in an inbox. This file says for each
part which steps take something in and which let something out, up to the order. Everything else
that may happen to the pipeline is `Calm`, in particular every `Interference` of those who make no
request.
-/

namespace CodeHints

theorem eraseIdx_perm {β : Type} {l : List β} {index : Nat} {b : β}
    (h : l[index]? = some b) : List.Perm l (b :: l.eraseIdx index) := by
  obtain ⟨hlt, rfl⟩ := List.getElem?_eq_some_iff.mp h
  exact (List.getElem_cons_eraseIdx_perm hlt).symm

/-! ## Requests that are held back -/

namespace Debouncer

variable {κ τ : Type} {d d' : Debouncer κ τ}

def tasks (d : Debouncer κ τ) : List τ := d.armed.map (·.task)

/-- At most one call is armed under a key. -/
def Unique (d : Debouncer κ τ) : Prop := (d.armed.map (·.ticket.key)).Nodup

theorem unique_empty : (empty : Debouncer κ τ).Unique := List.nodup_nil

theorem unique_cancelAll (d : Debouncer κ τ) : d.cancelAll.Unique := List.nodup_nil

variable [DecidableEq κ]

/-- The calls that are armed under a key. -/
def under (d : Debouncer κ τ) (key : κ) : List τ :=
  (d.armed.filter (·.ticket.key = key)).map (·.task)

theorem Unique.erase (h : d.Unique) (key : κ) : (d.erase key).Unique :=
  h.sublist (List.filter_sublist.map _)

theorem tasks_erase (d : Debouncer κ τ) (key : κ) :
    List.Perm d.tasks (d.under key ++ (d.erase key).tasks) := by
  rw [under, tasks, tasks, erase, ← List.map_append]
  simpa using ((List.filter_append_perm (fun x ↦ decide (x.ticket.key = key)) d.armed).map
    (·.task)).symm

theorem tasks_schedule (d : Debouncer κ τ) (key : κ) (deadline : Nat) (a : τ) :
    List.Perm (a :: d.tasks) (d.under key ++ (d.schedule key deadline a).2.tasks) := by
  have hnew : (d.schedule key deadline a).2.tasks = (d.erase key).tasks ++ [a] := by
    rw [tasks, schedule, List.map_append]
    rfl
  rw [hnew, ← List.append_assoc]
  exact ((d.tasks_erase key).cons a).trans (List.perm_append_singleton _ _).symm

theorem Unique.schedule (h : d.Unique) (key : κ) (deadline : Nat) (a : τ) :
    (d.schedule key deadline a).2.Unique := by
  have herase := h.erase key
  rw [Unique, Debouncer.schedule, List.map_append, List.nodup_append]
  refine ⟨herase, List.nodup_singleton _, ?_⟩
  intro k hk k' hk' hsame
  obtain ⟨call, hcall, rfl⟩ := List.mem_map.mp hk
  rw [List.map_singleton, List.mem_singleton] at hk'
  rw [List.mem_filter, decide_eq_true_eq] at hcall
  exact hcall.2 (hsame.trans hk')

theorem Unique.under_eq (h : d.Unique) {call : ArmedCall κ τ} (hmem : call ∈ d.armed) :
    d.under call.ticket.key = [call.task] := by
  obtain ⟨before, after, harmed⟩ := List.append_of_mem hmem
  rw [Unique, harmed, List.map_append, List.map_cons, List.nodup_middle, List.nodup_cons,
    ← List.map_append] at h
  have hnil {l : List (ArmedCall κ τ)} (hl : ∀ x ∈ l, x ∈ before ++ after) :
      l.filter (·.ticket.key = call.ticket.key) = [] := by
    rw [List.filter_eq_nil_iff]
    intro x hx hsame
    exact h.1 (List.mem_map.mpr ⟨x, hl x hx, of_decide_eq_true hsame⟩)
  rw [under, harmed, List.filter_append, hnil fun _ hx ↦ List.mem_append_left _ hx,
    List.filter_cons_of_pos (by simp), hnil fun _ hx ↦ List.mem_append_right _ hx]
  rfl

/-- The call that a timer makes was armed, and no other one leaves the table with it. -/
theorem tasks_wake (h : d.Unique) {now : Nat} {ticket : Ticket κ} {a : τ}
    (hwake : d.wake now ticket = (some a, d')) : List.Perm d.tasks (a :: d'.tasks) ∧ d'.Unique := by
  unfold wake at hwake
  split at hwake
  · next call hfind =>
    split at hwake
    · obtain ⟨ha, rfl⟩ := Prod.mk.inj hwake
      obtain rfl := Option.some.inj ha
      rw [find?] at hfind
      have hkey : call.ticket.key = ticket.key := by simpa using List.find?_some hfind
      have hunder : d.under ticket.key = [call.task] := by
        rw [← hkey]
        exact h.under_eq (List.mem_of_find?_eq_some hfind)
      have herase := d.tasks_erase ticket.key
      rw [hunder] at herase
      exact ⟨herase, h.erase _⟩
    · cases hwake
  · cases hwake

end Debouncer

/-! ## Answers that wait to be taken -/

namespace Router

variable {δ : Type} {r r' : Router δ}

/-- What waits in the inboxes. -/
def waiting (r : Router δ) : List δ := r.inboxes.flatMap (·.queue)

theorem waiting_attach (r : Router δ) (window : WindowKey) :
    (r.attach window).2.waiting = r.waiting := by
  rw [waiting, attach, List.flatMap_append]
  exact List.append_nil _

theorem waiting_deliver (r : Router δ) (window : WindowKey) (a : δ) :
    List.Perm (a :: r.waiting)
      ((if (r.deliver window a).1 then [] else [a]) ++ (r.deliver window a).2.waiting) := by
  unfold deliver
  cases htarget : r.target? window with
  | none => exact .refl _
  | some id =>
    obtain ⟨-, hheld⟩ := Option.filter_eq_some_iff.mp htarget
    obtain ⟨box, hbox⟩ : ∃ box, r.inboxes[id.index]? = some box := by
      rw [isHeld, inbox?] at hheld
      cases hbox : r.inboxes[id.index]? with
      | some box => exact ⟨box, rfl⟩
      | none => simp [hbox] at hheld
    have hperm := flatMap_modify_perm hbox
      (fun box ↦ { box with queue := box.queue ++ [a] }) (·.queue)
    classical
    refine List.perm_iff_count.mpr fun c ↦ ?_
    have hcount := hperm.count_eq c
    simp only [waiting, modify, List.count_append, if_true, List.nil_append,
      List.count_cons, List.count_nil] at hcount ⊢
    omega

theorem waiting_take? {id : InboxId} {a : δ} (h : r.take? id = some (a, r')) :
    List.Perm r.waiting (a :: r'.waiting) := by
  unfold take? queued inbox? at h
  cases hbox : r.inboxes[id.index]? with
  | none => simp [hbox] at h
  | some box =>
    cases hqueue : box.queue with
    | nil => simp [hbox, hqueue] at h
    | cons first rest =>
      simp only [hbox, Option.map_some, Option.getD_some, hqueue, Option.some.injEq,
        Prod.mk.injEq] at h
      obtain ⟨rfl, rfl⟩ := h
      have hperm := flatMap_modify_perm hbox (fun box ↦ { box with queue := rest }) (·.queue)
      classical
      refine List.perm_iff_count.mpr fun c ↦ ?_
      have hcount := hperm.count_eq c
      simp only [waiting, modify, hqueue, List.count_append, List.count_cons] at hcount ⊢
      omega

theorem waiting_drop (r : Router δ) (id : InboxId) :
    List.Perm r.waiting (r.queued id ++ (r.drop id).waiting) := by
  unfold queued inbox?
  cases hbox : r.inboxes[id.index]? with
  | none =>
    have hsame : r.drop id = r := by
      rw [drop, modify, List.modify_eq_self (by simpa using hbox)]
    rw [hsame]
    exact .refl _
  | some box =>
    have hperm := flatMap_modify_perm hbox (fun _ ↦ ⟨[], false⟩) (·.queue)
    rw [List.append_nil] at hperm
    exact hperm.symm.trans List.perm_append_comm

end Router

/-! ## What the registry does with its workers -/

namespace Registry

open WorkerPool

variable {α : Type}

theorem quiet_worker (r : Registry) (pool : WorkerPool α) (window : WindowKey) :
    pool.Quiet (r.worker pool window).2.2 := by
  unfold worker
  split
  · exact .refl _
  · exact .start _ _ _

theorem quiet_stopWorker (pool : WorkerPool α) (id : WorkerId) :
    pool.Quiet (stopWorker pool id) := by
  have hshutdown : pool.Quiet (pool.shutdown id) := .modify _ _ (fun _ ↦ rfl) fun _ ↦ rfl
  exact hshutdown.trans (.modify _ _ (fun _ ↦ rfl) fun _ ↦ rfl)

theorem quiet_removeWindow (r : Registry) (pool : WorkerPool α) (window : WindowKey) :
    pool.Quiet (r.removeWindow pool window).2 := by
  unfold removeWindow
  split
  · exact quiet_stopWorker pool _
  · exact .refl _

theorem quiet_shutdown (r : Registry) (pool : WorkerPool α) : pool.Quiet (r.shutdown pool).2 :=
  Quiet.foldl (fun pool (x : WindowKey × WorkerId) ↦ quiet_stopWorker pool x.2) _ _

theorem quiet_invalidateAll (r : Registry) (pool : WorkerPool α) :
    pool.Quiet (r.invalidateAll pool).2 := by
  have hfold (entries : List (WindowKey × WorkerId)) : ∀ (r : Registry) (pool : WorkerPool α),
      pool.Quiet (r.retireAll pool entries).2 := by
    induction entries with
    | nil => exact fun _ pool ↦ .refl pool
    | cons first rest ih =>
      intro r pool
      refine Quiet.trans ?_ (ih _ _)
      exact (Quiet.drained pool first.2).trans (Quiet.modify _ _ (fun _ ↦ rfl) fun _ ↦ rfl)
  rw [invalidateAll_eq]
  exact hfold _ _ _

end Registry

/-! ## Steps of the pipeline that no request takes part in -/

namespace Pipeline

variable {κ : Type} {p p' : Pipeline κ}

/-- No request moves. -/
structure Calm (p p' : Pipeline κ) : Prop where
  debouncer : p'.debouncer = p.debouncer
  pool : p.pool.Quiet p'.pool
  router : p'.router.waiting = p.router.waiting

theorem Calm.refl (p : Pipeline κ) : p.Calm p := ⟨rfl, .refl _, rfl⟩

theorem calm_invalidateAll (p : Pipeline κ) : p.Calm p.invalidateAll :=
  ⟨rfl, p.registry.quiet_invalidateAll p.pool, rfl⟩

theorem calm_removeWindow (p : Pipeline κ) (window : WindowKey) : p.Calm (p.removeWindow window) :=
  ⟨rfl, p.registry.quiet_removeWindow p.pool window, rfl⟩

theorem calm_shutdownRegistry (p : Pipeline κ) : p.Calm p.shutdownRegistry :=
  ⟨rfl, p.registry.quiet_shutdown p.pool, rfl⟩

theorem calm_attachWindow (p : Pipeline κ) (window : WindowKey) :
    p.Calm (p.attachWindow window).2 := ⟨rfl, .refl _, p.router.waiting_attach window⟩

theorem calm_detachWindow (p : Pipeline κ) (window : WindowKey) : p.Calm (p.detachWindow window) :=
  ⟨rfl, p.registry.quiet_removeWindow p.pool window, rfl⟩

theorem calm_observeForRegistry (p : Pipeline κ) : p.Calm p.observeForRegistry := by
  obtain ⟨observer, heq | heq⟩ := p.observeForRegistry_cases <;> rw [heq]
  · exact ⟨rfl, .refl _, rfl⟩
  · exact ⟨rfl, p.registry.quiet_invalidateAll p.pool, rfl⟩

theorem calm_observeForLog (p : Pipeline κ) : p.Calm p.observeForLog := by
  obtain ⟨observer, log, heq⟩ := p.observeForLog_cases
  rw [heq]
  exact ⟨rfl, .refl _, rfl⟩

end Pipeline

/-! ## What others do -/

/-- What may happen to the pipeline from outside, without a request. -/
inductive Interference where
  | install (settings : Settings)
  | publish (change : SettingsChange)
  | observeForRegistry
  | observeForLog
  /-- Somebody who answers a request himself hands over an environment. -/
  | insert (window : WindowKey) (generation : Nat) (daemon : Daemon)
  | invalidate
  | remove (window : WindowKey)
  | stopWorkers
  | attach (window : WindowKey)
  /-- Detach a window and stop its worker. -/
  | close (window : WindowKey)
  | detach (window : WindowKey)
  | detachAll

variable {κ : Type}

def Interference.apply (p : Pipeline κ) : Interference → Pipeline κ
  | .install settings => { p with store := (p.store.install settings).2 }
  | .publish change => { p with store := p.store.publish change }
  | .observeForRegistry => p.observeForRegistry
  | .observeForLog => p.observeForLog
  | .insert window generation daemon =>
    { p with registry := (p.registry.insert window generation daemon).2 }
  | .invalidate => p.invalidateAll
  | .remove window => p.removeWindow window
  | .stopWorkers => p.shutdownRegistry
  | .attach window => (p.attachWindow window).2
  | .close window => p.detachWindow window
  | .detach window => { p with router := p.router.detach window }
  | .detachAll => { p with router := p.router.clear }

theorem Interference.calm (p : Pipeline κ) (interference : Interference) :
    p.Calm (interference.apply p) := by
  cases interference with
  | install settings => exact ⟨rfl, .refl _, rfl⟩
  | publish change => exact ⟨rfl, .refl _, rfl⟩
  | observeForRegistry => exact p.calm_observeForRegistry
  | observeForLog => exact p.calm_observeForLog
  | insert window generation daemon => exact ⟨rfl, .refl _, rfl⟩
  | invalidate => exact p.calm_invalidateAll
  | remove window => exact p.calm_removeWindow window
  | stopWorkers => exact p.calm_shutdownRegistry
  | attach window => exact p.calm_attachWindow window
  | close window => exact p.calm_detachWindow window
  | detach window => exact ⟨rfl, .refl _, rfl⟩
  | detachAll => exact ⟨rfl, .refl _, rfl⟩

end CodeHints
