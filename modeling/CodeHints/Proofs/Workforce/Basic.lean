import CodeHints.Pipeline.Basic
import CodeHints.Proofs.Registry
import Mathlib.Data.List.Perm.Basic

/-!
# The workers of all windows at work

A `Workforce` is the part of the pipeline that runs jobs: the registry with its workers, the pool,
and the requests whose worker has been looked up and that have not been submitted yet. Looking a
worker up and submitting to it are two steps, and anything may happen in between.

A run is a list of moves. There are the moves of those who submit and of those who change the
registry, and the moves of the workers themselves. Moves that are not possible change nothing, so
every list of moves is a run.

## What holds in every run

`Sound` collects what holds after any run. It says nothing about the order in which jobs of
different workers run; that is the subject of `CodeHints.Proofs.Workforce.Overlap`. The names of the
workers matter here: a job sits on a worker with the name of its window, and worker names tell the
windows apart, so the workers that serve a window can be found even when the registry has forgotten
them.
-/

namespace CodeHints

variable {κ : Type}

/-- The registry and the workers, and the requests that are about to be submitted, each with the
worker that was found for it. -/
structure Workforce (κ : Type) where
  registry : Registry
  pool : WorkerPool (Inquiry κ)
  held : List (Inquiry κ × WorkerId)

inductive Move (κ : Type) where
  /-- Find the worker for a request. -/
  | lookUp (inquiry : Inquiry κ)
  /-- Submit one of the requests whose worker was found. -/
  | submit (index : Nat)
  | invalidate
  | remove (window : WindowKey)
  /-- Give the consumer of a worker its turn. -/
  | poll (id : WorkerId)
  /-- Begin the job that a worker has handed over. -/
  | begin (id : WorkerId)
  /-- The job of a worker ends, by itself or by a breakdown. -/
  | finish (id : WorkerId)

namespace Workforce

def start : Workforce κ := ⟨.empty, .empty, []⟩

def lookUp (s : Workforce κ) (inquiry : Inquiry κ) : Workforce κ :=
  let (id, registry, pool) := s.registry.worker s.pool inquiry.ask.window
  ⟨registry, pool.retain id, s.held ++ [(inquiry, id)]⟩

/-- Submit a request to the worker that was found for it, and let go of the worker. -/
def submit (s : Workforce κ) (index : Nat) : Workforce κ :=
  match s.held[index]? with
  | none => s
  | some (inquiry, id) =>
    ⟨s.registry, (s.pool.offer id (.task inquiry)).release id, s.held.eraseIdx index⟩

def invalidate (s : Workforce κ) : Workforce κ :=
  let (registry, pool) := s.registry.invalidateAll s.pool
  ⟨registry, pool, s.held⟩

def remove (s : Workforce κ) (window : WindowKey) : Workforce κ :=
  let (registry, pool) := s.registry.removeWindow s.pool window
  ⟨registry, pool, s.held⟩

def step (s : Workforce κ) : Move κ → Workforce κ
  | .lookUp inquiry => s.lookUp inquiry
  | .submit index => s.submit index
  | .invalidate => s.invalidate
  | .remove window => s.remove window
  | .poll id => { s with pool := (s.pool.poll id).2 }
  | .begin id => { s with pool := ((s.pool.begin? id).map (·.2)).getD s.pool }
  | .finish id => { s with pool := s.pool.finish id }

def run (s : Workforce κ) (moves : List (Move κ)) : Workforce κ := moves.foldl step s

@[simp] theorem run_nil (s : Workforce κ) : s.run [] = s := rfl

@[simp] theorem run_cons (s : Workforce κ) (move : Move κ) (moves : List (Move κ)) :
    s.run (move :: moves) = (s.step move).run moves := rfl

theorem run_append (s : Workforce κ) (moves more : List (Move κ)) :
    s.run (moves ++ more) = (s.run moves).run more := List.foldl_append

/-- The pipeline submits a request by looking the worker up and submitting to it at once. -/
theorem submit_eq_run (p : Pipeline κ) (held : List (Inquiry κ × WorkerId)) (inquiry : Inquiry κ) :
    (⟨(p.submit inquiry).registry, (p.submit inquiry).pool, held⟩ : Workforce κ) =
      (⟨p.registry, p.pool, held⟩ : Workforce κ).run [.lookUp inquiry, .submit held.length] := by
  rw [run_cons, run_cons, run_nil]
  cases hworker : p.registry.worker p.pool inquiry.ask.window with
  | mk id rest =>
    obtain ⟨registry, pool⟩ := rest
    have hget : (held ++ [(inquiry, id)])[held.length]? = some (inquiry, id) :=
      List.getElem?_concat_length
    have herase : (held ++ [(inquiry, id)]).eraseIdx held.length = held := by
      simp [List.eraseIdx_append_of_length_le]
    simp only [step, lookUp, submit, Pipeline.submit, Pipeline.worker, hworker, hget, herase,
      pool.offer_retained]
    cases hsubmit : pool.submit id (.task inquiry) with
    | ok pool' => rw [WorkerPool.offer_of_ok hsubmit]
    | error e => rw [WorkerPool.offer_of_error hsubmit]

/-! ## Workers and windows -/

abbrev station (s : Workforce κ) (id : WorkerId) : Station (Inquiry κ) := s.pool.station id

/-- The worker is one of those that were started for the window. -/
def Serves (s : Workforce κ) (id : WorkerId) (window : WindowKey) : Prop :=
  ∃ w, (s.station id).worker = some w ∧ w.name = Registry.workerName window

theorem Serves.unique {s : Workforce κ} {id : WorkerId} {window other : WindowKey}
    (h : s.Serves id window) (h' : s.Serves id other) : window = other := by
  obtain ⟨w, hw, hname⟩ := h
  obtain ⟨w', hw', hname'⟩ := h'
  rw [hw] at hw'
  obtain rfl := Option.some.inj hw'
  exact Registry.workerName_injective (hname.symm.trans hname')

theorem Serves.index_lt {s : Workforce κ} {id : WorkerId} {window : WindowKey}
    (h : s.Serves id window) : id.index < s.pool.workers.length := by
  obtain ⟨w, hw, -⟩ := h
  exact (List.getElem?_eq_some_iff.mp hw).1

/-- The worker has a job of a request that has not ended. -/
def HasTask (s : Workforce κ) (id : WorkerId) : Prop :=
  ∃ inquiry, .task inquiry ∈ (s.station id).unfinished

/-- How often a worker is referred to. -/
def references (s : Workforce κ) (id : WorkerId) : Nat :=
  s.registry.workers.countP (·.2 = id) + s.held.countP (·.2 = id)

/-! ## The parts of a move

Looking up a worker starts one if there is none, and then takes a handle to it. An invalidation lets
one worker go after the other. -/

/-- Start the worker of a window. -/
def enlist (s : Workforce κ) (window : WindowKey) : Workforce κ :=
  ⟨{ s.registry with
      workers := s.registry.workers ++ [(window, ⟨s.pool.workers.length⟩)]
      retiring := Registry.without s.registry.retiring window },
    (s.pool.start (Registry.workerName window) (s.registry.retiring.lookup window)).2, s.held⟩

/-- Take a handle to a worker for a request. -/
def hold (s : Workforce κ) (inquiry : Inquiry κ) (id : WorkerId) : Workforce κ :=
  ⟨s.registry, s.pool.retain id, s.held ++ [(inquiry, id)]⟩

def letGo (s : Workforce κ) (window : WindowKey) (id : WorkerId) : Workforce κ :=
  ⟨(s.registry.letGo s.pool window id).1, (s.registry.letGo s.pool window id).2, s.held⟩

theorem lookUp_of_some {s : Workforce κ} {inquiry : Inquiry κ} {id : WorkerId}
    (h : s.registry.workers.lookup inquiry.ask.window = some id) :
    s.lookUp inquiry = s.hold inquiry id := by
  rw [lookUp, Registry.worker, h]
  rfl

theorem lookUp_of_none {s : Workforce κ} {inquiry : Inquiry κ}
    (h : s.registry.workers.lookup inquiry.ask.window = none) :
    s.lookUp inquiry = (s.enlist inquiry.ask.window).hold inquiry ⟨s.pool.workers.length⟩ := by
  rw [lookUp, Registry.worker, h]
  rfl

theorem submit_of_ok {s : Workforce κ} {index : Nat} {inquiry : Inquiry κ} {id : WorkerId}
    {pool : WorkerPool (Inquiry κ)} (h : s.held[index]? = some (inquiry, id))
    (hok : s.pool.submit id (.task inquiry) = .ok pool) :
    s.submit index = ⟨s.registry, pool.release id, s.held.eraseIdx index⟩ := by
  simp only [submit, h, WorkerPool.offer_of_ok hok]

theorem submit_of_error {s : Workforce κ} {index : Nat} {inquiry : Inquiry κ} {id : WorkerId}
    {e : SubmitError} (h : s.held[index]? = some (inquiry, id))
    (he : s.pool.submit id (.task inquiry) = .error e) :
    s.submit index = ⟨s.registry, s.pool.release id, s.held.eraseIdx index⟩ := by
  simp only [submit, h, WorkerPool.offer_of_error he]

theorem submit_of_none {s : Workforce κ} {index : Nat} (h : s.held[index]? = none) :
    s.submit index = s := by
  simp only [submit, h]

theorem remove_of_some {s : Workforce κ} {window : WindowKey} {id : WorkerId}
    (h : s.registry.workers.lookup window = some id) :
    s.remove window =
      ⟨(s.registry.removeWindow s.pool window).1, Registry.stopWorker s.pool id, s.held⟩ := by
  rw [remove, Registry.removeWindow, h]

theorem remove_of_none {s : Workforce κ} {window : WindowKey}
    (h : s.registry.workers.lookup window = none) :
    s.remove window = ⟨(s.registry.removeWindow s.pool window).1, s.pool, s.held⟩ := by
  rw [remove, Registry.removeWindow, h]

theorem begin_of_none {s : Workforce κ} {id : WorkerId} (h : s.pool.begin? id = none) :
    s.step (.begin id) = s := by
  simp only [step, h, Option.map_none, Option.getD_none]

theorem begin_of_some {s : Workforce κ} {id : WorkerId} {job : Job (Inquiry κ)}
    {pool : WorkerPool (Inquiry κ)} (h : s.pool.begin? id = some (job, pool)) :
    s.step (.begin id) = { s with pool := pool } := by
  simp only [step, h, Option.map_some, Option.getD_some]

/-! ## Changes of one worker -/

theorem serves_congr {s s' : Workforce κ} {id : WorkerId} {window : WindowKey}
    (h : (s'.station id).worker.map SerialWorker.name =
      (s.station id).worker.map SerialWorker.name) :
    s'.Serves id window ↔ s.Serves id window := by
  have hiff (s : Workforce κ) : s.Serves id window ↔
      (s.station id).worker.map SerialWorker.name = some (Registry.workerName window) := by
    rw [Option.map_eq_some_iff]
    rfl
  rw [hiff, hiff, h]

/-- One worker is changed, and it keeps its name and its consumer. -/
structure Touches (s s' : Workforce κ) (i : WorkerId)
    (f : SerialWorker (Inquiry κ) → SerialWorker (Inquiry κ)) : Prop where
  station : ∀ id, s'.station id = if id = i then (s.station id).mapWorker f else s.station id
  name : ∀ w, (f w).name = w.name
  consumer : ∀ w, (f w).consumer = w.consumer

namespace Touches

variable {s s' : Workforce κ} {i : WorkerId}
  {f : SerialWorker (Inquiry κ) → SerialWorker (Inquiry κ)}

theorem self (h : s.Touches s' i f) : s'.station i = (s.station i).mapWorker f := by
  rw [h.station, if_pos rfl]

theorem other (h : s.Touches s' i f) {id : WorkerId} (hid : id ≠ i) :
    s'.station id = s.station id := by
  rw [h.station, if_neg hid]

theorem serves (h : s.Touches s' i f) {id : WorkerId} {window : WindowKey} :
    s'.Serves id window ↔ s.Serves id window := by
  refine serves_congr ?_
  rw [h.station]
  split
  · rw [Station.mapWorker, Option.map_map]
    exact Option.map_congr fun w _ ↦ h.name w
  · rfl

theorem awaits (h : s.Touches s' i f) {id : WorkerId} {t : SignalId} :
    (s'.station id).Awaits t ↔ (s.station id).Awaits t := by
  rw [h.station]
  split
  · exact Station.awaits_mapWorker _ f h.consumer t
  · rfl

theorem running (h : s.Touches s' i f) (id : WorkerId) :
    (s'.station id).running = (s.station id).running := by
  rw [h.station]
  split <;> rfl

theorem hasTask (h : s.Touches s' i f) {id : WorkerId} (hid : id ≠ i) :
    s'.HasTask id ↔ s.HasTask id := by
  rw [HasTask, HasTask, h.other hid]

theorem line (h : s.Touches s' i f) (hupcoming : ∀ w, (f w).upcoming = w.upcoming)
    (id : WorkerId) : (s'.station id).line = (s.station id).line := by
  rw [h.station]
  split
  · exact Station.line_mapWorker _ f hupcoming
  · rfl

end Touches

/-! ## References -/

theorem references_hold (s : Workforce κ) (inquiry : Inquiry κ) (i id : WorkerId) :
    (s.hold inquiry i).references id = s.references id + if i = id then 1 else 0 := by
  simp only [references, hold, List.countP_append, List.countP_singleton, decide_eq_true_eq]
  omega

theorem references_enlist (s : Workforce κ) (window : WindowKey) (id : WorkerId) :
    (s.enlist window).references id =
      s.references id + if (⟨s.pool.workers.length⟩ : WorkerId) = id then 1 else 0 := by
  simp only [references, enlist, List.countP_append, List.countP_singleton, decide_eq_true_eq]
  omega

theorem countP_eraseIdx {β : Type} {l : List β} {k : Nat} {x : β} (h : l[k]? = some x)
    (q : β → Bool) : l.countP q = (l.eraseIdx k).countP q + if q x then 1 else 0 := by
  obtain ⟨hlt, rfl⟩ := List.getElem?_eq_some_iff.mp h
  rw [← (List.getElem_cons_eraseIdx_perm hlt).countP_eq q, List.countP_cons]

/-- What a request that was held referred to, when it is let go. -/
theorem references_erase {s : Workforce κ} {index : Nat} {inquiry : Inquiry κ} {i : WorkerId}
    (h : s.held[index]? = some (inquiry, i)) (pool : WorkerPool (Inquiry κ)) (id : WorkerId) :
    s.references id =
      references ⟨s.registry, pool, s.held.eraseIdx index⟩ id + if i = id then 1 else 0 := by
  simp only [references, countP_eraseIdx h (·.2 = id), decide_eq_true_eq]
  omega

theorem countP_without {entries : List (WindowKey × WorkerId)} {window : WindowKey} {i : WorkerId}
    (h : (window, i) ∈ entries) :
    (Registry.without entries window).countP (·.2 = i) + 1 ≤ entries.countP (·.2 = i) := by
  rw [List.countP_eq_countP_filter_add entries _ (·.1 ≠ window), Registry.without]
  refine Nat.add_le_add_left (List.countP_pos_iff.mpr ⟨(window, i), ?_, by simp⟩) _
  simp [h]

/-- What holds after every run. -/
structure Sound (s : Workforce κ) : Prop where
  station : ∀ id, (s.station id).Sound
  linked : s.pool.Linked (s.registry.retiring.map (·.2))
  /-- A worker that was shut down holds no signal that somebody may wait for. -/
  closed : ∀ id w, (s.station id).worker = some w → w.isClosed = true →
    WorkerPool.signalsOf w.queue = []
  live : ∀ window id, (window, id) ∈ s.registry.workers →
    ∃ w, (s.station id).worker = some w ∧ w.name = Registry.workerName window ∧
      w.isClosed = false ∧ s.pool.signalsIn id = []
  keys : (s.registry.workers.map (·.1)).Nodup
  handles : ∀ id w, (s.station id).worker = some w → s.references id ≤ w.handles
  placed : ∀ id inquiry, .task inquiry ∈ (s.station id).unfinished →
    s.Serves id inquiry.ask.window
  held : ∀ x ∈ s.held, s.Serves x.2 x.1.ask.window

end Workforce

end CodeHints
