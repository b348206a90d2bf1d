import CodeHints.Proofs.Workforce.Basic

/-!
# What holds in every run of a workforce

`Sound.run` carries `Workforce.Sound` through every list of moves. The moves of the workers change
neither the registry nor what is seen of a worker from outside, and `Sound.of_turn` serves all three
of them. The other moves change one worker as a submitter may, and `Sound.of_change` says under
which conditions such a change is harmless. What remains is the start of a worker.
-/

namespace CodeHints

namespace Workforce

variable {κ : Type} {s s' : Workforce κ}

/-! ## Moves of the workers -/

/-- A move of the workers is harmless if it leaves what is seen of them from outside as it is, and
puts no job where there was none. -/
private theorem Sound.of_turn {pool : WorkerPool (Inquiry κ)} (h : s.Sound)
    (hstation : ∀ id, (pool.station id).Sound)
    (hlinked : pool.Linked (s.registry.retiring.map (·.2)))
    (hclosed : ∀ id w, (pool.station id).worker = some w → w.isClosed = true →
      WorkerPool.signalsOf w.queue = [])
    (hface : ∀ id, (pool.station id).face = (s.station id).face)
    (hsignals : ∀ id, s.pool.signalsIn id = [] → pool.signalsIn id = [])
    (htasks : ∀ id inquiry, .task inquiry ∈ (pool.station id).unfinished →
      .task inquiry ∈ (s.station id).unfinished) :
    Sound { s with pool := pool } := by
  have hserves {id : WorkerId} {window : WindowKey} (hs : s.Serves id window) :
      Serves { s with pool := pool } id window := by
    obtain ⟨w, hw, hname⟩ := hs
    obtain ⟨v, hv, hv'⟩ := Station.exists_of_face_eq (hface id) hw
    exact ⟨v, hv, hv'.1.trans hname⟩
  refine ⟨hstation, hlinked, hclosed, ?_, h.keys, ?_, ?_, ?_⟩
  · intro window id hmem
    obtain ⟨w, hw, hname, hopen, hnone⟩ := h.live window id hmem
    obtain ⟨v, hv, hv'⟩ := Station.exists_of_face_eq (hface id) hw
    exact ⟨v, hv, hv'.1.trans hname, hv'.2.1.trans hopen, hsignals id hnone⟩
  · intro id v hv
    obtain ⟨w, hw, hw'⟩ := Station.exists_of_face_eq (hface id).symm hv
    rw [← hw'.2.2]
    exact h.handles id w hw
  · intro id inquiry hmem
    exact hserves (h.placed id inquiry (htasks id inquiry hmem))
  · intro x hx
    exact hserves (h.held x hx)

theorem Sound.poll (h : s.Sound) (i : WorkerId) : (s.step (.poll i)).Sound := by
  have hspec := (s.station i).polled_spec s.pool.isResolved
  have hstation := WorkerPool.station_poll s.pool i
  refine h.of_turn (fun id ↦ ?_) (h.linked.polled (h.closed i)) (fun id w hw hclosed ↦ ?_)
    (fun id ↦ ?_) (fun id hnone ↦ ?_) fun id inquiry hmem ↦ ?_
  · rw [hstation]
    split
    · next hid => rw [hid]; exact (h.station i).polled hspec
    · exact h.station id
  · rw [hstation] at hw
    split at hw
    · next hid =>
      subst hid
      obtain hnil | ⟨v, hv, hv', hqueue⟩ := hspec.queue_of_closed hw hclosed
      · rw [hnil]
        rfl
      · rw [← hqueue]
        exact h.closed id v hv hv'
    · exact h.closed id w hw hclosed
  · rw [hstation]
    split
    · next hid => rw [hid]; exact hspec.face_eq
    · rfl
  · rw [WorkerPool.signalsIn, hstation]
    split
    · next hid => rw [hid] at hnone ⊢; rw [hspec.line_eq]; exact hnone
    · exact hnone
  · rw [hstation] at hmem
    split at hmem
    · next hid =>
      rw [hid]
      rw [hid, Station.unfinished, hspec.line_eq, hspec.running_eq] at hmem
      exact hmem
    · exact hmem

section Begun

variable {i : WorkerId} {job : Job (Inquiry κ)} {pool : WorkerPool (Inquiry κ)}

theorem worker_begun (hbegin : s.pool.begin? i = some (job, pool)) (id : WorkerId) :
    (station { s with pool := pool } id).worker = (s.station id).worker := by
  rw [station, (WorkerPool.begin?_spec hbegin).2.1]
  split <;> rfl

theorem serves_begun (hbegin : s.pool.begin? i = some (job, pool)) {id : WorkerId}
    {window : WindowKey} : Serves { s with pool := pool } id window ↔ s.Serves id window :=
  serves_congr (congrArg _ (worker_begun hbegin id))

theorem awaits_begun (hbegin : s.pool.begin? i = some (job, pool)) {id : WorkerId} {t : SignalId} :
    (station { s with pool := pool } id).Awaits t ↔ (s.station id).Awaits t := by
  rw [Station.Awaits, Station.Awaits, worker_begun hbegin]

theorem Sound.unfinished_begun (h : s.Sound) (hbegin : s.pool.begin? i = some (job, pool))
    (id : WorkerId) :
    (Workforce.station { s with pool := pool } id).unfinished = (s.station id).unfinished := by
  obtain ⟨hhead, hstation, -⟩ := WorkerPool.begin?_spec hbegin
  rw [Workforce.station, hstation]
  split
  · next hid =>
    rw [hid]
    exact (h.station i).unfinished_of_handed hhead
  · rfl

theorem Sound.hasTask_begun (h : s.Sound) (hbegin : s.pool.begin? i = some (job, pool))
    {id : WorkerId} : HasTask { s with pool := pool } id ↔ s.HasTask id := by
  rw [HasTask, HasTask, h.unfinished_begun hbegin]

end Begun

theorem Sound.begin (h : s.Sound) (i : WorkerId) : (s.step (.begin i)).Sound := by
  cases hbegin : s.pool.begin? i with
  | none =>
    rw [begin_of_none hbegin]
    exact h
  | some found =>
    obtain ⟨job, pool⟩ := found
    rw [begin_of_some hbegin]
    obtain ⟨hhead, hstation, -⟩ := WorkerPool.begin?_spec hbegin
    refine h.of_turn (fun id ↦ ?_) (h.linked.begun (h.station i) hbegin)
      (fun id w hw hclosed ↦ ?_) (fun id ↦ ?_) (fun id hnone ↦ ?_) fun id inquiry hmem ↦ ?_
    · rw [hstation]
      split
      · next hid => rw [hid]; exact (h.station i).begun hhead
      · exact h.station id
    · rw [hstation] at hw
      split at hw <;> exact h.closed id w hw hclosed
    · rw [hstation]
      split <;> rfl
    · rw [WorkerPool.Linked.signalsIn_begun (h.station i) hbegin, List.append_eq_nil_iff] at hnone
      exact hnone.2
    · rw [← h.unfinished_begun hbegin]
      exact hmem

theorem Sound.finish (h : s.Sound) (i : WorkerId) : (s.step (.finish i)).Sound := by
  have hstation := WorkerPool.station_finish s.pool i
  refine h.of_turn (fun id ↦ ?_) (h.linked.finished i) (fun id w hw hclosed ↦ ?_)
    (fun id ↦ ?_) (fun id hnone ↦ ?_) fun id inquiry hmem ↦ ?_
  · rw [hstation]
    split
    · exact (h.station id).finished
    · exact h.station id
  · rw [hstation] at hw
    split at hw
    · rw [Station.finished] at hw
      split at hw
      · exact h.closed id w hw hclosed
      · obtain ⟨v, hv, rfl⟩ := Option.map_eq_some_iff.mp hw
        exact h.closed id v hv hclosed
    · exact h.closed id w hw hclosed
  · rw [hstation]
    split
    · exact Station.finished_face _
    · rfl
  · rw [WorkerPool.signalsIn, hstation]
    split
    · rw [Station.finished_line]; exact hnone
    · exact hnone
  · rw [hstation] at hmem
    split at hmem
    · rw [Station.unfinished, Station.finished_line, Station.finished_running,
        List.nil_append] at hmem
      exact List.mem_append_right _ hmem
    · exact hmem

/-! ## A worker is changed -/

/-- A change of one worker is harmless if the worker keeps its name and its consumer, and enough
handles for those who refer to it, and is not shut down as long as the registry has it. -/
private theorem Sound.of_change {i : WorkerId}
    {f : SerialWorker (Inquiry κ) → SerialWorker (Inquiry κ)} (h : s.Sound)
    (htouches : s.Touches s' i f)
    (hlinked : s'.pool.Linked (s'.registry.retiring.map (·.2)))
    (hworkers : s'.registry.workers.Sublist s.registry.workers)
    (hworker : ∀ w, (s.station i).worker = some w →
      (w.isClosed = true ∨ (w.handles = 0 ∧ w.queue = []) →
        (f w).isClosed = true ∨ ((f w).handles = 0 ∧ (f w).queue = [])) ∧
      ((f w).isClosed = true → WorkerPool.signalsOf (f w).queue = []) ∧
      s'.references i ≤ (f w).handles)
    (hlive : ∀ window id, (window, id) ∈ s'.registry.workers → s'.pool.signalsIn id = [] ∧
      (id = i → ∀ w, (s.station i).worker = some w → (f w).isClosed = w.isClosed))
    (hreferences : ∀ id, id ≠ i → s'.references id ≤ s.references id)
    (hplaced : ∀ inquiry, .task inquiry ∈ (s'.station i).unfinished →
      s.Serves i inquiry.ask.window)
    (hheld : ∀ x ∈ s'.held, s.Serves x.2 x.1.ask.window) : s'.Sound := by
  -- the worker before and after the change
  have hfrom {w : SerialWorker (Inquiry κ)} (hw : (s'.station i).worker = some w) :
      ∃ v, (s.station i).worker = some v ∧ f v = w := by
    rw [htouches.self] at hw
    exact Option.map_eq_some_iff.mp hw
  have hto {w : SerialWorker (Inquiry κ)} (hw : (s.station i).worker = some w) :
      (s'.station i).worker = some (f w) := by
    rw [htouches.self, Station.mapWorker, hw, Option.map_some]
  refine ⟨?_, hlinked, ?_, ?_, ?_, ?_, ?_, ?_⟩
  · intro id
    by_cases hid : id = i
    · subst hid
      rw [htouches.self]
      exact (h.station id).mapWorker f htouches.consumer fun w hw ↦ (hworker w hw).1
    · rw [htouches.other hid]
      exact h.station id
  · intro id w hw hclosed
    by_cases hid : id = i
    · subst hid
      obtain ⟨v, hv, rfl⟩ := hfrom hw
      exact (hworker v hv).2.1 hclosed
    · rw [htouches.other hid] at hw
      exact h.closed id w hw hclosed
  · intro window id hmem
    obtain ⟨w, hw, hn, hopen, -⟩ := h.live window id (hworkers.subset hmem)
    obtain ⟨hnone, hkeep⟩ := hlive window id hmem
    by_cases hid : id = i
    · subst hid
      exact ⟨f w, hto hw, (htouches.name w).trans hn, (hkeep rfl w hw).trans hopen, hnone⟩
    · exact ⟨w, by rw [htouches.other hid]; exact hw, hn, hopen, hnone⟩
  · exact (hworkers.map _).nodup h.keys
  · intro id w hw
    by_cases hid : id = i
    · subst hid
      obtain ⟨v, hv, rfl⟩ := hfrom hw
      exact (hworker v hv).2.2
    · rw [htouches.other hid] at hw
      exact Nat.le_trans (hreferences id hid) (h.handles id w hw)
  · intro id inquiry hmem
    by_cases hid : id = i
    · subst hid
      exact htouches.serves.mpr (hplaced inquiry hmem)
    · rw [htouches.other hid] at hmem
      exact htouches.serves.mpr (h.placed id inquiry hmem)
  · intro x hx
    exact htouches.serves.mpr (hheld x hx)

/-! ## A worker is started -/

theorem Sound.index_lt (h : s.Sound) {id : WorkerId} (hline : (s.station id).line ≠ []) :
    id.index < s.pool.workers.length := by
  refine Nat.lt_of_not_le fun hle ↦ hline ?_
  have hw : (s.station id).worker = none := List.getElem?_eq_none hle
  have hidle := (h.station id).eq_nil_of_not_busy (by simp [Station.isBusy, hw])
  simp [Station.line, hidle.1, hw]

theorem station_enlist (s : Workforce κ) (window : WindowKey) (id : WorkerId) :
    (s.enlist window).station id =
      if id = ⟨s.pool.workers.length⟩ then
        { s.station id with
          worker := some
            (.start (Registry.workerName window) (s.registry.retiring.lookup window)) }
      else s.station id :=
  WorkerPool.station_start s.pool _ _ id

theorem Sound.station_new (h : s.Sound) :
    s.station ⟨s.pool.workers.length⟩ = ⟨none, [], []⟩ := by
  have hnone : (s.station ⟨s.pool.workers.length⟩).worker = none := s.pool.worker?_new
  have hidle := (h.station ⟨s.pool.workers.length⟩).eq_nil_of_not_busy
    (by simp [Station.isBusy, hnone])
  generalize s.station ⟨s.pool.workers.length⟩ = st at *
  cases st
  simp_all

theorem Sound.not_serves_new (h : s.Sound) (window : WindowKey) :
    ¬ s.Serves ⟨s.pool.workers.length⟩ window := by
  rintro ⟨w, hw, -⟩
  rw [h.station_new] at hw
  cases hw

theorem Sound.not_hasTask_new (h : s.Sound) : ¬ s.HasTask ⟨s.pool.workers.length⟩ := by
  rintro ⟨inquiry, hmem⟩
  rw [h.station_new] at hmem
  cases hmem

theorem Sound.references_new (h : s.Sound) : s.references ⟨s.pool.workers.length⟩ = 0 := by
  rw [references, Nat.add_eq_zero_iff, List.countP_eq_zero, List.countP_eq_zero]
  constructor
  · rintro ⟨window, i⟩ hmem hi
    obtain rfl : i = ⟨s.pool.workers.length⟩ := of_decide_eq_true hi
    obtain ⟨w, hw, hname, -⟩ := h.live window _ hmem
    exact h.not_serves_new window ⟨w, hw, hname⟩
  · rintro ⟨inquiry, i⟩ hmem hi
    obtain rfl : i = ⟨s.pool.workers.length⟩ := of_decide_eq_true hi
    exact h.not_serves_new _ (h.held _ hmem)

/-- The worker that is started is not among those that were there. -/
theorem Sound.enlist_of_serves (h : s.Sound) {id : WorkerId} {window : WindowKey}
    (hid : s.Serves id window) (other : WindowKey) :
    (s.enlist other).station id = s.station id := by
  rw [station_enlist, if_neg]
  rintro rfl
  exact h.not_serves_new window hid

theorem Sound.serves_enlist (h : s.Sound) {id : WorkerId} {window other : WindowKey} :
    (s.enlist other).Serves id window ↔
      s.Serves id window ∨ (id = ⟨s.pool.workers.length⟩ ∧ window = other) := by
  constructor
  · rintro ⟨w, hw, hname⟩
    rw [station_enlist] at hw
    split at hw
    · next hid =>
      obtain rfl := Option.some.inj hw
      exact .inr ⟨hid, (Registry.workerName_injective hname).symm⟩
    · exact .inl ⟨w, hw, hname⟩
  · rintro (⟨w, hw, hname⟩ | ⟨rfl, rfl⟩)
    · exact ⟨w, by rw [h.enlist_of_serves ⟨w, hw, hname⟩]; exact hw, hname⟩
    · exact ⟨_, by rw [station_enlist, if_pos rfl], rfl⟩

theorem Sound.line_enlist (h : s.Sound) (window : WindowKey) (id : WorkerId) :
    ((s.enlist window).station id).line = (s.station id).line := by
  rw [station_enlist]
  split
  · next hid =>
    rw [hid, h.station_new]
    rfl
  · rfl

theorem Sound.unfinished_enlist (h : s.Sound) (window : WindowKey) (id : WorkerId) :
    ((s.enlist window).station id).unfinished = (s.station id).unfinished := by
  have hrunning : ((s.enlist window).station id).running = (s.station id).running := by
    rw [station_enlist]
    split <;> rfl
  rw [Station.unfinished, Station.unfinished, hrunning, h.line_enlist]

theorem Sound.enlist (h : s.Sound) {window : WindowKey}
    (hnone : s.registry.workers.lookup window = none) : (s.enlist window).Sound := by
  have hnew := h.station_new
  have hstation := s.station_enlist window
  have hserves {id : WorkerId} {other : WindowKey} (hid : s.Serves id other) :
      (s.enlist window).Serves id other := h.serves_enlist.mpr (.inl hid)
  have hsignals (id : WorkerId) : (s.enlist window).pool.signalsIn id = s.pool.signalsIn id :=
    congrArg _ (h.line_enlist window id)
  refine ⟨?_, ?_, ?_, ?_, ?_, ?_, ?_, ?_⟩
  · intro id
    rw [hstation]
    split
    · next hid =>
      rw [hid, hnew]
      exact .started _ _
    · exact h.station id
  · refine h.linked.started (fun c hc ↦ ?_) (fun t ht ↦ ?_) fun t ht ↦ ?_
    · refine h.index_lt fun hnil ↦ hc ?_
      rw [WorkerPool.signalsIn]
      exact congrArg _ hnil
    · exact List.mem_map.mpr ⟨_, Registry.mem_of_lookup ht, rfl⟩
    · exact ((Registry.without_sublist _ _).map _).subset ht
  · intro id w hw hclosed
    rw [hstation] at hw
    split at hw
    · cases hw
      cases hclosed
    · exact h.closed id w hw hclosed
  · intro other id hmem
    rcases List.mem_append.mp hmem with hmem | hmem
    · obtain ⟨w, hw, hname, hopen, hnil⟩ := h.live other id hmem
      refine ⟨w, ?_, hname, hopen, by rw [hsignals]; exact hnil⟩
      rw [h.enlist_of_serves ⟨w, hw, hname⟩]
      exact hw
    · -- the new worker holds no signal, since it has no line yet
      obtain ⟨rfl, rfl⟩ := Prod.mk.inj (List.mem_singleton.mp hmem)
      have hstarted := hstation ⟨s.pool.workers.length⟩
      rw [if_pos rfl] at hstarted
      refine ⟨_, congrArg Station.worker hstarted, rfl, rfl, ?_⟩
      rw [hsignals, WorkerPool.signalsIn]
      change WorkerPool.signalsOf (s.station _).line = []
      rw [hnew]
      rfl
  · exact Registry.nodup_append_single h.keys hnone _
  · intro id w hw
    rw [references_enlist]
    rw [hstation] at hw
    split at hw
    · next hid =>
      subst hid
      cases hw
      rw [h.references_new, if_pos rfl]
      exact Nat.le_refl _
    · next hid =>
      rw [if_neg fun e ↦ hid e.symm]
      exact h.handles id w hw
  · intro id inquiry hmem
    rw [h.unfinished_enlist] at hmem
    exact hserves (h.placed id inquiry hmem)
  · intro x hx
    exact hserves (h.held x hx)

/-! ## Moves of submitters and of the registry -/

theorem Sound.serves (h : s.Sound) {window : WindowKey} {id : WorkerId}
    (hlive : (window, id) ∈ s.registry.workers) : s.Serves id window := by
  obtain ⟨w, hw, hname, -⟩ := h.live window id hlive
  exact ⟨w, hw, hname⟩

theorem Sound.handles_ne_zero (h : s.Sound) {id : WorkerId} {w : SerialWorker (Inquiry κ)}
    (hw : (s.station id).worker = some w)
    (href : (∃ window, (window, id) ∈ s.registry.workers) ∨ ∃ inquiry, (inquiry, id) ∈ s.held) :
    w.handles ≠ 0 := by
  have hle := h.handles id w hw
  have hpos : 0 < s.references id := by
    rw [references]
    obtain ⟨window, hmem⟩ | ⟨inquiry, hmem⟩ := href
    · exact Nat.add_pos_left (List.countP_pos_iff.mpr ⟨_, hmem, by simp⟩) _
    · exact Nat.add_pos_right _ (List.countP_pos_iff.mpr ⟨_, hmem, by simp⟩)
  omega

theorem touches_hold (s : Workforce κ) (inquiry : Inquiry κ) (i : WorkerId) :
    s.Touches (s.hold inquiry i) i .retain :=
  ⟨fun id ↦ WorkerPool.station_modify s.pool i id _, fun _ ↦ rfl, fun _ ↦ rfl⟩

theorem Sound.hold (h : s.Sound) {inquiry : Inquiry κ} {i : WorkerId}
    (hlive : (inquiry.ask.window, i) ∈ s.registry.workers) : (s.hold inquiry i).Sound := by
  have htouches := s.touches_hold inquiry i
  have hline := htouches.line fun _ ↦ rfl
  have hsignals (id : WorkerId) : (s.hold inquiry i).pool.signalsIn id = s.pool.signalsIn id :=
    congrArg _ (hline id)
  refine h.of_change htouches
    (h.linked.of_same rfl hsignals (fun _ _ ↦ htouches.awaits.mp) fun t ht ↦ ht)
    (List.Sublist.refl _)
    (fun w hw ↦ ⟨?_, h.closed i w hw, ?_⟩) (fun window id hmem ↦ ⟨?_, fun _ _ _ ↦ rfl⟩)
    (fun id hid ↦ ?_) (fun inquiry hmem ↦ ?_) fun x hx ↦ ?_
  · rintro (hclosed | ⟨hzero, -⟩)
    · exact .inl hclosed
    · exact absurd hzero (h.handles_ne_zero hw (.inl ⟨_, hlive⟩))
  · rw [references_hold, if_pos rfl]
    exact Nat.succ_le_succ (h.handles i w hw)
  · rw [hsignals]
    obtain ⟨_, _, _, _, hnil⟩ := h.live window id hmem
    exact hnil
  · rw [references_hold, if_neg (Ne.symm hid)]
    exact Nat.le_refl _
  · refine h.placed i inquiry ?_
    rw [Station.unfinished, hline, htouches.running] at hmem
    exact hmem
  · rcases List.mem_append.mp hx with hx | hx
    · exact h.held x hx
    · rw [List.mem_singleton.mp hx]
      exact h.serves hlive

theorem Sound.lookUp (h : s.Sound) (inquiry : Inquiry κ) : (s.lookUp inquiry).Sound := by
  cases hlookup : s.registry.workers.lookup inquiry.ask.window with
  | some id =>
    rw [lookUp_of_some hlookup]
    exact h.hold (Registry.mem_of_lookup hlookup)
  | none =>
    rw [lookUp_of_none hlookup]
    exact (h.enlist hlookup).hold (List.mem_append_right _ (List.mem_singleton.mpr rfl))

/-- What a submission does to the worker that accepts it. -/
def submitted (job : Job (Inquiry κ)) (w : SerialWorker (Inquiry κ)) : SerialWorker (Inquiry κ) :=
  { w with queue := w.queue ++ [job], backlog := w.backlog + 1 }

/-- What a submission does that is accepted. -/
theorem touches_accepted {pool : WorkerPool (Inquiry κ)} {i : WorkerId} {job : Job (Inquiry κ)}
    (h : s.pool.submit i job = .ok pool) (held : List (Inquiry κ × WorkerId)) :
    s.Touches ⟨s.registry, pool.release i, held⟩ i fun w ↦ (submitted job w).release := by
  refine ⟨fun id ↦ ?_, fun _ ↦ rfl, fun _ ↦ rfl⟩
  obtain ⟨w, -, -, -, hpool⟩ := WorkerPool.station_submit h
  refine (WorkerPool.station_modify pool i id _).trans ?_
  rw [hpool]
  split
  · rw [Station.mapWorker, Station.mapWorker, Station.mapWorker, Option.map_map]
    rfl
  · rfl

theorem line_accepted {pool : WorkerPool (Inquiry κ)} {i : WorkerId} {job : Job (Inquiry κ)}
    (h : s.pool.submit i job = .ok pool) (held : List (Inquiry κ × WorkerId)) (id : WorkerId) :
    (station ⟨s.registry, pool.release i, held⟩ id).line =
      (s.station id).line ++ if id = i then [job] else [] := by
  obtain ⟨w, hw, hopen, -⟩ := WorkerPool.station_submit h
  rw [(touches_accepted h held).station]
  split
  · next hid =>
    subst hid
    exact Station.line_submitted hw hopen _ rfl rfl
  · rw [List.append_nil]

section Submit

variable {index : Nat} {inquiry : Inquiry κ} {i : WorkerId}

/-- A request that is submitted gives back its handle, and nobody else loses one. -/
private theorem Sound.handles_erase (h : s.Sound) (hheld : s.held[index]? = some (inquiry, i))
    (pool : WorkerPool (Inquiry κ)) :
    (∀ w, (s.station i).worker = some w →
      references ⟨s.registry, pool, s.held.eraseIdx index⟩ i ≤ w.handles - 1) ∧
    ∀ id, id ≠ i →
      references ⟨s.registry, pool, s.held.eraseIdx index⟩ id ≤ s.references id := by
  refine ⟨fun w hw ↦ ?_, fun id _ ↦ ?_⟩
  · have hle := h.handles i w hw
    rw [references_erase hheld pool i, if_pos rfl] at hle
    omega
  · rw [references_erase hheld pool id]
    exact Nat.le_add_right _ _

private theorem Sound.submit_refused (h : s.Sound) (hheld : s.held[index]? = some (inquiry, i)) :
    Sound ⟨s.registry, s.pool.release i, s.held.eraseIdx index⟩ := by
  have htouches : s.Touches ⟨s.registry, s.pool.release i, s.held.eraseIdx index⟩ i .release :=
    ⟨fun id ↦ WorkerPool.station_modify s.pool i id _, fun _ ↦ rfl, fun _ ↦ rfl⟩
  have hline := htouches.line fun _ ↦ rfl
  have hsame (id : WorkerId) : (s.pool.release i).signalsIn id = s.pool.signalsIn id :=
    congrArg _ (hline id)
  obtain ⟨hhandles, hrest⟩ := h.handles_erase hheld (s.pool.release i)
  refine h.of_change htouches
    (h.linked.of_same rfl hsame (fun _ _ ↦ htouches.awaits.mp) fun t ht ↦ ht)
    (List.Sublist.refl _) (fun w hw ↦ ⟨?_, h.closed i w hw, hhandles w hw⟩)
    (fun window id hmem ↦ ⟨?_, fun _ _ _ ↦ rfl⟩) hrest (fun inquiry hmem ↦ ?_)
    fun x hx ↦ h.held x (List.mem_of_mem_eraseIdx hx)
  · rintro (hclosed | ⟨hzero, hnil⟩)
    · exact .inl hclosed
    · exact .inr ⟨by rw [SerialWorker.release, hzero], hnil⟩
  · obtain ⟨_, _, _, _, hnil⟩ := h.live window id hmem
    exact (hsame id).trans hnil
  · refine h.placed i inquiry ?_
    rw [Station.unfinished, hline, htouches.running] at hmem
    exact hmem

private theorem Sound.submit_accepted (h : s.Sound) (hheld : s.held[index]? = some (inquiry, i))
    {pool : WorkerPool (Inquiry κ)} (hsubmit : s.pool.submit i (.task inquiry) = .ok pool) :
    Sound ⟨s.registry, pool.release i, s.held.eraseIdx index⟩ := by
  have hmem : (inquiry, i) ∈ s.held := List.mem_of_getElem? hheld
  obtain ⟨w, hw, hopen, hsignals, -⟩ := WorkerPool.station_submit hsubmit
  have htouches := touches_accepted hsubmit (s.held.eraseIdx index)
  have hline := line_accepted hsubmit (s.held.eraseIdx index)
  have hsame (id : WorkerId) : (pool.release i).signalsIn id = s.pool.signalsIn id := by
    refine (congrArg WorkerPool.signalsOf (hline id)).trans ?_
    rw [WorkerPool.signalsOf_append]
    split <;> exact List.append_nil _
  obtain ⟨hhandles, hrest⟩ := h.handles_erase hheld (pool.release i)
  refine h.of_change htouches
    (h.linked.of_same hsignals hsame (fun _ _ ↦ htouches.awaits.mp) fun t ht ↦ ht)
    (List.Sublist.refl _) (fun v hv ↦ ⟨?_, ?_, hhandles v hv⟩)
    (fun window id hmem ↦ ⟨?_, fun _ _ _ ↦ rfl⟩) hrest (fun other hmem' ↦ ?_)
    fun x hx ↦ h.held x (List.mem_of_mem_eraseIdx hx)
  · rintro (hclosed | ⟨hzero, -⟩)
    · exact .inl hclosed
    · exact absurd hzero (h.handles_ne_zero hv (.inr ⟨_, hmem⟩))
  · intro hclosed
    obtain rfl := Option.some.inj (hv.symm.trans hw)
    rw [show v.isClosed = true from hclosed] at hopen
    cases hopen
  · obtain ⟨_, _, _, _, hnil⟩ := h.live window id hmem
    exact (hsame id).trans hnil
  · rw [Station.unfinished, htouches.running, hline, if_pos rfl, ← List.append_assoc,
      List.mem_append, List.mem_singleton] at hmem'
    obtain hold | hnew := hmem'
    · exact h.placed i other hold
    · cases hnew
      exact h.held _ hmem

theorem Sound.submit (h : s.Sound) (index : Nat) : (s.submit index).Sound := by
  cases hheld : s.held[index]? with
  | none =>
    rw [submit_of_none hheld]
    exact h
  | some found =>
    obtain ⟨inquiry, i⟩ := found
    cases hsubmit : s.pool.submit i (.task inquiry) with
    | error e =>
      rw [submit_of_error hheld hsubmit]
      exact h.submit_refused hheld
    | ok pool =>
      rw [submit_of_ok hheld hsubmit]
      exact h.submit_accepted hheld hsubmit

end Submit

/-- What letting a worker go does to it. -/
def retired (signal : SignalId) (w : SerialWorker (Inquiry κ)) : SerialWorker (Inquiry κ) :=
  (submitted (.signal signal) w).release

theorem Sound.touches_letGo (h : s.Sound) {window : WindowKey} {i : WorkerId}
    (hlive : (window, i) ∈ s.registry.workers) :
    s.Touches (s.letGo window i) i (retired ⟨s.pool.signals.length⟩) := by
  refine ⟨fun id ↦ ?_, fun _ ↦ rfl, fun _ ↦ rfl⟩
  obtain ⟨w, hw, -, hopen, -⟩ := h.live window i hlive
  refine ((Registry.letGo_spec s.registry window hw hopen).2.2 id).trans ?_
  split
  · rw [Station.mapWorker, Station.mapWorker, Station.mapWorker, Option.map_map]
    rfl
  · rfl

/-- The line of a worker that is let go ends with a new signal. -/
theorem Sound.line_letGo (h : s.Sound) {window : WindowKey} {i : WorkerId}
    (hlive : (window, i) ∈ s.registry.workers) (id : WorkerId) :
    ((s.letGo window i).station id).line =
      (s.station id).line ++ if id = i then [.signal ⟨s.pool.signals.length⟩] else [] := by
  obtain ⟨w, hw, -, hopen, -⟩ := h.live window i hlive
  rw [(h.touches_letGo hlive).station]
  split
  · next hid =>
    subst hid
    exact Station.line_submitted hw hopen _ rfl rfl
  · rw [List.append_nil]

theorem Sound.letGo (h : s.Sound) {window : WindowKey} {i : WorkerId}
    (hlive : (window, i) ∈ s.registry.workers) : (s.letGo window i).Sound := by
  obtain ⟨w, hw, -, hopen, hnone⟩ := h.live window i hlive
  obtain ⟨hretiring, hsignals, -⟩ :=
    Registry.letGo_spec s.registry window hw hopen
  have hlines (id : WorkerId) : (s.letGo window i).pool.signalsIn id =
      if id = i then s.pool.signalsIn id ++ [⟨s.pool.signals.length⟩] else s.pool.signalsIn id := by
    refine (congrArg WorkerPool.signalsOf (h.line_letGo hlive id)).trans ?_
    rw [WorkerPool.signalsOf_append]
    split
    · rfl
    · exact List.append_nil _
  have hsome {v : SerialWorker (Inquiry κ)} (hv : (s.station i).worker = some v) : v = w :=
    Option.some.inj (hv.symm.trans hw)
  have hcount := countP_without hlive
  have hreferences (id : WorkerId) : (s.letGo window i).references id =
      (Registry.without s.registry.workers window).countP (·.2 = id) +
        s.held.countP (·.2 = id) := rfl
  have htouches := h.touches_letGo hlive
  refine h.of_change htouches
    (h.linked.appended hsignals hlines (fun _ _ ↦ htouches.awaits.mp) fun t ht ↦ ?_)
    (Registry.without_sublist _ _) (fun v hv ↦ ⟨?_, ?_, ?_⟩)
    (fun other id hmem ↦ ⟨?_, fun _ _ _ ↦ rfl⟩) (fun id _ ↦ ?_) (fun other hmem ↦ ?_) h.held
  · change t ∈ (s.registry.letGo s.pool window i).1.retiring.map (·.2) at ht
    rw [hretiring, List.map_append, List.mem_append, List.map_singleton,
      List.mem_singleton] at ht
    exact ht.imp_left fun ht ↦ ((Registry.without_sublist _ _).map _).subset ht
  · rintro (hclosed | ⟨hzero, -⟩)
    · exact .inl hclosed
    · exact absurd hzero (h.handles_ne_zero hv (.inl ⟨_, hlive⟩))
  · intro hclosed
    obtain rfl := hsome hv
    rw [show v.isClosed = true from hclosed] at hopen
    cases hopen
  · have hle := h.handles i v hv
    rw [references] at hle
    rw [hreferences]
    change _ ≤ v.handles - 1
    omega
  · obtain ⟨hother, hne⟩ := Registry.mem_without.mp hmem
    obtain ⟨_, _, _, _, hnil⟩ := h.live other id hother
    rw [hlines, if_neg, hnil]
    rintro rfl
    exact hne ((h.serves hother).unique (h.serves hlive))
  · rw [hreferences, references]
    exact Nat.add_le_add_right (Registry.without_sublist _ _).countP_le _
  · rw [Station.unfinished, h.line_letGo hlive, htouches.running, if_pos rfl,
      ← List.append_assoc, List.mem_append, List.mem_singleton] at hmem
    exact h.placed i other (hmem.resolve_right (by simp))

theorem invalidate_induction {P : Workforce κ → Prop} (h : s.Sound) (hP : P s)
    (hstep : ∀ (s : Workforce κ) window id, s.Sound → P s → (window, id) ∈ s.registry.workers →
      P (s.letGo window id))
    (hrest : ∀ (s : Workforce κ) daemons generation, s.Sound → P s →
      P { s with registry := { s.registry with daemons := daemons, generation := generation } }) :
    s.invalidate.Sound ∧ P s.invalidate := by
  refine Registry.invalidateAll_induction
    (P := fun registry pool ↦ Sound ⟨registry, pool, s.held⟩ ∧ P ⟨registry, pool, s.held⟩)
    h.keys ⟨h, hP⟩ ?_ ?_
  · rintro registry pool window id ⟨hsound, hP⟩ hmem
    exact ⟨hsound.letGo hmem, hstep _ window id hsound hP hmem⟩
  · rintro registry pool daemons generation ⟨hsound, hP⟩
    exact ⟨⟨hsound.station, hsound.linked, hsound.closed, hsound.live, hsound.keys,
      hsound.handles, hsound.placed, hsound.held⟩, hrest _ daemons generation hsound hP⟩

theorem Sound.invalidate (h : s.Sound) : s.invalidate.Sound :=
  (invalidate_induction (P := fun _ ↦ True) h trivial (fun _ _ _ _ _ _ ↦ trivial)
    fun _ _ _ _ _ ↦ trivial).1

/-- What stopping a worker does to it. -/
def stopped (w : SerialWorker (Inquiry κ)) : SerialWorker (Inquiry κ) := w.shutdown.release

/-- What stopping a worker does, whatever else the registry does. -/
theorem touches_stopWorker (s : Workforce κ) {r : Registry} (i : WorkerId) :
    s.Touches ⟨r, Registry.stopWorker s.pool i, s.held⟩ i stopped := by
  refine ⟨fun id ↦ ?_, fun _ ↦ rfl, fun _ ↦ rfl⟩
  refine (WorkerPool.station_modify (s.pool.shutdown i) i id _).trans ?_
  have hshutdown : (s.pool.shutdown i).station id =
      if id = i then (s.station id).mapWorker .shutdown else s.station id :=
    WorkerPool.station_modify s.pool i id _
  rw [hshutdown]
  split
  · rw [Station.mapWorker, Station.mapWorker, Station.mapWorker, Option.map_map]
    rfl
  · rfl

theorem Sound.remove (h : s.Sound) (window : WindowKey) : (s.remove window).Sound := by
  have hspare : ∀ t ∈ (Registry.without s.registry.retiring window).map (·.2),
      t ∈ s.registry.retiring.map (·.2) := fun t ht ↦
    ((Registry.without_sublist _ _).map _).subset ht
  cases hlookup : s.registry.workers.lookup window with
  | none =>
    rw [remove_of_none hlookup]
    refine ⟨h.station, h.linked.of_same rfl (fun _ ↦ rfl) (fun _ _ ht ↦ ht) hspare, h.closed, ?_,
      ((Registry.without_sublist _ _).map _).nodup h.keys, ?_, h.placed, h.held⟩
    · intro other id hmem
      exact h.live other id (Registry.mem_without.mp hmem).1
    · intro id w hw
      exact Nat.le_trans
        (Nat.add_le_add_right (Registry.without_sublist _ _).countP_le _) (h.handles id w hw)
  | some i =>
    rw [remove_of_some hlookup]
    have hlive := Registry.mem_of_lookup hlookup
    obtain ⟨w, hw, -, hopen, hnone⟩ := h.live window i hlive
    have htouches := s.touches_stopWorker (r := (s.registry.removeWindow s.pool window).1) i
    have hcut : ((Registry.stopWorker s.pool i).station i).line = (s.station i).handed := by
      refine (congrArg Station.line htouches.self).trans ?_
      exact Station.line_closed (w := stopped w) (by rw [Station.mapWorker, hw]; rfl) rfl
    -- the worker that is stopped holds no signals, so none of them is lost
    have hnone' : WorkerPool.signalsOf (s.station i).handed = [] ∧
        WorkerPool.signalsOf w.queue = [] := by
      rw [WorkerPool.signalsIn, Station.line, WorkerPool.signalsOf_append,
        List.append_eq_nil_iff, show (s.pool.station i).worker = some w from hw,
        Option.map_some, Option.getD_some, SerialWorker.upcoming_of_open hopen] at hnone
      exact hnone
    have hlines (id : WorkerId) :
        (Registry.stopWorker s.pool i).signalsIn id = s.pool.signalsIn id := by
      by_cases hid : id = i
      · rw [hid, hnone, WorkerPool.signalsIn, hcut]
        exact hnone'.1
      · exact congrArg (fun st ↦ WorkerPool.signalsOf st.line) (htouches.other hid)
    have hcount := countP_without hlive
    refine h.of_change htouches
      (h.linked.of_same rfl hlines (fun _ _ ↦ htouches.awaits.mp) hspare)
      (Registry.without_sublist _ _) (fun v hv ↦ ⟨fun _ ↦ .inl rfl, fun _ ↦ ?_, ?_⟩)
      (fun other id hmem ↦ ⟨?_, ?_⟩) (fun id _ ↦ ?_) (fun other hmem ↦ ?_) h.held
    · obtain rfl := Option.some.inj (hv.symm.trans hw)
      exact hnone'.2
    · have hle := h.handles i v hv
      rw [references] at hle
      change (Registry.without s.registry.workers window).countP (·.2 = i) +
        s.held.countP (·.2 = i) ≤ v.handles - 1
      omega
    · obtain ⟨_, _, _, _, hnil⟩ := h.live other id (Registry.mem_without.mp hmem).1
      rw [hlines, hnil]
    · rintro rfl
      obtain ⟨hother, hne⟩ := Registry.mem_without.mp hmem
      exact absurd ((h.serves hother).unique (h.serves hlive)) hne
    · exact Nat.add_le_add_right (Registry.without_sublist _ _).countP_le _
    · refine h.placed i other ?_
      rw [Station.unfinished, htouches.running] at hmem
      change _ ∈ _ ++ ((Registry.stopWorker s.pool i).station i).line at hmem
      rw [hcut] at hmem
      rw [Station.unfinished, Station.line, ← List.append_assoc]
      exact List.mem_append_left _ hmem

/-! ## Runs -/

theorem sound_start : (start : Workforce κ).Sound := by
  refine ⟨?_, .empty, ?_, ?_, List.nodup_nil, ?_, ?_, ?_⟩
  · intro id
    exact ⟨⟨rfl⟩, fun w hw ↦ by cases hw⟩
  · intro id w hw
    cases hw
  · intro window id hmem
    cases hmem
  · intro id w hw
    cases hw
  · intro id inquiry hmem
    cases hmem
  · intro x hx
    cases hx

theorem Sound.step (h : s.Sound) (move : Move κ) : (s.step move).Sound := by
  cases move with
  | lookUp inquiry => exact h.lookUp inquiry
  | submit index => exact h.submit index
  | invalidate => exact h.invalidate
  | remove window => exact h.remove window
  | poll id => exact h.poll id
  | begin id => exact h.begin id
  | finish id => exact h.finish id

theorem Sound.run (h : s.Sound) (moves : List (Move κ)) : (s.run moves).Sound := by
  induction moves generalizing s with
  | nil => exact h
  | cons move moves ih => exact ih (h.step move)

end Workforce

end CodeHints
