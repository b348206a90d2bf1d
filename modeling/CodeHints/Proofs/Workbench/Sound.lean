import CodeHints.Proofs.Pool.Queue
import CodeHints.Proofs.Workbench.Basic

/-!
# Where every job is

Every job that was accepted is at one place at every time: it has ended, or is being run, or was
handed over, or waits in the queue, or was dropped. `Workbench.Sound` says that these places make up
the list of accepted jobs, in this order, and what has become of the promise of each job. It is
preserved by every `Workbench.Change`, and so it holds in every run.
-/

namespace CodeHints

namespace Workbench

variable {β : Type} {s s' : Workbench β}

/-- What has become of a call, and what its promise tells about it. -/
inductive Fate (s : Workbench β) (id : PromiseId) : Prop where
  | ended (result : Except Payload β) (hended : (.task (.call id), result) ∈ s.ended)
      (hget : s.promises.get id = .ofEnd (.ofResult result))
  | dropped (hdropped : .task (.call id) ∈ s.dropped) (hget : s.promises.get id = .closed)
  | pending
      (hpending : .task (.call id) ∈ s.station.running ++ (s.station.handed ++ s.station.queue))
      (hget : s.promises.get id = .pending)

/-- What holds after every event. -/
structure Sound (s : Workbench β) : Prop where
  station : s.station.Sound
  known : ∃ w, s.station.worker = some w
  /-- The order of the submissions is kept everywhere. -/
  whole : s.accepted = s.begun ++ (s.station.handed ++ (s.station.queue ++ s.dropped))
  ledger : s.begun = s.ended.map (·.1) ++ s.station.running
  /-- Only a worker that was shut down drops jobs. -/
  kept : s.dropped = [] ∨ s.isClosed = true ∧ s.station.queue = []
  emptied : ∀ w, s.station.worker = some w → w.consumer = .stopped → w.queue = []
  named : ∀ job ∈ s.accepted, s.IsKnown job
  distinct : s.accepted.Nodup
  fates : ∀ id, .task (.call id) ∈ s.accepted → s.Fate id

theorem IsKnown.mono {job : Job Commission} (h : s.IsKnown job)
    (haccepted : s.accepted.length ≤ s'.accepted.length)
    (hpromises : s.promises.all.length ≤ s'.promises.all.length)
    (hsignals : s.pool.signals.length ≤ s'.pool.signals.length) : s'.IsKnown job := by
  cases job with
  | task commission =>
    cases commission with
    | plain number => exact Nat.lt_of_lt_of_le h haccepted
    | call id => exact Nat.lt_of_lt_of_le h hpromises
  | signal id => exact Nat.lt_of_lt_of_le h hsignals

theorem Fate.mono {id : PromiseId} (h : s.Fate id) (hended : s.ended ⊆ s'.ended)
    (hdropped : s.dropped ⊆ s'.dropped)
    (hpending : .task (.call id) ∈ s.station.running ++ (s.station.handed ++ s.station.queue) →
      .task (.call id) ∈ s'.station.running ++ (s'.station.handed ++ s'.station.queue))
    (hget : s'.promises.get id = s.promises.get id) : s'.Fate id := by
  cases h with
  | ended result h hresult => exact .ended result (hended h) (hget.trans hresult)
  | dropped h hclosed => exact .dropped (hdropped h) (hget.trans hclosed)
  | pending h hwaits => exact .pending (hpending h) (hget.trans hwaits)

namespace Sound

theorem handled (h : s.Sound) {pool : WorkerPool Commission}
    {f : SerialWorker Commission → SerialWorker Commission}
    (hstation : pool.station worker = s.station.mapWorker f)
    (hsignals : s.pool.signals.length ≤ pool.signals.length)
    (hconsumer : ∀ w, (f w).consumer = w.consumer) (hqueue : ∀ w, (f w).queue = w.queue)
    (hclosed : ∀ w, w.isClosed = true → (f w).isClosed = true)
    (hstopped : ∀ w, s.station.worker = some w → MayStop w → MayStop (f w)) :
    Sound { s with pool := pool } := by
  obtain ⟨w, hw⟩ := h.known
  have hworker : (pool.station worker).worker = some (f w) := by
    rw [hstation, Station.mapWorker, hw]
    rfl
  have hqueue' : (pool.station worker).queue = s.station.queue := by
    rw [hstation, Station.queue_mapWorker _ hqueue]
  have hhanded : (pool.station worker).handed = s.station.handed := by rw [hstation]; rfl
  have hrunning : (pool.station worker).running = s.station.running := by rw [hstation]; rfl
  refine
    { station := ?station, known := ⟨f w, hworker⟩, whole := ?whole, ledger := ?ledger,
      kept := ?kept, emptied := ?emptied, named := ?named, distinct := h.distinct, fates := ?fates }
  case station =>
    change (pool.station worker).Sound
    rw [hstation]
    exact h.station.mapWorker f hconsumer hstopped
  case whole =>
    change s.accepted = s.begun ++ ((pool.station worker).handed ++
      ((pool.station worker).queue ++ s.dropped))
    rw [hhanded, hqueue']
    exact h.whole
  case ledger =>
    exact h.ledger.trans (congrArg (_ ++ ·) hrunning.symm)
  case kept =>
    refine h.kept.imp_right fun hcut ↦ ⟨?_, hqueue'.trans hcut.2⟩
    rw [isClosed_eq hworker]
    exact hclosed w ((isClosed_eq hw).symm.trans hcut.1)
  case emptied =>
    intro v hv hc
    obtain rfl := Option.some.inj (hworker.symm.trans hv)
    rw [hqueue]
    exact h.emptied w hw ((hconsumer w).symm.trans hc)
  case named =>
    exact fun job hjob ↦ (h.named job hjob).mono (Nat.le_refl _) (Nat.le_refl _) hsignals
  case fates =>
    intro id hid
    refine (h.fates id hid).mono (List.Subset.refl _) (List.Subset.refl _) (fun hpending ↦ ?_) rfl
    change _ ∈ (pool.station worker).running ++
      ((pool.station worker).handed ++ (pool.station worker).queue)
    rwa [hhanded, hrunning, hqueue']

theorem accepted (h : s.Sound) {pool : WorkerPool Commission} {promises : Promises β}
    {job : Job Commission} {w : SerialWorker Commission} (hw : s.station.worker = some w)
    (hopen : w.isClosed = false) (hheld : w.handles ≠ 0)
    (hstation : pool.station worker = s.station.mapWorker (enqueued job))
    (hsignals : s.pool.signals.length ≤ pool.signals.length)
    (hlength : s.promises.all.length ≤ promises.all.length)
    (hget : ∀ id, promises.get id = if job = .task (.call id) then .pending else s.promises.get id)
    (hfresh : ¬s.IsKnown job)
    (hknown : IsKnown { s with
      pool := pool, promises := promises, accepted := s.accepted ++ [job] } job) :
    Sound { s with pool := pool, promises := promises, accepted := s.accepted ++ [job] } := by
  have hworker : (pool.station worker).worker = some (enqueued job w) := by
    rw [hstation, Station.mapWorker, hw]
    rfl
  have hqueue : (pool.station worker).queue = s.station.queue ++ [job] := by
    rw [Station.queue, hworker, Station.queue, hw]
    rfl
  have hhanded : (pool.station worker).handed = s.station.handed := by rw [hstation]; rfl
  have hrunning : (pool.station worker).running = s.station.running := by rw [hstation]; rfl
  -- The worker was not shut down, so it has dropped nothing, and its consumer goes on.
  have hdropped : s.dropped = [] := by
    refine h.kept.resolve_right fun hcut ↦ ?_
    rw [isClosed_eq hw, hopen] at hcut
    cases hcut.1
  have hnostop : w.consumer ≠ .stopped := by
    intro hc
    obtain hclosed | ⟨hzero, -⟩ := h.station.stopped w hw hc
    · rw [hopen] at hclosed
      cases hclosed
    · exact hheld hzero
  refine
    { station := ?station, known := ⟨_, hworker⟩, whole := ?whole, ledger := ?ledger,
      kept := .inl hdropped, emptied := ?emptied, named := ?named, distinct := ?distinct,
      fates := ?fates }
  case station =>
    change (pool.station worker).Sound
    rw [hstation]
    refine h.station.mapWorker _ (fun _ ↦ rfl) fun v hv hstopped ↦ ?_
    obtain rfl := Option.some.inj (hw.symm.trans hv)
    refine .inl (hstopped.resolve_right fun hleft ↦ hheld hleft.1)
  case whole =>
    change s.accepted ++ [job] = s.begun ++ ((pool.station worker).handed ++
      ((pool.station worker).queue ++ s.dropped))
    rw [hhanded, hqueue, hdropped, h.whole, hdropped]
    simp only [List.append_assoc, List.append_nil]
  case ledger =>
    exact h.ledger.trans (congrArg (_ ++ ·) hrunning.symm)
  case emptied =>
    intro v hv hc
    obtain rfl := Option.some.inj (hworker.symm.trans hv)
    exact absurd hc hnostop
  case named =>
    intro other hother
    obtain hold | hnew := List.mem_append.mp hother
    · refine (h.named other hold).mono ?_ hlength hsignals
      exact (List.sublist_append_left _ _).length_le
    · rw [List.mem_singleton.mp hnew]
      exact hknown
  case distinct =>
    refine List.nodup_append.mpr ⟨h.distinct, List.pairwise_singleton _ _, ?_⟩
    rintro other hother _ hnew rfl
    rw [List.mem_singleton.mp hnew] at hother
    exact hfresh (h.named job hother)
  case fates =>
    intro id hid
    by_cases hjob : job = .task (.call id)
    · refine .pending ?_ ((hget id).trans (if_pos hjob))
      change _ ∈ (pool.station worker).running ++
        ((pool.station worker).handed ++ (pool.station worker).queue)
      rw [hqueue, hjob]
      simp
    · obtain hold | hnew := List.mem_append.mp hid
      · refine (h.fates id hold).mono (List.Subset.refl _) (List.Subset.refl _) (fun hpending ↦ ?_)
          ((hget id).trans (if_neg hjob))
        change _ ∈ (pool.station worker).running ++
          ((pool.station worker).handed ++ (pool.station worker).queue)
        rw [hhanded, hrunning, hqueue, ← List.append_assoc, ← List.append_assoc]
        rw [← List.append_assoc] at hpending
        exact List.mem_append_left _ hpending
      · exact absurd (List.mem_singleton.mp hnew).symm hjob

theorem polled (h : s.Sound) {pool : WorkerPool Commission} {dropped : List (Job Commission)}
    (hpolled : Station.Polled s.pool.isResolved s.station dropped (pool.station worker))
    (hsignals : pool.signals.length = s.pool.signals.length) :
    Sound { s with
      pool := pool
      promises := dropped.foldl (settle · · .cancelled) s.promises
      dropped := s.dropped ++ dropped } := by
  obtain ⟨w, hw⟩ := h.known
  obtain ⟨v, hv, -⟩ := Station.exists_of_face_eq hpolled.face_eq hw
  have hclosed : Workbench.isClosed { s with pool := pool } = s.isClosed :=
    isClosed_of_face hpolled.face_eq
  have hrunning := hpolled.running_eq
  -- What is dropped now would come before what was dropped earlier, but there cannot be both.
  have haccount : (pool.station worker).handed ++ ((pool.station worker).queue ++
      (s.dropped ++ dropped)) = s.station.handed ++ (s.station.queue ++ s.dropped) := by
    obtain ⟨rfl, hsame⟩ | ⟨-, rfl, hqueue, hhanded⟩ := hpolled.account
    · rw [List.append_nil, ← List.append_assoc, hsame, List.append_assoc]
    · obtain hnil | ⟨-, hnil⟩ := h.kept
      · rw [hqueue, hhanded, hnil, List.nil_append, List.nil_append, List.append_nil]
      · rw [hqueue, hhanded, hnil, List.append_nil]
  refine
    { station := h.station.polled hpolled, known := ⟨v, hv⟩, whole := ?whole, ledger := ?ledger,
      kept := ?kept, emptied := ?emptied, named := ?named, distinct := h.distinct, fates := ?fates }
  case whole =>
    exact h.whole.trans (congrArg (_ ++ ·) haccount.symm)
  case ledger =>
    exact h.ledger.trans (congrArg (_ ++ ·) hrunning.symm)
  case kept =>
    obtain ⟨rfl, -⟩ | ⟨⟨u, hu, hcut⟩, -, hqueue, -⟩ := hpolled.account
    · rw [List.append_nil]
      refine h.kept.imp_right fun ⟨hcut, hnil⟩ ↦ ⟨hclosed.trans hcut, ?_⟩
      rw [Station.queue_eq hv]
      have hcut' := (isClosed_eq hv).symm.trans (hclosed.trans hcut)
      obtain hempty | ⟨u, hu, -, hsame⟩ := hpolled.queue_of_closed hv hcut'
      · exact hempty
      · rw [← hsame, ← Station.queue_eq hu, hnil]
    · exact .inr ⟨hclosed.trans ((isClosed_eq hu).trans hcut), hqueue⟩
  case emptied =>
    exact fun u hu hc ↦ hpolled.queue_of_stopped h.emptied hu hc
  case named =>
    refine fun job hjob ↦ (h.named job hjob).mono (Nat.le_refl _) ?_ (Nat.le_of_eq hsignals.symm)
    exact Nat.le_of_eq (length_settleAll _ _ _).symm
  case fates =>
    intro id hid
    have hget := get_settleAll (h.named _ hid) dropped (.cancelled : TaskEnd β)
    by_cases hmem : Job.task (Commission.call id) ∈ dropped
    · exact .dropped (List.mem_append_right _ hmem) (hget.trans (if_pos hmem))
    · refine (h.fates id hid).mono (List.Subset.refl _) (List.subset_append_left _ _)
        (fun hpending ↦ ?_) (hget.trans (if_neg hmem))
      change _ ∈ (pool.station worker).running ++
        ((pool.station worker).handed ++ (pool.station worker).queue)
      obtain ⟨-, hsame⟩ | ⟨-, rfl, hqueue, hhanded⟩ := hpolled.account
      · rwa [hrunning, hsame]
      · rw [hrunning, hqueue, hhanded, List.append_nil]
        rw [← List.append_assoc] at hpending
        exact (List.mem_append.mp hpending).resolve_right hmem

theorem begun (h : s.Sound) {pool : WorkerPool Commission} {job : Job Commission}
    (hhead : s.station.handed.head? = some job)
    (hstation : pool.station worker =
      { s.station with handed := [], running := s.station.running ++ [job] })
    (hsignals : pool.signals.length = s.pool.signals.length) :
    Sound { s with pool := pool, begun := s.begun ++ [job] } := by
  obtain ⟨w, hw⟩ := h.known
  obtain ⟨hhanded, hrunning⟩ := h.station.handed_eq hhead
  have hworker : (pool.station worker).worker = some w := by rw [hstation]; exact hw
  have hqueue : (pool.station worker).queue = s.station.queue := by rw [hstation]; rfl
  have hhanded' : (pool.station worker).handed = [] := by rw [hstation]
  have hrunning' : (pool.station worker).running = s.station.running ++ [job] := by rw [hstation]
  refine
    { station := ?station, known := ⟨w, hworker⟩, whole := ?whole, ledger := ?ledger, kept := ?kept,
      emptied := ?emptied, named := ?named, distinct := h.distinct, fates := ?fates }
  case station =>
    change (pool.station worker).Sound
    rw [hstation]
    exact h.station.begun hhead
  case whole =>
    change s.accepted = s.begun ++ [job] ++ ((pool.station worker).handed ++
      ((pool.station worker).queue ++ s.dropped))
    rw [hhanded', hqueue, h.whole, hhanded, List.append_assoc]
    rfl
  case ledger =>
    change s.begun ++ [job] = s.ended.map (·.1) ++ (pool.station worker).running
    rw [hrunning', h.ledger, List.append_assoc]
  case kept =>
    refine h.kept.imp_right fun hcut ↦ ⟨?_, hqueue.trans hcut.2⟩
    rw [isClosed_eq hworker, ← isClosed_eq hw]
    exact hcut.1
  case emptied =>
    intro v hv
    obtain rfl := Option.some.inj (hworker.symm.trans hv)
    exact h.emptied w hw
  case named =>
    exact fun other hother ↦ (h.named other hother).mono (Nat.le_refl _) (Nat.le_refl _)
      (Nat.le_of_eq hsignals.symm)
  case fates =>
    intro id hid
    refine (h.fates id hid).mono (List.Subset.refl _) (List.Subset.refl _) (fun hpending ↦ ?_) rfl
    change _ ∈ (pool.station worker).running ++
      ((pool.station worker).handed ++ (pool.station worker).queue)
    rw [hhanded] at hpending
    rw [hhanded', hqueue, hrunning', List.append_assoc]
    exact hpending

theorem finished (h : s.Sound) {job : Job Commission} {rest : List (Job Commission)}
    (hrunning : s.station.running = job :: rest) (result : Except Payload β) :
    Sound { s with
      pool := s.pool.finish worker
      promises := settle s.promises job (.ofResult result)
      ended := s.ended ++ [(job, result)] } := by
  obtain ⟨w, hw⟩ := h.known
  have hstation := s.station_finish
  have hone : s.station.running = [job] := by
    have hle := h.station.running_le
    rw [hrunning, List.length_cons] at hle
    rw [hrunning, List.length_eq_zero_iff.mp (Nat.le_zero.mp (Nat.le_of_succ_le_succ hle))]
  have hworker : ((s.pool.finish worker).station worker).worker = some w.finish := by
    rw [hstation, Station.finished, if_neg (by rw [hone]; exact List.cons_ne_nil _ _),
      Station.mapWorker, hw]
    rfl
  have hqueue : ((s.pool.finish worker).station worker).queue = s.station.queue := by
    rw [hstation, Station.queue_finished]
  have hhanded : ((s.pool.finish worker).station worker).handed = s.station.handed := by
    rw [hstation, Station.handed_finished]
  have hrunning' : ((s.pool.finish worker).station worker).running = [] := by
    rw [hstation, Station.finished_running]
  refine
    { station := ?station, known := ⟨_, hworker⟩, whole := ?whole, ledger := ?ledger, kept := ?kept,
      emptied := ?emptied, named := ?named, distinct := h.distinct, fates := ?fates }
  case station =>
    change ((s.pool.finish worker).station worker).Sound
    rw [hstation]
    exact h.station.finished
  case whole =>
    change s.accepted = s.begun ++ (((s.pool.finish worker).station worker).handed ++
      (((s.pool.finish worker).station worker).queue ++ s.dropped))
    rw [hhanded, hqueue]
    exact h.whole
  case ledger =>
    change s.begun = (s.ended ++ [(job, result)]).map (·.1) ++
      ((s.pool.finish worker).station worker).running
    rw [hrunning', h.ledger, hone, List.map_append, List.append_nil]
    rfl
  case kept =>
    have hclosed : Workbench.isClosed { s with pool := s.pool.finish worker } = s.isClosed :=
      isClosed_of_face ((congrArg Station.face hstation).trans s.station.finished_face)
    exact h.kept.imp_right fun hcut ↦ ⟨hclosed.trans hcut.1, hqueue.trans hcut.2⟩
  case emptied =>
    intro v hv hc
    obtain rfl := Option.some.inj (hworker.symm.trans hv)
    cases hc
  case named =>
    refine fun other hother ↦ (h.named other hother).mono (Nat.le_refl _) ?_ ?_
    · exact Nat.le_of_eq (length_settle _ _ _).symm
    · exact Nat.le_of_eq (congrArg List.length (s.pool.finish_signals worker)).symm
  case fates =>
    intro id hid
    have hget := get_settle (h.named _ hid) job (.ofResult result)
    by_cases hjob : job = .task (.call id)
    · exact .ended result (List.mem_append_right _ (hjob ▸ List.mem_cons_self))
        (hget.trans (if_pos hjob))
    · refine (h.fates id hid).mono (List.subset_append_left _ _) (List.Subset.refl _)
        (fun hpending ↦ ?_) (hget.trans (if_neg hjob))
      change _ ∈ ((s.pool.finish worker).station worker).running ++
        (((s.pool.finish worker).station worker).handed ++
          ((s.pool.finish worker).station worker).queue)
      rw [hrunning', hhanded, hqueue]
      rw [hone] at hpending
      exact (List.mem_cons.mp hpending).resolve_left fun heq ↦ hjob heq.symm

theorem change (h : s.Sound) (hchange : s.Change s') : s'.Sound := by
  cases hchange with
  | handled pool f hstation hsignals hconsumer hqueue hclosed hstopped =>
    exact h.handled hstation hsignals hconsumer hqueue hclosed hstopped
  | accepted pool promises job w hw hopen hheld hstation hsignals hlength hget hfresh hknown =>
    exact h.accepted hw hopen hheld hstation hsignals hlength hget hfresh hknown
  | polled pool dropped hpolled hsignals => exact h.polled hpolled hsignals
  | begun pool job hhead hstation hsignals => exact h.begun hhead hstation hsignals
  | finished job rest result hrunning => exact h.finished hrunning result

theorem step (h : s.Sound) (e : BenchEvent β) : (s.step e).Sound := h.change (s.change_step e)

theorem run (h : s.Sound) (events : List (BenchEvent β)) : (s.run events).Sound := by
  induction events generalizing s with
  | nil => exact h
  | cons e events ih => exact ih (h.step e)

end Sound

theorem sound_start (name : String) (waits : Bool) : (start name waits : Workbench β).Sound := by
  have hstation : (start name waits : Workbench β).station =
      ⟨some (.start name (if waits then some ⟨0⟩ else none)), [], []⟩ := rfl
  refine ⟨?_, ⟨_, congrArg Station.worker hstation⟩, rfl, rfl, .inl rfl, ?_, nofun, .nil, nofun⟩
  · rw [hstation]
    exact .started _ _
  · intro w hw _
    obtain rfl := Option.some.inj ((congrArg Station.worker hstation).symm.trans hw)
    rfl

end Workbench

end CodeHints
