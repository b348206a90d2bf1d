import CodeHints.Proofs.Listening.Sound

/-!
# The moves keep a state sound

One lemma for each move. For most of them it is enough to say which requests and answers go where,
and which come to an end: `flow_of_perm` turns this into a flow.
-/

namespace CodeHints.Listening

variable {analyzer : Analyzer} {s t : Listening}

/-! ## Flows of requests and answers -/

/-- The listener takes no part in a move, and the pipeline stays in order. -/
structure Intact (analyzer : Analyzer) (s t : Listening) : Prop where
  unique : t.pipeline.debouncer.Unique
  orderly : t.pipeline.pool.Orderly
  jobs : ∀ x ∈ t.jobs, x.2.Conforms analyzer
  issued : t.issued = s.issued
  state : t.state = s.state
  awaited : t.awaited = s.awaited
  ended : t.ended = s.ended

theorem recipients_perm {gone : List (Inquiry Recipient)} {lost : List (Delivery Recipient)}
    (hinquiries : List.Perm s.inquiries (gone ++ t.inquiries))
    (hdeliveries : List.Perm s.deliveries (lost ++ t.deliveries)) :
    List.Perm s.recipients
      (gone.map (·.receiver) ++ lost.map (·.receiver) ++ t.recipients) := by
  have hperm := (hinquiries.map (·.receiver)).append (hdeliveries.map (·.receiver))
  refine hperm.trans (List.perm_iff_count.mpr fun recipient ↦ ?_)
  simp only [recipients, List.map_append, List.count_append]
  omega

/-- Requests and answers move on, or end together with their places. -/
theorem Intact.flow (h : Intact analyzer s t) (fate : Fate) (gone : List (Inquiry Recipient))
    (lost : List (Delivery Recipient)) (hinquiries : List.Perm s.inquiries (gone ++ t.inquiries))
    (hdeliveries : List.Perm s.deliveries (lost ++ t.deliveries)) :
    Flow analyzer s (t.conclude fate (gone.map (·.receiver) ++ lost.map (·.receiver))) fate
      (gone.map (·.receiver) ++ lost.map (·.receiver)) := by
  refine ⟨h.unique, h.orderly, h.jobs, h.issued, ?_, ?_, ?_, ?_⟩
  · rw [conclude, h.ended]
  · have hperm := (recipients_perm hinquiries hdeliveries).filterMap Recipient.entry?
    rw [List.filterMap_append] at hperm
    exact hperm
  · exact fun inquiry hmem ↦ .inl (hinquiries.mem_iff.mpr (List.mem_append_right _ hmem))
  · exact fun delivery hmem ↦ .inl (hdeliveries.mem_iff.mpr (List.mem_append_right _ hmem))

theorem conclude_nil (s : Listening) (fate : Fate) : s.conclude fate [] = s := by
  rw [conclude, List.filterMap_nil, List.map_nil, List.append_nil]

theorem Sound.lose (h : s.Sound analyzer) (hintact : Intact analyzer s t) (fate : Fate)
    (hfate : fate ≠ .received) (gone : List (Inquiry Recipient))
    (hinquiries : List.Perm s.inquiries (gone ++ t.inquiries))
    (hdeliveries : List.Perm s.deliveries t.deliveries) :
    (t.conclude fate (gone.map (·.receiver))).Sound analyzer := by
  have hflow := hintact.flow fate gone [] hinquiries hdeliveries
  rw [List.map_nil, List.append_nil] at hflow
  exact h.flow hflow hintact.state hintact.awaited hfate

theorem Sound.move (h : s.Sound analyzer) (hintact : Intact analyzer s t)
    (hinquiries : List.Perm s.inquiries t.inquiries)
    (hdeliveries : List.Perm s.deliveries t.deliveries) : t.Sound analyzer := by
  have hlose := h.lose hintact .dropped (by decide) [] hinquiries hdeliveries
  rw [List.map_nil, conclude_nil] at hlose
  exact hlose

/-! ## The pipeline is interfered with -/

theorem Sound.interfere (h : s.Sound analyzer) {p : Pipeline Recipient}
    (hcalm : s.pipeline.Calm p) :
    Sound analyzer { s with pipeline := p } := by
  refine h.move ⟨?_, hcalm.pool.orderly h.orderly, h.jobs, rfl, rfl, rfl, rfl⟩ ?_ ?_
  · rw [hcalm.debouncer]
    exact h.unique
  · rw [inquiries, inquiries, hcalm.debouncer, hcalm.pool.pending]
  · rw [deliveries, deliveries, hcalm.router]

/-! ## Requests on their way to a worker -/

/-- A new request takes the place of those that are held back under its key. -/
theorem inquiries_ask (s : Listening) (now : Nat) (inquiry : Inquiry Recipient) :
    List.Perm (inquiry :: s.inquiries)
      (s.pipeline.debouncer.under inquiry.ask.key ++ (s.ask now inquiry).inquiries) := by
  classical
  have htasks := s.pipeline.debouncer.tasks_schedule inquiry.ask.key
    (now + s.pipeline.store.current.completionTimeout) inquiry
  refine List.perm_iff_count.mpr fun other ↦ ?_
  have hcount := htasks.count_eq other
  simp only [Listening.ask, conclude, inquiries, Pipeline.ask, List.count_append,
    List.count_cons] at hcount ⊢
  omega

theorem outstanding_ask (s : Listening) (now : Nat) (inquiry : Inquiry Recipient) :
    List.Perm (inquiry.receiver.entry?.toList ++ s.outstanding)
      (((s.pipeline.debouncer.under inquiry.ask.key).map (·.receiver)).filterMap Recipient.entry? ++
        (s.ask now inquiry).outstanding) := by
  have hperm := ((s.inquiries_ask now inquiry).map (·.receiver)).append_right
    (s.deliveries.map (·.receiver))
  rw [List.map_append, List.append_assoc] at hperm
  have hrecipients : List.Perm (inquiry.receiver :: s.recipients)
    ((s.pipeline.debouncer.under inquiry.ask.key).map (·.receiver) ++
      (s.ask now inquiry).recipients) := hperm
  have hentries := hrecipients.filterMap Recipient.entry?
  rw [List.filterMap_append, List.filterMap_cons] at hentries
  cases hentry : inquiry.receiver.entry? <;> rw [hentry] at hentries <;> exact hentries

theorem Sound.ask (h : s.Sound analyzer) (now : Nat) (ask : Ask) :
    (s.ask now ⟨ask, .other⟩).Sound analyzer := by
  have hflow : Flow analyzer s (s.ask now ⟨ask, .other⟩) .superseded
      ((s.pipeline.debouncer.under ask.key).map (·.receiver)) := by
    refine ⟨h.unique.schedule _ _ _, h.orderly, h.jobs, rfl, rfl,
      s.outstanding_ask now ⟨ask, .other⟩, ?_, fun delivery hmem ↦ .inl hmem⟩
    intro inquiry hmem
    have hmem' := (s.inquiries_ask now _).mem_iff.mpr (List.mem_append_right _ hmem)
    obtain rfl | hold := List.mem_cons.mp hmem'
    · exact .inr rfl
    · exact .inl hold
  exact h.flow hflow rfl rfl (by decide)

/-- A request with the next number is made for a place. -/
theorem Tracked.issue (h : s.Tracked analyzer) (now location : Nat) {ask : Ask} {fuzzy : Bool}
    (hrequest : ask.context.request = .autocomplete fuzzy) :
    Tracked analyzer { s.ask now ⟨ask, .listener s.issued.length location⟩ with
      issued := s.issued ++ [⟨location, ask⟩] } := by
  have hold {number : Nat} {issue : Issue} (hissue : s.issued[number]? = some issue) :
      (s.issued ++ [⟨location, ask⟩])[number]? = some issue := by
    rw [List.getElem?_append_left (List.getElem?_eq_some_iff.mp hissue).1]
    exact hissue
  refine ⟨h.unique.schedule _ _ _, h.orderly, h.jobs, ?_, ?_, ?_, ?_⟩
  · -- the new number is outstanding, and the numbers of those it supersedes have ended
    have hperm := (s.outstanding_ask now ⟨ask, .listener s.issued.length location⟩).map (·.1)
    rw [List.length_append, List.length_singleton, List.range_succ]
    refine List.Perm.trans ?_ (h.numbers.append_right _)
    change List.Perm ((s.ask now ⟨ask, .listener s.issued.length location⟩).outstanding.map (·.1) ++
      (s.ended ++ ((((s.pipeline.debouncer.under ask.key).map (·.receiver)).filterMap
        Recipient.entry?).map fun x ↦ (x.1, Fate.superseded))).map (·.1)) _
    refine List.perm_iff_count.mpr fun number ↦ ?_
    have hcount := hperm.count_eq number
    simp only [Recipient.entry?, Option.toList_some, List.map_append, List.map_map, List.map_cons,
      List.map_nil, Function.comp_def, List.count_append, List.count_cons, List.count_nil]
      at hcount ⊢
    omega
  · intro inquiry hmem number place hreceiver
    have hmem' := (s.inquiries_ask now _).mem_iff.mpr (List.mem_append_right _ hmem)
    obtain rfl | hmem' := List.mem_cons.mp hmem'
    · obtain ⟨rfl, rfl⟩ := Recipient.listener.inj hreceiver
      exact List.getElem?_concat_length
    · exact hold (h.faithful inquiry hmem' number place hreceiver)
  · intro delivery hmem number place hreceiver
    obtain ⟨other, hissue, hanswer⟩ := h.genuine delivery hmem number place hreceiver
    exact ⟨other, hold hissue, hanswer⟩
  · intro issue hmem
    obtain hmem' | hnew := List.mem_append.mp hmem
    · exact h.autocomplete issue hmem'
    · rw [List.mem_singleton.mp hnew]
      exact ⟨fuzzy, hrequest⟩

theorem Sound.wake (h : s.Sound analyzer) (now : Nat) (ticket : Ticket DebounceKey) :
    (s.wake now ticket).Sound analyzer := by
  classical
  rw [Listening.wake]
  cases hwake : s.pipeline.debouncer.wake now ticket with
  | mk found debouncer =>
    cases found with
    | none => exact h
    | some inquiry =>
      obtain ⟨htasks, hunique⟩ := Debouncer.tasks_wake h.unique hwake
      -- to find a worker may start one, which moves no request
      have hworker := s.pipeline.registry.quiet_worker s.pipeline.pool inquiry.ask.window
      have hretain (pool : WorkerPool (Inquiry Recipient)) (id : WorkerId) :
          pool.Quiet (pool.retain id) := .modify _ _ (fun _ ↦ rfl) fun _ ↦ rfl
      have hquiet := hworker.trans (hretain _
        (s.pipeline.registry.worker s.pipeline.pool inquiry.ask.window).1)
      refine h.move ⟨hunique, hquiet.orderly h.orderly, h.jobs, rfl, rfl, rfl, rfl⟩ ?_ (.refl _)
      refine List.perm_iff_count.mpr fun other ↦ ?_
      have hcount := htasks.count_eq other
      have hpending := hquiet.pending
      simp only [Pipeline.worker, inquiries, hpending, List.count_append, List.map_append,
        List.map_cons, List.map_nil, List.count_cons, List.count_nil] at hcount ⊢
      omega

theorem Sound.submit (h : s.Sound analyzer) (index : Nat) : (s.submit index).Sound analyzer := by
  classical
  rw [Listening.submit]
  cases hheld : s.held[index]? with
  | none => exact h
  | some x =>
    obtain ⟨inquiry, id⟩ := x
    have hperm := (eraseIdx_perm hheld).map (·.1)
    have hrelease (pool : WorkerPool (Inquiry Recipient)) : pool.Quiet (pool.release id) :=
      .modify _ _ (fun _ ↦ rfl) fun _ ↦ rfl
    dsimp only
    cases hsubmit : s.pipeline.pool.submit id (.task inquiry) with
    | ok pool =>
      obtain ⟨hpending, horderly⟩ := WorkerPool.pending_submit hsubmit
      refine h.move ⟨h.unique, (hrelease pool).orderly (horderly h.orderly), h.jobs, rfl, rfl, rfl,
        rfl⟩ ?_ (.refl _)
      refine List.perm_iff_count.mpr fun other ↦ ?_
      have hcount := hperm.count_eq other
      have hcount' := hpending.count_eq other
      simp only [inquiries, (hrelease pool).pending, List.count_append, List.map_cons,
        List.count_cons] at hcount hcount' ⊢
      omega
    | error e =>
      refine h.lose (t := { s with
        pipeline := { s.pipeline with pool := s.pipeline.pool.release id }
        held := s.held.eraseIdx index })
        ⟨h.unique, (hrelease _).orderly h.orderly, h.jobs, rfl, rfl, rfl, rfl⟩
        .refused (by decide) [inquiry] ?_ (.refl _)
      refine List.perm_iff_count.mpr fun other ↦ ?_
      have hcount := hperm.count_eq other
      simp only [inquiries, (hrelease _).pending, List.count_append, List.map_cons,
        List.count_cons, List.count_nil] at hcount ⊢
      omega

theorem Sound.poll (h : s.Sound analyzer) (id : WorkerId) : (s.poll id).Sound analyzer := by
  classical
  refine h.lose (t := { s with
      pipeline := { s.pipeline with pool := (s.pipeline.pool.poll id).2 } })
    ⟨h.unique, h.orderly.poll id, h.jobs, rfl, rfl, rfl, rfl⟩
    .dropped (by decide) (WorkerPool.tasksOf (s.pipeline.pool.poll id).1) ?_ (.refl _)
  refine List.perm_iff_count.mpr fun other ↦ ?_
  have hcount := (s.pipeline.pool.pending_poll id).count_eq other
  simp only [inquiries, List.count_append] at hcount ⊢
  omega

/-! ## Jobs -/

theorem Sound.begin (h : s.Sound analyzer) (id : WorkerId) : (s.begin id).Sound analyzer := by
  classical
  rw [Listening.begin, Pipeline.begin?]
  cases hbegin : s.pipeline.pool.begin? id with
  | none => exact h
  | some x =>
    obtain ⟨job, pool⟩ := x
    obtain ⟨hpending, horderly⟩ := WorkerPool.pending_begin? h.orderly hbegin
    refine h.move ⟨h.unique, horderly, ?_, rfl, rfl, rfl, rfl⟩ ?_ (.refl _)
    · intro x hx
      obtain hold | hnew := List.mem_append.mp hx
      · exact h.jobs x hold
      · rw [List.mem_singleton.mp hnew]
        exact JobState.conforms_start job
    · have hstart : ([(id, JobState.start job)].filterMap fun x ↦ x.2.inquiry?) =
          WorkerPool.tasksOf [job] := by cases job <;> rfl
      refine List.perm_iff_count.mpr fun inquiry ↦ ?_
      have hcount := hpending.count_eq inquiry
      simp only [inquiries, List.filterMap_append, hstart, List.count_append] at hcount ⊢
      omega

/-- The requests of the jobs, when one job goes on. -/
private theorem filterMap_set_perm {β γ : Type} {l : List β} {index : Nat} {b : β}
    (h : l[index]? = some b) (b' : β) (f : β → Option γ) :
    List.Perm ((l.set index b').filterMap f ++ (f b).toList) (l.filterMap f ++ (f b').toList) := by
  classical
  obtain ⟨hlt, -⟩ := List.getElem?_eq_some_iff.mp h
  have hold := (eraseIdx_perm h).filterMap f
  have hnew := (List.set_perm_cons_eraseIdx hlt b').filterMap f
  have hcons (a : β) (rest : List β) :
      (a :: rest).filterMap f = (f a).toList ++ rest.filterMap f := by
    rw [List.filterMap_cons]
    cases f a <;> rfl
  rw [hcons] at hold hnew
  refine List.perm_iff_count.mpr fun c ↦ ?_
  have hcount := hold.count_eq c
  have hcount' := hnew.count_eq c
  simp only [List.count_append] at hcount hcount' ⊢
  omega

private theorem inquiries_set_same {index : Nat} {x : WorkerId × JobState Recipient}
    (hjob : s.jobs[index]? = some x) {x' : WorkerId × JobState Recipient}
    (hsame : x'.2.inquiry? = x.2.inquiry?) :
    List.Perm s.inquiries { s with jobs := s.jobs.set index x' }.inquiries := by
  have hperm := filterMap_set_perm hjob x' fun x ↦ x.2.inquiry?
  rw [hsame] at hperm
  exact ((List.perm_append_right_iff _).mp hperm).symm.append_left _

private theorem conforms_set {index : Nat} (h : s.Sound analyzer)
    {x' : WorkerId × JobState Recipient} (hx' : x'.2.Conforms analyzer) :
    ∀ x ∈ s.jobs.set index x', x.2.Conforms analyzer := by
  intro x hx
  obtain hold | rfl := List.mem_or_eq_of_mem_set hx
  · exact h.jobs x hold
  · exact hx'

theorem Sound.reply (h : s.Sound analyzer) (index : Nat) (replies : analyzer.Replies) :
    (s.reply index replies).Sound analyzer := by
  rw [Listening.reply]
  split
  · next id job hjob =>
    split
    · next job' hreply =>
      obtain ⟨inquiry, question, next, rfl, rfl⟩ := JobState.reply?_eq_some hreply
      have hnext := h.jobs _ (List.mem_of_getElem? hjob) (replies question).1 (replies question).2
      exact h.move ⟨h.unique, h.orderly, conforms_set h hnext, rfl, rfl, rfl, rfl⟩
        (inquiries_set_same hjob rfl) (.refl _)
    · exact h
  · exact h

private theorem Sound.answer (h : s.Sound analyzer) (hintact : Intact analyzer s t)
    {inquiry : Inquiry Recipient} {answer : Answer}
    (hinquiries : List.Perm s.inquiries (inquiry :: t.inquiries))
    (hdeliveries : List.Perm (⟨inquiry.receiver, answer⟩ :: s.deliveries) t.deliveries)
    (hanswer : IsAnswer analyzer inquiry.ask.context answer) : t.Sound analyzer := by
  have hmem : inquiry ∈ s.inquiries := hinquiries.mem_iff.mpr List.mem_cons_self
  have hrecipients : List.Perm s.recipients t.recipients := by
    refine List.perm_iff_count.mpr fun recipient ↦ ?_
    have hcount := (hinquiries.map (·.receiver)).count_eq recipient
    have hcount' := (hdeliveries.map (·.receiver)).count_eq recipient
    simp only [recipients, List.count_append, List.map_cons, List.count_cons]
      at hcount hcount' ⊢
    omega
  have hflow : Flow analyzer s t .dropped [] := by
    refine ⟨hintact.unique, hintact.orderly, hintact.jobs, hintact.issued, ?_,
      hrecipients.filterMap _, ?_, ?_⟩
    · rw [hintact.ended]
      exact (List.append_nil _).symm
    · exact fun other hother ↦ .inl (hinquiries.mem_iff.mpr (List.mem_cons_of_mem _ hother))
    · intro delivery hdelivery
      obtain rfl | hold := List.mem_cons.mp (hdeliveries.mem_iff.mpr hdelivery)
      · exact .inr fun number location hreceiver ↦
          ⟨_, h.faithful inquiry hmem number location hreceiver, hanswer⟩
      · exact .inl hold
  exact h.flow hflow hintact.state hintact.awaited (by decide)

private theorem Sound.deliver (h : s.Sound analyzer) {index : Nat} {id : WorkerId}
    {inquiry : Inquiry Recipient} {answer : Answer}
    (hjob : s.jobs[index]? = some (id, .answering inquiry (.done (.value (some answer))))) :
    (s.act index).Sound analyzer := by
  classical
  have hanswer : IsAnswer analyzer inquiry.ask.context answer :=
    h.jobs _ (List.mem_of_getElem? hjob) answer rfl
  have hset := filterMap_set_perm hjob (id, .spent) fun x ↦ x.2.inquiry?
  have hwaiting := s.pipeline.router.waiting_deliver inquiry.ask.window ⟨inquiry.receiver, answer⟩
  rw [act_of_some hjob rfl, JobState.refused]
  dsimp only
  cases hdeliver : s.pipeline.router.deliver inquiry.ask.window ⟨inquiry.receiver, answer⟩ with
  | mk isAccepted router =>
    rw [hdeliver] at hwaiting
    have hintact : Intact analyzer s { s with
        pipeline := { s.pipeline with router := router }
        jobs := s.jobs.set index (id, .spent) } :=
      ⟨h.unique, h.orderly, conforms_set h trivial, rfl, rfl, rfl, rfl⟩
    have hinquiries : List.Perm s.inquiries (inquiry :: inquiries { s with
        pipeline := { s.pipeline with router := router }
        jobs := s.jobs.set index (id, .spent) }) := by
      refine List.perm_iff_count.mpr fun other ↦ ?_
      have hcount := hset.count_eq other
      simp only [inquiries, List.count_append, List.count_cons, JobState.inquiry?,
        Option.toList_some, Option.toList_none, List.count_nil] at hcount ⊢
      omega
    cases isAccepted with
    | true =>
      rw [if_pos rfl, conclude_nil]
      exact h.answer hintact hinquiries hwaiting hanswer
    | false =>
      -- nothing was put into an inbox, so the router has what it had
      exact h.lose hintact .undeliverable (by decide) [inquiry] hinquiries
        ((List.perm_cons _).mp hwaiting)

theorem Sound.act (h : s.Sound analyzer) (index : Nat) : (s.act index).Sound analyzer := by
  rw [Listening.act]
  split
  · next id job hjob =>
    split
    · next p job' hact =>
      rw [← act_of_some hjob hact]
      obtain ⟨inquiry, update, next, rfl, rfl, rfl⟩ | ⟨inquiry, answer, rfl, -, -⟩ :=
        JobState.act?_eq_some hact
      · obtain ⟨hcalm, hnext⟩ := h.jobs _ (List.mem_of_getElem? hjob)
        have hset : Sound analyzer { s with
            jobs := s.jobs.set index (id, .answering inquiry (next s.pipeline)) } :=
          h.move ⟨h.unique, h.orderly, conforms_set h (hnext _), rfl, rfl, rfl, rfl⟩
            (inquiries_set_same hjob rfl) (.refl _)
        have hact' : s.act index = { s with
            pipeline := update s.pipeline
            jobs := s.jobs.set index (id, .answering inquiry (next s.pipeline)) } :=
          (act_of_some hjob hact).trans (conclude_nil _ _)
        rw [hact']
        exact hset.interfere (hcalm s.pipeline)
      · exact h.deliver hjob
    · exact h
  · exact h

theorem Sound.finish (h : s.Sound analyzer) (index : Nat) : (s.finish index).Sound analyzer := by
  classical
  rw [Listening.finish]
  cases hjob : s.jobs[index]? with
  | none => exact h
  | some x =>
    obtain ⟨id, job⟩ := x
    have hquiet := WorkerPool.Quiet.finish s.pipeline.pool id
    refine h.lose (t := { s with pipeline := s.pipeline.finish id, jobs := s.jobs.eraseIdx index })
      ⟨h.unique, hquiet.orderly h.orderly, ?_, rfl, rfl, rfl, rfl⟩
      .unanswered (by decide) job.inquiry?.toList ?_ (.refl _)
    · exact fun x hx ↦ h.jobs x (List.mem_of_mem_eraseIdx hx)
    · have hperm := (eraseIdx_perm hjob).filterMap fun x ↦ x.2.inquiry?
      refine List.perm_iff_count.mpr fun other ↦ ?_
      have hcount := hperm.count_eq other
      simp only [inquiries, Pipeline.finish, hquiet.pending, List.count_append,
        List.filterMap_cons] at hcount ⊢
      cases hinquiry : job.inquiry? with
      | none =>
        simp only [hinquiry, Option.toList_none, List.count_nil] at hcount ⊢
        omega
      | some inquiry =>
        simp only [hinquiry, Option.toList_some, List.count_cons, List.count_nil] at hcount ⊢
        omega

/-! ## Ends -/

theorem Sound.drop (h : s.Sound analyzer) (inbox : InboxId) : (s.drop inbox).Sound analyzer := by
  have hintact : Intact analyzer s
      { s with pipeline := { s.pipeline with router := s.pipeline.router.drop inbox } } :=
    ⟨h.unique, h.orderly, h.jobs, rfl, rfl, rfl, rfl⟩
  have hflow := hintact.flow .discarded [] _ (.refl _) (s.pipeline.router.waiting_drop inbox)
  rw [List.map_nil, List.nil_append] at hflow
  exact h.flow hflow rfl rfl (by decide)

theorem Sound.shutdownRequests (h : s.Sound analyzer) : s.shutdownRequests.Sound analyzer := by
  classical
  have hquiet := s.pipeline.registry.quiet_shutdown s.pipeline.pool
  refine h.lose (t := { s with pipeline := s.pipeline.shutdownRequests })
    ⟨Debouncer.unique_cancelAll _, hquiet.orderly h.orderly, h.jobs, rfl, rfl, rfl, rfl⟩
    .cancelled (by decide) s.pipeline.debouncer.tasks ?_ (.refl _)
  refine List.perm_iff_count.mpr fun other ↦ ?_
  have hpending : s.pipeline.shutdownRequests.pool.pending = s.pipeline.pool.pending :=
    hquiet.pending
  have htasks : s.pipeline.shutdownRequests.debouncer.tasks = [] := rfl
  simp only [inquiries, hpending, htasks, List.count_append, List.count_nil]
  omega

theorem Sound.shutdown (h : s.Sound analyzer) : s.shutdown.Sound analyzer := by
  rw [Listening.shutdown]
  split
  · exact h
  · refine Sound.shutdownRequests (h.interfere ?_)
    exact ⟨rfl, .refl _, rfl⟩

end CodeHints.Listening
