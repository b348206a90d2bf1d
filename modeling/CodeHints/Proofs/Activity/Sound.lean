import CodeHints.Proofs.Activity.Basic
import CodeHints.Proofs.Debouncing

/-!
# What a move may bring about

A request is `Ahead` as long as its job may still begin: it is held back by a timer, or its timer
has fired, or it pends with the workers. And a window may come to have an environment again as long
as there is an errand for it that `MayCache`.

`Sound` collects what holds after every run. A move that is made in a sound state `Proceeds`, which
tells everything about the move that the rest of the theory needs: nothing is ahead that was not
ahead before, unless somebody asks for it, and the registry and the errands have nothing new that
cannot be accounted for. Most moves let the pipeline subside, and for them it is shown once.
-/

namespace CodeHints

variable {κ : Type}

/-! ## What an errand may do yet -/

/-- For some replies of the analyzer there is one more access to the state. -/
def Resumption.AccessAhead {σ α : Type} : Resumption σ α → Prop
  | .done _ => False
  | .access _ _ => True
  | .call _ next => ∃ reply, (next reply).AccessAhead

/-- Until it has looked into the registry, an errand does what the code says from there on. -/
def Consultation.IsLiteral (c : Consultation κ) : Prop :=
  match c.stage with
  | .asked => c.rest = Pipeline.askSync Resumption.atomic Resumption.engine c.ask
  | .read settings =>
    c.rest = (Pipeline.getOrCreate Resumption.atomic Resumption.engine c.ask.window c.ask.vars
      settings).bind (Resumption.answerIn c.ask.context)
  | .looked .. | .passed => True

/-- Up to the look into the registry an errand only makes accesses. So if it is not about to make
one, then it is past that point, and no more is known of it. -/
theorem Consultation.IsLiteral.of_not_access {ask : Ask} {stage : Stage}
    {rest rest' : Resumption (Pipeline κ) (Outcome DaemonError (Option Answer))}
    (h : IsLiteral ⟨ask, stage, rest⟩) (hrest : ∀ update next, rest ≠ .access update next) :
    IsLiteral ⟨ask, stage, rest'⟩ := by
  cases stage with
  | asked => exact absurd (h.trans (Resumption.askSync_eq ..)) (hrest _ _)
  | read settings =>
    have heq : rest = _ := h
    rw [Resumption.getOrCreate_eq, Resumption.bind] at heq
    exact absurd heq (hrest _ _)
  | _ => exact trivial

namespace Errand

/-- The errand may hand an environment to the registry that the registry keeps. It has not looked
there yet, or it has found none in the present generation and will get one for some replies of the
analyzer. -/
def MayCache (e : Errand κ) (generation : Nat) : Prop :=
  match e.consultation.stage with
  | .asked | .read _ => True
  | .looked _ _ found => found = generation ∧ e.consultation.rest.AccessAhead
  | .passed => False

/-- What holds of every errand. -/
structure Sound (e : Errand κ) (generation : Nat) : Prop where
  conforms : e.consultation.Conforms .any
  literal : e.consultation.IsLiteral
  looked : ∀ settings seen found, e.consultation.stage = .looked settings seen found →
    found ≤ generation

/-- One errand is what has become of another one, and it may do no more. -/
structure Continues (e e' : Errand κ) (generation generation' : Nat) : Prop where
  job : e'.job = e.job
  ask : e'.consultation.ask = e.consultation.ask
  mayCache : e'.MayCache generation' → e.MayCache generation

variable {e : Errand κ} {generation generation' : Nat}

theorem sound_start (job : Option (WorkerId × κ)) (ask : Ask) (generation : Nat) :
    (start job ask).Sound generation :=
  ⟨Consultation.isAsked_askSync .any ask, rfl, fun _ _ _ h ↦ by cases h⟩

theorem Sound.mono (h : e.Sound generation) (hle : generation ≤ generation') :
    e.Sound generation' :=
  ⟨h.conforms, h.literal, fun settings seen found hstage ↦
    Nat.le_trans (h.looked settings seen found hstage) hle⟩

/-- What was found in a generation that is over is not kept. -/
theorem Sound.continues (h : e.Sound generation) (hle : generation ≤ generation') :
    e.Continues e generation generation' := by
  refine ⟨rfl, rfl, fun hmay ↦ ?_⟩
  unfold MayCache at hmay ⊢
  cases hstage : e.consultation.stage with
  | asked => exact trivial
  | read settings => exact trivial
  | looked settings seen found =>
    rw [hstage] at hmay
    have hfound := h.looked settings seen found hstage
    exact ⟨by omega, hmay.2⟩
  | passed =>
    rw [hstage] at hmay
    exact hmay

/-- A reply does not bring an errand to another stage. -/
theorem Sound.reply {job : Option (WorkerId × κ)} {ask : Ask} {stage : Stage}
    {question : EngineCall}
    {next : question.Reply → Resumption (Pipeline κ) (Outcome DaemonError (Option Answer))}
    (h : Sound ⟨job, ask, stage, .call question next⟩ generation) (reply : question.Reply) :
    Sound ⟨job, ask, stage, next reply⟩ generation ∧
      Continues ⟨job, ask, stage, .call question next⟩ ⟨job, ask, stage, next reply⟩ generation
        generation := by
  refine ⟨⟨h.conforms.reply trivial, h.literal.of_not_access (by rintro _ _ ⟨⟩), h.looked⟩, rfl,
    rfl, fun hmay ↦ ?_⟩
  cases stage with
  | looked settings seen found => exact ⟨hmay.1, reply, hmay.2⟩
  | _ => exact hmay

theorem Sound.done {job : Option (WorkerId × κ)} {ask : Ask} {stage : Stage}
    {outcome : Outcome DaemonError (Option Answer)}
    (h : Sound ⟨job, ask, stage, .done outcome⟩ generation)
    (outcome' : Outcome DaemonError (Option Answer)) :
    Sound ⟨job, ask, stage, .done outcome'⟩ generation ∧
      Continues ⟨job, ask, stage, .done outcome⟩ ⟨job, ask, stage, .done outcome'⟩ generation
        generation := by
  refine ⟨⟨?_, h.literal.of_not_access (by rintro _ _ ⟨⟩), h.looked⟩, rfl, rfl, fun hmay ↦ ?_⟩
  · cases stage <;> exact trivial
  · cases stage with
    | looked settings seen found => exact hmay.2.elim
    | _ => exact hmay

/-- What an access does: it changes nothing, or it hands over an environment. -/
theorem Sound.act {p : Pipeline κ} {job : Option (WorkerId × κ)} {ask : Ask} {stage : Stage}
    {update : Pipeline κ → Pipeline κ}
    {next : Pipeline κ → Resumption (Pipeline κ) (Outcome DaemonError (Option Answer))}
    (h : Sound ⟨job, ask, stage, .access update next⟩ p.registry.generation) :
    Sound ⟨job, ask, stage.next p ask, next p⟩ p.registry.generation ∧
      (∀ generation', Continues ⟨job, ask, stage, .access update next⟩
        ⟨job, ask, stage.next p ask, next p⟩ p.registry.generation generation') ∧
      (update p = p ∨ ∃ generation daemon, update p = { p with
          registry := (p.registry.insert ask.window generation daemon).2 } ∧
        (p.registry.generation = generation →
          MayCache ⟨job, ask, stage, .access update next⟩ p.registry.generation)) := by
  obtain ⟨hnext, hupdate⟩ := h.conforms.act p
  refine ⟨⟨hnext, ?_, ?_⟩, fun generation' ↦ ⟨rfl, rfl, fun hmay ↦ ?_⟩, ?_⟩
  · cases stage with
    | asked =>
      have hrest : Resumption.access update next =
          Pipeline.askSync Resumption.atomic Resumption.engine ask := h.literal
      rw [Resumption.askSync_eq] at hrest
      exact congrFun (Resumption.access.inj hrest).2 p
    | read settings =>
      rw [Consultation.IsLiteral, Stage.next]
      cases p.registry.lookup ask.window <;> exact trivial
    | _ => exact trivial
  · intro settings seen found hstage
    cases stage with
    | read settings =>
      rw [Stage.next] at hstage
      cases hlookup : p.registry.lookup ask.window with
      | cached found => simp [hlookup] at hstage
      | missing generation =>
        simp only [hlookup, Stage.looked.injEq] at hstage
        obtain ⟨-, hgeneration⟩ := Registry.lookup_eq_missing.mp hlookup
        omega
    | _ => cases hstage
  · cases stage with
    | asked => exact trivial
    | read settings => exact trivial
    | _ => exact hmay.elim
  · refine hupdate.imp_right ?_
    rintro ⟨settings, seen, generation, daemon, rfl, heq⟩
    exact ⟨generation, daemon, heq, fun hgeneration ↦ ⟨hgeneration.symm, trivial⟩⟩

end Errand

/-! ## What others do to the workers -/

/-- Whatever others do, there is less left to do, unless they hand over an environment. -/
theorem Interference.recedes {p : Pipeline κ} {held : List (Inquiry κ × WorkerId)}
    (h : Workforce.Sound ⟨p.registry, p.pool, held⟩) {interference : Interference}
    (hinsert : ∀ window generation daemon, interference ≠ .insert window generation daemon) :
    Workforce.Sound ⟨(interference.apply p).registry, (interference.apply p).pool, held⟩ ∧
      Workforce.Recedes ⟨p.registry, p.pool, held⟩
        ⟨(interference.apply p).registry, (interference.apply p).pool, held⟩ := by
  cases interference with
  | insert window generation daemon => exact absurd rfl (hinsert window generation daemon)
  | invalidate => exact ⟨h.invalidate, h.recedes_invalidate⟩
  | remove window => exact ⟨h.remove window, Workforce.recedes_remove _ window⟩
  | close window => exact ⟨h.remove window, Workforce.recedes_remove _ window⟩
  | stopWorkers => exact ⟨h.shutdown, Workforce.recedes_shutdown _⟩
  | observeForRegistry =>
    obtain ⟨observer, heq | heq⟩ := p.observeForRegistry_cases
    · rw [apply, heq]
      exact ⟨h, .refl _⟩
    · rw [apply, heq]
      exact ⟨h.invalidate, h.recedes_invalidate⟩
  | observeForLog =>
    obtain ⟨observer, log, heq⟩ := p.observeForLog_cases
    rw [apply, heq]
    exact ⟨h, .refl _⟩
  | _ => exact ⟨h, .refl _⟩

/-! ## Requests that are ahead -/

/-- The request is held back under a timer, or its timer has fired, or it pends with the workers. -/
def Activity.Ahead (s : Activity κ) (inquiry : Inquiry κ) : Prop :=
  inquiry ∈ s.pipeline.debouncer.tasks ∨ inquiry ∈ s.fired ∨ s.workforce.Pends inquiry

namespace ActivityMove

/-- The request that is held back from this move on. -/
def asked : ActivityMove κ → List (Inquiry κ)
  | .ask _ inquiry => [inquiry]
  | _ => []

/-- Nobody makes a request. -/
def IsSilent : ActivityMove κ → Prop
  | .ask .. | .visit _ => False
  | _ => True

end ActivityMove

namespace Activity

variable {s t : Activity κ} {move : ActivityMove κ}

/-- What holds after every run. -/
structure Sound (s : Activity κ) : Prop where
  workforce : s.workforce.Sound
  unique : s.pipeline.debouncer.Unique
  errands : ∀ e ∈ s.errands, e.Sound s.pipeline.registry.generation

/-- An errand begins in a move. -/
def Starts (s : Activity κ) (move : ActivityMove κ) (e : Errand κ) : Prop :=
  (∃ id, ∃ inquiry ∈ s.begins move, e = .start (some (id, inquiry.receiver)) inquiry.ask) ∨
    ∃ ask, move = .visit ask ∧ e = .start none ask

/-- What a move may bring about. -/
structure Proceeds (s : Activity κ) (move : ActivityMove κ) (t : Activity κ) : Prop where
  ahead : ∀ inquiry, t.Ahead inquiry → s.Ahead inquiry ∨ inquiry ∈ move.asked
  /-- Only a request whose timer has fired gets a worker for its window. -/
  workers : ∀ window id, (window, id) ∈ t.pipeline.registry.workers →
    (window, id) ∈ s.pipeline.registry.workers ∨ ∃ inquiry ∈ s.fired, inquiry.ask.window = window
  /-- Only an errand gets an environment for its window, unless others hand one over. -/
  daemons : ∀ window found, (window, found) ∈ t.pipeline.registry.daemons →
    (window, found) ∈ s.pipeline.registry.daemons ∨
      (∃ e ∈ s.errands, e.window = window ∧ e.MayCache s.pipeline.registry.generation) ∨
      ∃ generation daemon, move = .interfere (.insert window generation daemon)
  generation : s.pipeline.registry.generation ≤ t.pipeline.registry.generation
  errands : ∀ e ∈ t.errands, s.Starts move e ∨ ∃ e' ∈ s.errands,
    e'.Continues e s.pipeline.registry.generation t.pipeline.registry.generation

/-- There is less left to do. -/
structure Subsides (s t : Activity κ) : Prop where
  sound : t.workforce.Sound
  recedes : s.workforce.Recedes t.workforce
  unique : t.pipeline.debouncer.Unique
  tasks : ∀ inquiry ∈ t.pipeline.debouncer.tasks, inquiry ∈ s.pipeline.debouncer.tasks
  fired : t.fired = s.fired

theorem Starts.sound {e : Errand κ} (h : s.Starts move e) (generation : Nat) :
    e.Sound generation := by
  obtain ⟨id, inquiry, -, rfl⟩ | ⟨ask, -, rfl⟩ := h
  · exact Errand.sound_start _ _ generation
  · exact Errand.sound_start _ _ generation

private theorem Sound.proceed (h : s.Sound) (hsound : t.workforce.Sound)
    (hunique : t.pipeline.debouncer.Unique)
    (hahead : ∀ inquiry, t.Ahead inquiry → s.Ahead inquiry ∨ inquiry ∈ move.asked)
    (hworkers : ∀ window id, (window, id) ∈ t.pipeline.registry.workers →
      (window, id) ∈ s.pipeline.registry.workers ∨ ∃ inquiry ∈ s.fired, inquiry.ask.window = window)
    (hdaemons : ∀ window found, (window, found) ∈ t.pipeline.registry.daemons →
      (window, found) ∈ s.pipeline.registry.daemons ∨
        ∃ generation daemon, move = .interfere (.insert window generation daemon))
    (hgeneration : s.pipeline.registry.generation ≤ t.pipeline.registry.generation)
    (herrands : ∀ e ∈ t.errands, s.Starts move e ∨ e ∈ s.errands) :
    t.Sound ∧ s.Proceeds move t := by
  refine ⟨⟨hsound, hunique, fun e he ↦ ?_⟩, hahead, hworkers,
    fun window found hmem ↦ (hdaemons window found hmem).imp_right .inr, hgeneration,
    fun e he ↦ ?_⟩
  · rcases herrands e he with hnew | hold
    · exact hnew.sound _
    · exact (h.errands e hold).mono hgeneration
  · exact (herrands e he).imp_right fun hold ↦
      ⟨e, hold, (h.errands e hold).continues hgeneration⟩

private theorem Sound.subside (h : s.Sound) (hsubsides : s.Subsides t)
    (herrands : ∀ e ∈ t.errands, s.Starts move e ∨ e ∈ s.errands) :
    t.Sound ∧ s.Proceeds move t := by
  have hrecedes := hsubsides.recedes
  refine h.proceed hsubsides.sound hsubsides.unique ?_ (fun window id hmem ↦ ?_)
    (fun _ _ hmem ↦ .inl (hrecedes.daemons _ hmem)) hrecedes.generation herrands
  · rintro inquiry (htask | hfired | hpends)
    · exact .inl (.inl (hsubsides.tasks inquiry htask))
    · exact .inl (.inr (.inl (hsubsides.fired ▸ hfired)))
    · exact .inl (.inr (.inr (hrecedes.pends hpends)))
  · exact .inl (hrecedes.workers _ hmem)

private theorem Sound.subsides_workforce (h : s.Sound)
    (hdebouncer : t.pipeline.debouncer = s.pipeline.debouncer) (hfired : t.fired = s.fired)
    (hsound : t.workforce.Sound) (hrecedes : s.workforce.Recedes t.workforce) : s.Subsides t :=
  ⟨hsound, hrecedes, hdebouncer ▸ h.unique, fun _ hmem ↦ hdebouncer ▸ hmem, hfired⟩

private theorem Sound.aside (h : s.Sound)
    (hdebouncer : t.pipeline.debouncer = s.pipeline.debouncer) (hfired : t.fired = s.fired)
    (hworkforce : t.workforce = s.workforce)
    (herrands : ∀ e ∈ t.errands, s.Starts move e ∨ e ∈ s.errands) :
    t.Sound ∧ s.Proceeds move t :=
  h.subside (h.subsides_workforce hdebouncer hfired (hworkforce ▸ h.workforce)
    (hworkforce ▸ .refl _)) herrands

private theorem Sound.idle (h : s.Sound) : s.Sound ∧ s.Proceeds move s :=
  h.aside rfl rfl rfl fun _ he ↦ .inr he

/-! ## One move -/

private theorem Sound.ask_spec (h : s.Sound) (now : Nat) (inquiry : Inquiry κ) :
    (s.step (.ask now inquiry)).Sound ∧
      s.Proceeds (.ask now inquiry) (s.step (.ask now inquiry)) := by
  refine h.proceed h.workforce (h.unique.schedule _ _ _) ?_ (fun _ _ hmem ↦ .inl hmem)
    (fun _ _ hmem ↦ .inl hmem) (Nat.le_refl _) fun _ he ↦ .inr he
  rintro other (htask | hfired | hpends)
  · have hmem := (s.pipeline.debouncer.tasks_schedule inquiry.ask.key
      (now + s.pipeline.store.current.completionTimeout) inquiry).mem_iff.mpr
        (List.mem_append_right _ htask)
    rcases List.mem_cons.mp hmem with rfl | hold
    · exact .inr (List.mem_singleton.mpr rfl)
    · exact .inl (.inl hold)
  · exact .inl (.inr (.inl hfired))
  · exact .inl (.inr (.inr hpends))

private theorem Sound.fire_spec (h : s.Sound) (now : Nat) (ticket : Ticket DebounceKey) :
    (s.fire now ticket).Sound ∧ s.Proceeds (.fire now ticket) (s.fire now ticket) := by
  rw [fire]
  cases hwake : s.pipeline.debouncer.wake now ticket with
  | mk found debouncer =>
    cases found with
    | none => exact h.idle
    | some inquiry =>
      obtain ⟨hperm, hunique⟩ := Debouncer.tasks_wake h.unique hwake
      have hmem (other : Inquiry κ) :
          other ∈ s.pipeline.debouncer.tasks ↔ other = inquiry ∨ other ∈ debouncer.tasks :=
        hperm.mem_iff.trans List.mem_cons
      refine h.proceed h.workforce hunique ?_ (fun _ _ hmem ↦ .inl hmem)
        (fun _ _ hmem ↦ .inl hmem) (Nat.le_refl _) fun _ he ↦ .inr he
      rintro other (htask | hfired | hpends)
      · exact .inl (.inl ((hmem other).mpr (.inr htask)))
      · rcases List.mem_append.mp hfired with hold | hnew
        · exact .inl (.inr (.inl hold))
        · exact .inl (.inl ((hmem other).mpr (.inl (List.mem_singleton.mp hnew))))
      · exact .inl (.inr (.inr hpends))

private theorem Sound.lookUp_spec (h : s.Sound) (index : Nat) :
    (s.lookUp index).Sound ∧ s.Proceeds (.lookUp index) (s.lookUp index) := by
  rw [lookUp]
  cases hget : s.fired[index]? with
  | none => exact h.idle
  | some inquiry =>
    have hfired := List.mem_of_getElem? hget
    obtain ⟨hworkers, hdaemons, hgeneration⟩ := s.workforce.registry_lookUp inquiry
    refine h.proceed (h.workforce.lookUp inquiry) h.unique ?_ (fun window id hmem ↦ ?_)
      (fun _ _ hmem ↦ .inl (hdaemons ▸ hmem)) (Nat.le_of_eq hgeneration.symm) fun _ he ↦ .inr he
    · rintro other (htask | hold | hpends)
      · exact .inl (.inl htask)
      · exact .inl (.inr (.inl (List.mem_of_mem_eraseIdx hold)))
      · rcases h.workforce.pends_lookUp hpends with hold | rfl
        · exact .inl (.inr (.inr hold))
        · exact .inl (.inr (.inl hfired))
    · exact (hworkers window id hmem).imp_right fun hwindow ↦ ⟨inquiry, hfired, hwindow⟩

private theorem Sound.submit_spec (h : s.Sound) (index : Nat) :
    (s.step (.submit index)).Sound ∧ s.Proceeds (.submit index) (s.step (.submit index)) := by
  have hregistry : (s.step (.submit index)).pipeline.registry = s.pipeline.registry :=
    s.workforce.registry_submit index
  refine h.proceed (h.workforce.submit index) h.unique ?_ (fun _ _ hmem ↦ .inl (hregistry ▸ hmem))
    (fun _ _ hmem ↦ .inl (hregistry ▸ hmem))
    (Nat.le_of_eq (congrArg Registry.generation hregistry.symm)) fun _ he ↦ .inr he
  rintro inquiry (htask | hfired | hpends)
  · exact .inl (.inl htask)
  · exact .inl (.inr (.inl hfired))
  · exact .inl (.inr (.inr (Workforce.pends_submit hpends)))

private theorem Sound.begin_spec (h : s.Sound) (id : WorkerId) :
    (s.step (.begin id)).Sound ∧ s.Proceeds (.begin id) (s.step (.begin id)) := by
  cases hbegin : s.pipeline.pool.begin? id with
  | none =>
    rw [begin_of_none hbegin]
    exact h.idle
  | some found =>
    obtain ⟨job, pool⟩ := found
    have hworkforce := s.workforce_begin id
    rw [begin_of_some hbegin] at hworkforce ⊢
    refine h.subside (h.subsides_workforce rfl rfl (hworkforce ▸ h.workforce.begin id)
      (hworkforce ▸ h.workforce.recedes_begin id)) fun e he ↦ ?_
    rcases List.mem_append.mp he with hold | hnew
    · exact .inr hold
    · cases job with
      | task inquiry =>
        exact .inl (.inl ⟨id, inquiry, Workforce.mem_begins.mpr ⟨pool, hbegin⟩,
          List.mem_singleton.mp hnew⟩)
      | signal signal => cases hnew

private theorem Sound.finish_spec (h : s.Sound) (id : WorkerId) :
    (s.finish id).Sound ∧ s.Proceeds (.finish id) (s.finish id) :=
  h.subside (h.subsides_workforce rfl rfl (h.workforce.finish id)
    (Workforce.recedes_finish _ id)) fun _ he ↦ .inr (List.mem_of_mem_filter he)

/-- One errand goes on. It may deliver an answer, or hand over an environment. -/
private theorem Sound.advance (h : s.Sound) {index : Nat} {e e' : Errand κ}
    (hget : s.errands[index]? = some e) (hsound : e'.Sound s.pipeline.registry.generation)
    (hcontinues :
      e.Continues e' s.pipeline.registry.generation s.pipeline.registry.generation)
    (router : Router (Delivery κ)) (resolved : Nat) {daemons : List (WindowKey × Resolution)}
    (hdaemons : ∀ window found, (window, found) ∈ daemons →
      (window, found) ∈ s.pipeline.registry.daemons ∨
        e.window = window ∧ e.MayCache s.pipeline.registry.generation)
    (ht : t = { s with
      pipeline := { s.pipeline with
        registry := { s.pipeline.registry with daemons := daemons, resolved := resolved }
        router := router }
      errands := s.errands.set index e' }) : t.Sound ∧ s.Proceeds move t := by
  subst ht
  have hmem := List.mem_of_getElem? hget
  refine ⟨⟨h.workforce.of_registry rfl fun _ ht ↦ ht, h.unique, fun other hother ↦ ?_⟩,
    fun _ hahead ↦ .inl hahead, fun _ _ hid ↦ .inl hid, fun window found hfound ↦ ?_,
    Nat.le_refl _, fun other hother ↦ ?_⟩
  · rcases List.mem_or_eq_of_mem_set hother with hold | rfl
    · exact h.errands other hold
    · exact hsound
  · exact (hdaemons window found hfound).imp_right fun hcache ↦ .inl ⟨e, hmem, hcache⟩
  · rcases List.mem_or_eq_of_mem_set hother with hold | rfl
    · exact .inr ⟨other, hold, (h.errands other hold).continues (Nat.le_refl _)⟩
    · exact .inr ⟨e, hmem, hcontinues⟩

private theorem Sound.reply_spec (h : s.Sound) (index : Nat)
    (replies : (question : EngineCall) → question.Reply) :
    (s.reply index replies).Sound ∧ s.Proceeds (.reply index replies) (s.reply index replies) := by
  rw [reply]
  split
  · next e hget =>
    split
    · next e' hreply =>
      obtain ⟨job, ask, stage, question, next, rfl, rfl⟩ := Errand.reply?_eq_some hreply
      obtain ⟨hsound, hcontinues⟩ :=
        (h.errands _ (List.mem_of_getElem? hget)).reply (replies question)
      exact h.advance hget hsound hcontinues s.pipeline.router s.pipeline.registry.resolved
        (fun _ _ hmem ↦ .inl hmem) rfl
    · exact h.idle
  · exact h.idle

private theorem Sound.access_spec (h : s.Sound) {index : Nat} {job : Option (WorkerId × κ)}
    {ask : Ask} {stage : Stage} {update : Pipeline κ → Pipeline κ}
    {next : Pipeline κ → Resumption (Pipeline κ) (Outcome DaemonError (Option Answer))}
    (hget : s.errands[index]? = some ⟨job, ask, stage, .access update next⟩)
    (ht : t = { s with
      pipeline := update s.pipeline
      errands := s.errands.set index ⟨job, ask, stage.next s.pipeline ask, next s.pipeline⟩ }) :
    t.Sound ∧ s.Proceeds move t := by
  obtain ⟨hsound, hcontinues, hsame | ⟨generation, daemon, hupdate, hcache⟩⟩ :=
    (h.errands _ (List.mem_of_getElem? hget)).act
  · rw [hsame] at ht
    exact h.advance hget hsound (hcontinues _) s.pipeline.router s.pipeline.registry.resolved
      (fun _ _ hmem ↦ .inl hmem) ht
  · rw [hupdate] at ht
    obtain hinsert | ⟨hgeneration, hinsert⟩ :=
      s.pipeline.registry.insert_spec ask.window generation daemon
    · rw [hinsert] at ht
      exact h.advance hget hsound (hcontinues _) s.pipeline.router _ (fun _ _ hmem ↦ .inl hmem) ht
    · rw [hinsert] at ht
      refine h.advance hget hsound (hcontinues _) s.pipeline.router _ (fun window found hmem ↦ ?_)
        ht
      rcases List.mem_append.mp hmem with hold | hnew
      · exact .inl hold
      · obtain ⟨rfl, -⟩ := Prod.mk.inj (List.mem_singleton.mp hnew)
        exact .inr ⟨rfl, hcache hgeneration⟩

private theorem Sound.act_spec (h : s.Sound) (index : Nat) :
    (s.act index).Sound ∧ s.Proceeds (.act index) (s.act index) := by
  rw [act]
  split
  · next e hget =>
    split
    · next p e' hact =>
      obtain ⟨job, ask, stage, update, next, rfl, rfl, rfl⟩ |
        ⟨id, receiver, ask, stage, answer, rfl, rfl, rfl⟩ := Errand.act?_eq_some hact
      · exact h.access_spec hget rfl
      · obtain ⟨hsound, hcontinues⟩ :=
          (h.errands _ (List.mem_of_getElem? hget)).done (.value none)
        exact h.advance hget hsound hcontinues _ s.pipeline.registry.resolved
          (fun _ _ hmem ↦ .inl hmem) rfl
    · exact h.idle
  · exact h.idle

private theorem Sound.insert_spec (h : s.Sound) (window : WindowKey) (generation : Nat)
    (daemon : Daemon) :
    (s.step (.interfere (.insert window generation daemon))).Sound ∧
      s.Proceeds (.interfere (.insert window generation daemon))
        (s.step (.interfere (.insert window generation daemon))) := by
  have hstep {resolved : Nat} {daemons : List (WindowKey × Resolution)}
      (hdaemons : ∀ other found, (other, found) ∈ daemons →
        (other, found) ∈ s.pipeline.registry.daemons ∨ other = window) :
      Sound { s with pipeline := { s.pipeline with registry :=
          { s.pipeline.registry with daemons := daemons, resolved := resolved } } } ∧
        s.Proceeds (.interfere (.insert window generation daemon))
          { s with pipeline := { s.pipeline with registry :=
            { s.pipeline.registry with daemons := daemons, resolved := resolved } } } := by
    refine h.proceed (h.workforce.of_registry rfl fun _ ht ↦ ht) h.unique
      (fun _ hahead ↦ .inl hahead) (fun _ _ hmem ↦ .inl hmem) (fun other found hmem ↦ ?_)
      (Nat.le_refl _) fun _ he ↦ .inr he
    rcases hdaemons other found hmem with hold | rfl
    · exact .inl hold
    · exact .inr ⟨generation, daemon, rfl⟩
  rw [step, Interference.apply]
  obtain hinsert | ⟨-, hinsert⟩ := s.pipeline.registry.insert_spec window generation daemon
  · rw [hinsert]
    exact hstep fun _ _ hmem ↦ .inl hmem
  · rw [hinsert]
    refine hstep fun other found hmem ↦ ?_
    rcases List.mem_append.mp hmem with hold | hnew
    · exact .inl hold
    · exact .inr (Prod.mk.inj (List.mem_singleton.mp hnew)).1

private theorem Sound.interfere_spec (h : s.Sound) (interference : Interference) :
    (s.step (.interfere interference)).Sound ∧
      s.Proceeds (.interfere interference) (s.step (.interfere interference)) := by
  by_cases hinsert : ∃ window generation daemon, interference = .insert window generation daemon
  · obtain ⟨window, generation, daemon, rfl⟩ := hinsert
    exact h.insert_spec window generation daemon
  · obtain ⟨hsound, hrecedes⟩ := Interference.recedes h.workforce
      fun window generation daemon heq ↦ hinsert ⟨window, generation, daemon, heq⟩
    exact h.subside (h.subsides_workforce (interference.calm s.pipeline).debouncer rfl hsound
      hrecedes) fun _ he ↦ .inr he

theorem step_shutdown_of_true (hdown : s.pipeline.isShutDown = true) : s.step .shutdown = s := by
  rw [step, Pipeline.shutdown, if_pos hdown]

theorem step_shutdown_of_false (hdown : s.pipeline.isShutDown = false) :
    s.step .shutdown = { s with
      pipeline := { s.pipeline with isShutDown := true }.shutdownRequests } := by
  rw [step, Pipeline.shutdown, if_neg (by rw [hdown]; exact Bool.false_ne_true)]

private theorem Sound.subsides_shutdown (h : s.Sound) (down : Bool) : s.Subsides { s with
    pipeline := { s.pipeline with isShutDown := down }.shutdownRequests } :=
  ⟨h.workforce.shutdown, Workforce.recedes_shutdown _, Debouncer.unique_cancelAll _,
    fun _ hmem ↦ absurd hmem List.not_mem_nil, rfl⟩

/-- **What any move may bring about**, and that the state stays sound. -/
theorem Sound.step_spec (h : s.Sound) (move : ActivityMove κ) :
    (s.step move).Sound ∧ s.Proceeds move (s.step move) := by
  cases move with
  | ask now inquiry => exact h.ask_spec now inquiry
  | visit ask =>
    refine h.aside rfl rfl rfl fun e he ↦ ?_
    rcases List.mem_append.mp he with hold | hnew
    · exact .inr hold
    · exact .inl (.inr ⟨ask, rfl, List.mem_singleton.mp hnew⟩)
  | fire now ticket => exact h.fire_spec now ticket
  | lookUp index => exact h.lookUp_spec index
  | submit index => exact h.submit_spec index
  | poll id =>
    exact h.subside (h.subsides_workforce rfl rfl (h.workforce.poll id)
      (Workforce.recedes_poll _ id)) fun _ he ↦ .inr he
  | begin id => exact h.begin_spec id
  | finish id => exact h.finish_spec id
  | act index => exact h.act_spec index
  | reply index replies => exact h.reply_spec index replies
  | take inbox =>
    rw [step, take, Pipeline.take?]
    cases s.pipeline.router.take? inbox <;> exact h.aside rfl rfl rfl fun _ he ↦ .inr he
  | drop inbox => exact h.aside rfl rfl rfl fun _ he ↦ .inr he
  | interfere interference => exact h.interfere_spec interference
  | shutdownRequests => exact h.subside (h.subsides_shutdown _) fun _ he ↦ .inr he
  | shutdown =>
    cases hdown : s.pipeline.isShutDown with
    | true =>
      rw [step_shutdown_of_true hdown]
      exact h.idle
    | false =>
      rw [step_shutdown_of_false hdown]
      exact h.subside (h.subsides_shutdown true) fun _ he ↦ .inr he

/-! ## Runs -/

theorem sound_start (settings : Settings) (hasLog : Bool) :
    (start settings hasLog : Activity κ).Sound :=
  ⟨Workforce.sound_start, Debouncer.unique_empty, fun _ he ↦ by cases he⟩

theorem Sound.step (h : s.Sound) (move : ActivityMove κ) : (s.step move).Sound :=
  (h.step_spec move).1

theorem Sound.run (h : s.Sound) (moves : List (ActivityMove κ)) : (s.run moves).Sound := by
  induction moves generalizing s with
  | nil => exact h
  | cons move moves ih => exact ih (h.step move)

end Activity

end CodeHints
