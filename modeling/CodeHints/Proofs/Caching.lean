import CodeHints.Proofs.Registry
import CodeHints.Proofs.Resumption

/-!
# Environments are kept for one generation

Any number of calls ask for the environments of any windows. Each of them looks into the registry,
and if there is no environment it resolves one and hands it over. Between the two, other calls may
have handed over theirs, and the registry may have been invalidated any number of times. A `Caching`
is the state of all this, and its runs are lists of events in any order.

## Bookkeeping

The registry knows in which generation it is, but not in which one the environments that it keeps
were asked for. The state dates each look and each hand-over by the number of invalidations before
it, and keeps the hand-overs in their order. An environment has the number of its hand-over, so this
is enough to tell where it comes from. None of it has any influence on the registry.

## What holds after every run

What the registry keeps for a window is the environment of the first hand-over that was looked for
and made since the last invalidation (`Sound.kept`). Hence nothing older is kept, and a call returns
this environment unless an invalidation came between its look and its end (`Returns`).

Main result: `run_keepsOneGeneration`.
-/

namespace CodeHints

/-! ## The state -/

/-- How far a call has come, with the number of invalidations before its look and before its end. -/
inductive Retrieval.Stage where
  | called
  /-- It has found no environment. -/
  | looked (looked : Nat)
  /-- It will not access the registry any more. -/
  | ended (looked ended : Nat)

/-- A call for the environment of a window. -/
structure Retrieval (κ : Type) where
  window : WindowKey
  vars : Variables
  settings : Settings
  stage : Retrieval.Stage
  rest : Resumption (Pipeline κ) (Outcome DaemonError Resolution)

/-- A call has handed an environment to the registry. -/
structure HandOver where
  window : WindowKey
  vars : Variables
  settings : Settings
  /-- How many invalidations there were before the look that found no environment. -/
  looked : Nat
  /-- How many there were before the environment was handed over. -/
  ended : Nat

/-- It was looked for and handed over after equally many invalidations. -/
def HandOver.isWithin (window : WindowKey) (epoch : Nat) (h : HandOver) : Bool :=
  h.window = window ∧ h.looked = epoch ∧ h.ended = epoch

/-- The pipeline with the calls for environments. -/
structure Caching (κ : Type) where
  pipeline : Pipeline κ
  retrievals : List (Retrieval κ)
  invalidations : Nat
  handOvers : List HandOver

inductive CachingEvent (analyzer : Analyzer) where
  /-- The environment of a window is asked for. -/
  | call (window : WindowKey) (vars : Variables) (settings : Settings)
  /-- A call makes its next access to the registry. -/
  | act (index : Nat)
  /-- A call gets a reply of the analyzer. -/
  | reply (index : Nat) (replies : analyzer.Replies)
  /-- The worker of a window is asked for. -/
  | worker (window : WindowKey)
  | invalidate

def CachingEvent.IsStepOf {analyzer : Analyzer} (index : Nat) :
    CachingEvent analyzer → Prop
  | .act i | .reply i _ => i = index
  | _ => False

def Retrieval.Stage.next (found : Lookup) (epoch : Nat) : Retrieval.Stage → Retrieval.Stage
  | .called =>
    match found with
    | .cached _ => .ended epoch epoch
    | .missing _ => .looked epoch
  | .looked since => .ended since epoch
  | .ended since last => .ended since last

/-- What the next access hands to the registry. -/
def Retrieval.handOver {κ : Type} (r : Retrieval κ) (epoch : Nat) : List HandOver :=
  match r.stage with
  | .looked looked => [⟨r.window, r.vars, r.settings, looked, epoch⟩]
  | _ => []

namespace Caching

variable {κ : Type} {analyzer : Analyzer}

def start (settings : Settings) (hasLog : Bool) : Caching κ := ⟨.start settings hasLog, [], 0, []⟩

def call (s : Caching κ) (window : WindowKey) (vars : Variables) (settings : Settings) :
    Caching κ :=
  { s with retrievals := s.retrievals ++ [⟨window, vars, settings, .called,
      Pipeline.getOrCreate Resumption.atomic Resumption.engine window vars settings⟩] }

def act (s : Caching κ) (index : Nat) : Caching κ :=
  match s.retrievals[index]? with
  | some ⟨window, vars, settings, stage, .access update next⟩ =>
    { s with
      pipeline := update s.pipeline
      retrievals := s.retrievals.set index ⟨window, vars, settings,
        stage.next (s.pipeline.registry.lookup window) s.invalidations, next s.pipeline⟩
      handOvers := s.handOvers ++
        Retrieval.handOver ⟨window, vars, settings, stage, .access update next⟩ s.invalidations }
  | _ => s

def reply (s : Caching κ) (index : Nat) (replies : analyzer.Replies) : Caching κ :=
  match s.retrievals[index]? with
  | some ⟨window, vars, settings, stage, .call question next⟩ =>
    { s with
      retrievals :=
        s.retrievals.set index ⟨window, vars, settings, stage, next (replies question).1⟩ }
  | _ => s

def step (s : Caching κ) : CachingEvent analyzer → Caching κ
  | .call window vars settings => s.call window vars settings
  | .act index => s.act index
  | .reply index replies => s.reply index replies
  | .worker window => { s with pipeline := (s.pipeline.worker window).2 }
  | .invalidate =>
    { s with pipeline := s.pipeline.invalidateAll, invalidations := s.invalidations + 1 }

def run (s : Caching κ) (events : List (CachingEvent analyzer)) : Caching κ :=
  events.foldl step s

/-! ## What is kept -/

/-- The number of the first environment of a window that was looked for and handed over after so
many invalidations. -/
def first? (s : Caching κ) (window : WindowKey) (epoch : Nat) : Option Nat :=
  s.handOvers.findIdx? (HandOver.isWithin window epoch)

/-- An environment is one that was handed over for a window. -/
structure IsOwn (s : Caching κ) (own : List Daemon) (window : WindowKey) (found : Resolution) :
    Prop where
  daemon : own[found.serial]? = some found.daemon
  handOver : ∃ h, s.handOvers[found.serial]? = some h ∧ h.window = window

/-- What a call returns that looked and ended after so many invalidations. -/
structure Returns (s : Caching κ) (own : List Daemon) (window : WindowKey) (looked ended : Nat)
    (found : Resolution) : Prop where
  isOwn : s.IsOwn own window found
  first : looked = ended → s.first? window looked = some found.serial

end Caching

/-- The code is what is left of resolving the environment of a window. -/
structure Resolves {κ : Type} (analyzer : Analyzer) (window : WindowKey) (vars : Variables)
    (settings : Settings) (code : Resumption (Pipeline κ) (Outcome DaemonError Daemon)) : Prop where
  isPrivate : code.Private analyzer
  yields : ∀ outcome, code.Yields analyzer outcome →
    (Daemon.create Resumption.engine window vars settings :
      Resumption (Pipeline κ) _).Yields analyzer outcome

theorem Resolves.reply {κ : Type} {analyzer : Analyzer} {window : WindowKey} {vars : Variables}
    {settings : Settings} {question : EngineCall}
    {next : question.Reply → Resumption (Pipeline κ) (Outcome DaemonError Daemon)}
    (h : Resolves analyzer window vars settings (.call question next)) {reply : question.Reply}
    (hreply : analyzer.MayReply question reply) :
    Resolves analyzer window vars settings (next reply) :=
  ⟨h.isPrivate reply hreply, fun outcome houtcome ↦ h.yields outcome (.call reply hreply houtcome)⟩

namespace Caching

variable {κ : Type} {analyzer : Analyzer} {s t : Caching κ} {own : List Daemon}

/-- What a call does next, by its stage. -/
def Conforms (analyzer : Analyzer) (s : Caching κ) (own : List Daemon) (r : Retrieval κ) : Prop :=
  match r.stage with
  | .called =>
    r.rest = Pipeline.getOrCreate Resumption.atomic Resumption.engine r.window r.vars r.settings
  | .looked since =>
    ∃ code, Resolves analyzer r.window r.vars r.settings code ∧
      r.rest = code.bind (Resumption.handOver r.window since)
  | .ended since last =>
    ∃ found, r.rest = .done (.value found) ∧ s.Returns own r.window since last found

/-- What holds after every run, given the environments in the order in which they were handed
over. -/
structure Sound (analyzer : Analyzer) (s : Caching κ) (own : List Daemon) : Prop where
  generation : s.pipeline.registry.generation = s.invalidations
  resolved : s.pipeline.registry.resolved = s.handOvers.length
  length : own.length = s.handOvers.length
  /-- Nothing was handed over in the future. -/
  past : ∀ h ∈ s.handOvers, h.ended ≤ s.invalidations
  created : ∀ (n : Nat) (h : HandOver) (daemon : Daemon), s.handOvers[n]? = some h →
    own[n]? = some daemon →
    (Daemon.create Resumption.engine h.window h.vars h.settings :
      Resumption (Pipeline κ) _).Yields analyzer (.value daemon)
  keys : (s.pipeline.registry.daemons.map (·.1)).Nodup
  kept : ∀ window found, s.pipeline.registry.daemons.lookup window = some found ↔
    own[found.serial]? = some found.daemon ∧
      s.first? window s.invalidations = some found.serial
  conforms : ∀ r ∈ s.retrievals, Conforms analyzer s own r

/-! ## More hand-overs -/

theorem first?_mono (ht : s.handOvers <+: t.handOvers) {window : WindowKey} {epoch n : Nat}
    (h : s.first? window epoch = some n) : t.first? window epoch = some n := by
  obtain ⟨more, hmore⟩ := ht
  rw [first?] at h ⊢
  rw [← hmore, List.findIdx?_append, h]
  rfl

theorem exists_of_first? {window : WindowKey} {epoch n : Nat}
    (h : s.first? window epoch = some n) :
    ∃ x, s.handOvers[n]? = some x ∧ x.window = window ∧ x.looked = epoch ∧ x.ended = epoch := by
  obtain ⟨hn, hwithin, -⟩ := List.findIdx?_eq_some_iff_getElem.mp h
  exact ⟨s.handOvers[n], List.getElem?_eq_getElem hn, by simpa [HandOver.isWithin] using hwithin⟩

theorem getElem?_of_isPrefix {α : Type} {items more : List α} (h : items <+: more) {n : Nat} {a : α}
    (hget : items[n]? = some a) : more[n]? = some a := by
  obtain ⟨rest, rfl⟩ := h
  rw [List.getElem?_append_left (List.getElem?_eq_some_iff.mp hget).1]
  exact hget

theorem IsOwn.mono {own' : List Daemon} (ht : s.handOvers <+: t.handOvers) (hown : own <+: own')
    {window : WindowKey} {found : Resolution} (h : s.IsOwn own window found) :
    t.IsOwn own' window found := by
  obtain ⟨x, hx, hwindow⟩ := h.handOver
  exact ⟨getElem?_of_isPrefix hown h.daemon, x, getElem?_of_isPrefix ht hx, hwindow⟩

/-- What a call does next does not change when more is handed over. -/
theorem Conforms.mono {own' : List Daemon} (ht : s.handOvers <+: t.handOvers) (hown : own <+: own')
    {r : Retrieval κ} (h : Conforms analyzer s own r) : Conforms analyzer t own' r := by
  obtain ⟨window, vars, settings, stage, rest⟩ := r
  cases stage with
  | called => exact h
  | looked since => exact h
  | ended since last =>
    obtain ⟨found, hrest, hreturns⟩ := h
    exact ⟨found, hrest, hreturns.isOwn.mono ht hown, fun heq ↦ first?_mono ht (hreturns.first heq)⟩

/-! ## Events that leave the environments alone -/

theorem sound_start (settings : Settings) (hasLog : Bool) :
    Sound analyzer (start settings hasLog : Caching κ) [] := by
  refine ⟨rfl, rfl, rfl, ?_, ?_, List.nodup_nil, ?_, ?_⟩
  · rintro h ⟨⟩
  · rintro n h daemon ⟨⟩
  · rintro window found
    simp [start, Pipeline.start, Registry.empty]
  · rintro r ⟨⟩

theorem Sound.proceed (h : Sound analyzer s own) {retrievals : List (Retrieval κ)}
    (hretrievals : ∀ r ∈ retrievals, Conforms analyzer s own r) :
    Sound analyzer { s with retrievals := retrievals } own :=
  ⟨h.generation, h.resolved, h.length, h.past, h.created, h.keys, h.kept, fun r hr ↦
    Conforms.mono (s := s) (t := { s with retrievals := retrievals }) (List.prefix_refl _)
      (List.prefix_refl _) (hretrievals r hr)⟩

theorem Sound.call (h : Sound analyzer s own) (window : WindowKey) (vars : Variables)
    (settings : Settings) : Sound analyzer (s.call window vars settings) own := by
  refine h.proceed fun r hr ↦ ?_
  obtain hold | hnew := List.mem_append.mp hr
  · exact h.conforms r hold
  · obtain rfl := List.mem_singleton.mp hnew
    exact rfl

theorem Sound.set (h : Sound analyzer s own) (index : Nat) {r : Retrieval κ}
    (hr : Conforms analyzer s own r) :
    Sound analyzer { s with retrievals := s.retrievals.set index r } own := by
  refine h.proceed fun x hx ↦ ?_
  obtain hold | rfl := List.mem_or_eq_of_mem_set hx
  · exact h.conforms x hold
  · exact hr

theorem Sound.reply (h : Sound analyzer s own) (index : Nat) (replies : analyzer.Replies) :
    Sound analyzer (s.reply index replies) own := by
  rw [Caching.reply]
  split
  · next window vars settings stage question next hget =>
    have hconforms := h.conforms _ (List.mem_of_getElem? hget)
    refine h.set index ?_
    cases stage with
    | called => cases hconforms
    | looked since =>
      obtain ⟨code, hcode, hrest⟩ := hconforms
      cases code with
      | done outcome => cases outcome <;> cases hrest
      | access update next => cases hrest
      | call question' next' =>
        obtain ⟨rfl, hnext⟩ := Resumption.call.inj hrest
        rw [eq_of_heq hnext]
        exact ⟨_, hcode.reply (replies question).2, rfl⟩
    | ended since last =>
      obtain ⟨found, hrest, -⟩ := hconforms
      cases hrest
  · exact h

theorem Sound.aside (h : Sound analyzer s own) {pipeline : Pipeline κ}
    (hdaemons : pipeline.registry.daemons = s.pipeline.registry.daemons)
    (hgeneration : pipeline.registry.generation = s.pipeline.registry.generation)
    (hresolved : pipeline.registry.resolved = s.pipeline.registry.resolved) :
    Sound analyzer { s with pipeline := pipeline } own :=
  ⟨hgeneration.trans h.generation, hresolved.trans h.resolved, h.length, h.past, h.created,
    by rw [hdaemons]; exact h.keys, by rw [hdaemons]; exact h.kept, fun r hr ↦
    Conforms.mono (s := s) (t := { s with pipeline := pipeline }) (List.prefix_refl _)
      (List.prefix_refl _) (h.conforms r hr)⟩

theorem Sound.worker (h : Sound analyzer s own) (window : WindowKey) :
    Sound analyzer { s with pipeline := (s.pipeline.worker window).2 } own := by
  have hspec : (s.pipeline.worker window).2.registry =
      { s.pipeline.registry with
        workers := (s.pipeline.worker window).2.registry.workers
        retiring := (s.pipeline.worker window).2.registry.retiring } := by
    cases hworker : s.pipeline.registry.workers.lookup window <;>
      simp [Pipeline.worker, Registry.worker, hworker]
  exact h.aside (by rw [hspec]) (by rw [hspec]) (by rw [hspec])

/-! ## Invalidation -/

/-- After an invalidation nothing is kept, and nothing has been handed over. -/
theorem Sound.invalidate (h : Sound analyzer s own) :
    Sound analyzer { s with
      pipeline := s.pipeline.invalidateAll, invalidations := s.invalidations + 1 } own := by
  obtain ⟨hdaemons, -, hgeneration, hresolved⟩ :=
    s.pipeline.registry.invalidateAll_spec s.pipeline.pool
  have hnone (window : WindowKey) : s.first? window (s.invalidations + 1) = none := by
    rw [first?, List.findIdx?_eq_none_iff]
    intro x hx
    have hpast := h.past x hx
    rw [HandOver.isWithin, decide_eq_false_iff_not]
    omega
  refine ⟨hgeneration.trans (congrArg (· + 1) h.generation), hresolved.trans h.resolved, h.length,
    fun x hx ↦ Nat.le_succ_of_le (h.past x hx), h.created, ?_, ?_, fun r hr ↦ ?_⟩
  · exact hdaemons ▸ List.nodup_nil
  · intro window found
    have hlookup : s.pipeline.invalidateAll.registry.daemons = [] := hdaemons
    have hfirst := hnone window
    rw [first?] at hfirst ⊢
    simp [hlookup, hfirst]
  · refine Conforms.mono (s := s) ?_ (List.prefix_refl _) (h.conforms r hr)
    exact List.prefix_refl _

/-! ## Looks and hand-overs -/

theorem Sound.first?_lt (h : Sound analyzer s own) {window : WindowKey} {epoch n : Nat}
    (hfirst : s.first? window epoch = some n) : n < own.length := by
  obtain ⟨x, hx, -⟩ := exists_of_first? hfirst
  exact h.length ▸ (List.getElem?_eq_some_iff.mp hx).1

/-- Something is kept for a window as soon as something was handed over since the last
invalidation. -/
theorem Sound.first?_eq_map (h : Sound analyzer s own) (window : WindowKey) :
    s.first? window s.invalidations =
      (s.pipeline.registry.daemons.lookup window).map (·.serial) := by
  cases hfirst : s.first? window s.invalidations with
  | some n =>
    have hlt : n < own.length := h.first?_lt hfirst
    have hown : own[n]? = some own[n] := List.getElem?_eq_getElem hlt
    rw [(h.kept window ⟨n, own[n]⟩).mpr ⟨hown, hfirst⟩]
    rfl
  | none =>
    cases hlookup : s.pipeline.registry.daemons.lookup window with
    | none => rfl
    | some found =>
      rw [((h.kept window found).mp hlookup).2] at hfirst
      cases hfirst

/-- What is kept is returned to a call that looks now and ends at once. -/
theorem Sound.returns_of_lookup (h : Sound analyzer s own) {window : WindowKey}
    {found : Resolution} (hlookup : s.pipeline.registry.daemons.lookup window = some found) :
    s.Returns own window s.invalidations s.invalidations found := by
  obtain ⟨hdaemon, hfirst⟩ := (h.kept window found).mp hlookup
  obtain ⟨x, hx, hwindow, -⟩ := exists_of_first? hfirst
  exact ⟨⟨hdaemon, x, hx, hwindow⟩, fun _ ↦ hfirst⟩

def handOver (s : Caching κ) (index : Nat) (r : Retrieval κ) (since : Nat) (daemon : Daemon) :
    Caching κ :=
  let inserted := s.pipeline.registry.insert r.window since daemon
  { s with
    pipeline := { s.pipeline with registry := inserted.2 }
    retrievals := s.retrievals.set index
      { r with stage := .ended since s.invalidations, rest := .done (.value inserted.1) }
    handOvers := s.handOvers ++ [⟨r.window, r.vars, r.settings, since, s.invalidations⟩] }

theorem first?_handOver (index : Nat) (r : Retrieval κ) (since : Nat) (daemon : Daemon)
    (window : WindowKey) :
    (s.handOver index r since daemon).first? window s.invalidations =
      (s.first? window s.invalidations).or
        (if r.window = window ∧ since = s.invalidations then some s.handOvers.length
        else none) := by
  rw [first?, first?, handOver, List.findIdx?_append, List.findIdx?_singleton]
  congr 1
  by_cases hwithin : r.window = window ∧ since = s.invalidations
  · simp [HandOver.isWithin, hwithin]
  · simp [HandOver.isWithin, hwithin]

theorem Sound.getElem?_handedOver (h : Sound analyzer s own) (daemon : Daemon) :
    (own ++ [daemon])[s.pipeline.registry.resolved]? = some daemon := by
  rw [h.resolved, ← h.length, List.getElem?_concat_length]

theorem Sound.created_handOver (h : Sound analyzer s own) (index : Nat) {r : Retrieval κ}
    (since : Nat) {daemon : Daemon}
    (hcreated : (Daemon.create Resumption.engine r.window r.vars r.settings :
      Resumption (Pipeline κ) _).Yields analyzer (.value daemon)) (n : Nat) (x : HandOver)
    (d : Daemon) (hx : (s.handOver index r since daemon).handOvers[n]? = some x)
    (hd : (own ++ [daemon])[n]? = some d) :
    (Daemon.create Resumption.engine x.window x.vars x.settings :
      Resumption (Pipeline κ) _).Yields analyzer (.value d) := by
  obtain hlt | rfl | hgt := Nat.lt_trichotomy n s.handOvers.length
  · rw [Caching.handOver, List.getElem?_append_left hlt] at hx
    rw [List.getElem?_append_left (h.length ▸ hlt)] at hd
    exact h.created n x d hx hd
  · rw [Caching.handOver, List.getElem?_concat_length] at hx
    rw [← h.length, List.getElem?_concat_length] at hd
    cases hx
    cases hd
    exact hcreated
  · have hlt := (List.getElem?_eq_some_iff.mp hd).1
    rw [List.length_append, h.length, List.length_singleton] at hlt
    omega

/-- What is kept and the first hand-over since the last invalidation change together. -/
theorem Sound.kept_handOver (h : Sound analyzer s own) (index : Nat) (r : Retrieval κ)
    (since : Nat) (daemon : Daemon) (window : WindowKey) (found : Resolution) :
    (s.handOver index r since daemon).pipeline.registry.daemons.lookup window = some found ↔
      (own ++ [daemon])[found.serial]? = some found.daemon ∧
        (s.handOver index r since daemon).first? window s.invalidations = some found.serial := by
  have hsame {a b : Resolution} (hserial : a.serial = b.serial)
      (ha : (own ++ [daemon])[a.serial]? = some a.daemon)
      (hb : (own ++ [daemon])[b.serial]? = some b.daemon) : a = b := by
    cases a
    cases b
    cases hserial
    rw [ha] at hb
    cases hb
    rfl
  -- of what is kept by now, the number decides which environment it is
  have hiff {kept : Resolution} (hkept : (own ++ [daemon])[kept.serial]? = some kept.daemon) :
      some kept = some found ↔
        (own ++ [daemon])[found.serial]? = some found.daemon ∧
          some kept.serial = some found.serial := by
    constructor
    · rintro ⟨⟩
      exact ⟨hkept, rfl⟩
    · rintro ⟨hfound, hserial⟩
      exact congrArg some (hsame (Option.some.inj hserial) hkept hfound)
  change (s.pipeline.registry.insert r.window since daemon).2.daemons.lookup window = _ ↔ _
  rw [Registry.lookup_insert, first?_handOver, h.first?_eq_map, h.generation]
  cases hlookup : s.pipeline.registry.daemons.lookup window with
  | some first =>
    exact hiff (getElem?_of_isPrefix (List.prefix_append _ _) ((h.kept window first).mp hlookup).1)
  | none =>
    by_cases hwithin : r.window = window ∧ since = s.invalidations
    · rw [if_pos hwithin, if_pos hwithin, ← h.resolved]
      exact hiff (h.getElem?_handedOver daemon)
    · rw [if_neg hwithin, if_neg hwithin]
      constructor
      · rintro ⟨⟩
      · rintro ⟨-, ⟨⟩⟩

theorem Sound.returns_handOver (h : Sound analyzer s own) (index : Nat) (r : Retrieval κ)
    (since : Nat) (daemon : Daemon) :
    (s.handOver index r since daemon).Returns (own ++ [daemon]) r.window since s.invalidations
      (s.pipeline.registry.insert r.window since daemon).1 := by
  have hovers : s.handOvers <+: (s.handOver index r since daemon).handOvers :=
    List.prefix_append _ _
  have hfresh : IsOwn (s.handOver index r since daemon) (own ++ [daemon]) r.window
      ⟨s.pipeline.registry.resolved, daemon⟩ := by
    refine ⟨h.getElem?_handedOver daemon,
      ⟨r.window, r.vars, r.settings, since, s.invalidations⟩, ?_, rfl⟩
    rw [h.resolved]
    exact List.getElem?_concat_length
  rw [Registry.insert_fst, h.generation]
  by_cases hsince : since = s.invalidations
  · rw [if_pos hsince]
    cases hlookup : s.pipeline.registry.daemons.lookup r.window with
    | some first =>
      have hreturns := h.returns_of_lookup hlookup
      exact ⟨hreturns.isOwn.mono hovers (List.prefix_append _ _), fun _ ↦
        first?_mono hovers (hsince ▸ hreturns.first rfl)⟩
    | none =>
      refine ⟨hfresh, fun _ ↦ ?_⟩
      have hfirst := first?_handOver (s := s) index r since daemon r.window
      rw [h.first?_eq_map, hlookup, if_pos ⟨rfl, hsince⟩, ← h.resolved] at hfirst
      rw [← hsince] at hfirst
      exact hfirst
  · rw [if_neg hsince]
    exact ⟨hfresh, fun heq ↦ absurd heq hsince⟩

theorem Sound.handOver (h : Sound analyzer s own) (index : Nat) {r : Retrieval κ} (since : Nat)
    {daemon : Daemon} (hcreated : (Daemon.create Resumption.engine r.window r.vars r.settings :
      Resumption (Pipeline κ) _).Yields analyzer (.value daemon)) :
    Sound analyzer (s.handOver index r since daemon) (own ++ [daemon]) := by
  have hlength : (s.handOver index r since daemon).handOvers.length = s.handOvers.length + 1 :=
    List.length_append
  have hspec := s.pipeline.registry.insert_spec r.window since daemon
  refine ⟨?_, ?_, ?_, fun x hx ↦ ?_, h.created_handOver index since hcreated,
    Registry.nodup_insert h.keys _ _ _, h.kept_handOver index r since daemon, fun x hx ↦ ?_⟩
  · refine Eq.trans ?_ h.generation
    obtain heq | ⟨-, heq⟩ := hspec <;> rw [Caching.handOver, heq]
  · rw [hlength, ← h.resolved]
    obtain heq | ⟨-, heq⟩ := hspec <;> rw [Caching.handOver, heq]
  · rw [hlength, List.length_append, h.length, List.length_singleton]
  · obtain hold | hlast := List.mem_append.mp hx
    · exact h.past x hold
    · obtain rfl := List.mem_singleton.mp hlast
      exact Nat.le_refl _
  · obtain hold | rfl := List.mem_or_eq_of_mem_set hx
    · exact Conforms.mono (s := s) (List.prefix_append _ _) (List.prefix_append _ _)
        (h.conforms x hold)
    · exact ⟨_, rfl, h.returns_handOver index r since daemon⟩

/-- The code of a call that has found no environment: its next access hands one over. -/
theorem eq_handOver_of_access {window : WindowKey} {since : Nat}
    {code : Resumption (Pipeline κ) (Outcome DaemonError Daemon)} (hprivate : code.Private analyzer)
    {update : Pipeline κ → Pipeline κ}
    {next : Pipeline κ → Resumption (Pipeline κ) (Outcome DaemonError Resolution)}
    (h : .access update next = code.bind (Resumption.handOver window since)) :
    ∃ daemon, code = .done (.value daemon) ∧
      update = (fun p ↦ { p with registry := (p.registry.insert window since daemon).2 }) ∧
      next = fun p ↦ .done (.value (p.registry.insert window since daemon).1) := by
  cases code with
  | done outcome =>
    cases outcome with
    | value daemon =>
      cases h
      exact ⟨daemon, rfl, rfl, rfl⟩
    | failed e => cases h
    | broken payload => cases h
  | access update' next' => exact hprivate.elim
  | call question next' => cases h

/-- **What an access does**: it is a look, which changes nothing but the call itself, or it hands
over an environment that was resolved for its window. -/
theorem Sound.act_cases (h : Sound analyzer s own) (index : Nat) :
    s.act index = s ∨
      (∃ r, Conforms analyzer s own r ∧
        s.act index = { s with retrievals := s.retrievals.set index r }) ∨
      ∃ r since daemon, index < s.retrievals.length ∧
        (Daemon.create Resumption.engine r.window r.vars r.settings :
          Resumption (Pipeline κ) _).Yields analyzer (.value daemon) ∧
        s.act index = s.handOver index r since daemon := by
  rw [Caching.act]
  split
  · next window vars settings stage update next hget =>
    have hconforms := h.conforms _ (List.mem_of_getElem? hget)
    cases stage with
    | called =>
      have hrest : Resumption.access update next = Pipeline.getOrCreate Resumption.atomic
        Resumption.engine window vars settings := hconforms
      rw [Resumption.getOrCreate_eq] at hrest
      cases hrest
      refine .inr (.inl ⟨_, ?_, congrArg (Caching.mk s.pipeline _ s.invalidations)
        (List.append_nil s.handOvers)⟩)
      dsimp only
      cases hlookup : s.pipeline.registry.daemons.lookup window with
      | some found =>
        have hcached : s.pipeline.registry.lookup window = .cached found := by
          rw [Registry.lookup, Registry.daemon?, hlookup]
        rw [hcached]
        exact ⟨found, rfl, h.returns_of_lookup hlookup⟩
      | none =>
        have hmissing : s.pipeline.registry.lookup window = .missing s.invalidations :=
          Registry.lookup_eq_missing.mpr ⟨hlookup, h.generation.symm⟩
        rw [hmissing]
        exact ⟨_, ⟨Resumption.private_create _ _ _, fun _ houtcome ↦ houtcome⟩, rfl⟩
    | looked since =>
      obtain ⟨code, hcode, hrest⟩ : ∃ code, Resolves analyzer window vars settings code ∧
        Resumption.access update next = code.bind (Resumption.handOver window since) := hconforms
      obtain ⟨daemon, hdone, rfl, rfl⟩ := eq_handOver_of_access hcode.isPrivate hrest
      have hindex : index < s.retrievals.length := (List.getElem?_eq_some_iff.mp hget).1
      have hcreated := hcode.yields (.value daemon) (hdone ▸ .done _)
      exact .inr (.inr ⟨⟨window, vars, settings, .looked since, _⟩, since, daemon, hindex,
        hcreated, rfl⟩)
    | ended since last =>
      obtain ⟨found, hrest, -⟩ := hconforms
      cases hrest
  · exact .inl rfl

/-! ## Every run -/

theorem run_cons (s : Caching κ) (event : CachingEvent analyzer)
    (events : List (CachingEvent analyzer)) : s.run (event :: events) = (s.step event).run events :=
  rfl

theorem run_append (s : Caching κ) (before after : List (CachingEvent analyzer)) :
    s.run (before ++ after) = (s.run before).run after := List.foldl_append

theorem Sound.step (h : Sound analyzer s own) (event : CachingEvent analyzer) :
    ∃ own', Sound analyzer (s.step event) own' := by
  cases event with
  | call window vars settings => exact ⟨own, h.call window vars settings⟩
  | reply index replies => exact ⟨own, h.reply index replies⟩
  | worker window => exact ⟨own, h.worker window⟩
  | invalidate => exact ⟨own, h.invalidate⟩
  | act index =>
    obtain hsame | ⟨r, hr, hlook⟩ | ⟨r, since, daemon, -, hcreated, hhand⟩ := h.act_cases index
    · exact ⟨own, by rw [Caching.step, hsame]; exact h⟩
    · exact ⟨own, by rw [Caching.step, hlook]; exact h.set index hr⟩
    · exact ⟨own ++ [daemon], by rw [Caching.step, hhand]; exact h.handOver index since hcreated⟩

theorem Sound.run (h : Sound analyzer s own) (events : List (CachingEvent analyzer)) :
    ∃ own', Sound analyzer (s.run events) own' := by
  induction events generalizing s own with
  | nil => exact ⟨own, h⟩
  | cons event events ih =>
    obtain ⟨own', h'⟩ := h.step event
    exact ih h'

theorem getElem?_step_of_done {index : Nat} {r : Retrieval κ}
    {outcome : Outcome DaemonError Resolution} (hget : s.retrievals[index]? = some r)
    (hdone : r.rest = .done outcome) (event : CachingEvent analyzer) :
    (s.step event).retrievals[index]? = some r := by
  -- a call that goes on is another one, since this one neither accesses nor waits
  have hset {i : Nat} {x : Retrieval κ} (hx : s.retrievals[i]? = some x)
      (hne : ∀ o, x.rest ≠ .done o) (y : Retrieval κ) :
      (s.retrievals.set i y)[index]? = some r := by
    rw [List.getElem?_set_ne, hget]
    rintro rfl
    rw [hget] at hx
    cases hx
    exact hne outcome hdone
  cases event with
  | call window vars settings => exact getElem?_of_isPrefix (List.prefix_append _ _) hget
  | worker window => exact hget
  | invalidate => exact hget
  | act i =>
    rw [Caching.step, Caching.act]
    split
    · next hi => exact hset hi (fun _ h ↦ by cases h) _
    · exact hget
  | reply i replies =>
    rw [Caching.step, Caching.reply]
    split
    · next hi => exact hset hi (fun _ h ↦ by cases h) _
    · exact hget

theorem getElem?_run_of_done {index : Nat} {r : Retrieval κ}
    {outcome : Outcome DaemonError Resolution} (hget : s.retrievals[index]? = some r)
    (hdone : r.rest = .done outcome) (events : List (CachingEvent analyzer)) :
    (s.run events).retrievals[index]? = some r := by
  induction events generalizing s with
  | nil => exact hget
  | cons event events ih => exact ih (getElem?_step_of_done hget hdone event)

/-- A step of a call that changes the pipeline ends the call with an environment. -/
theorem Sound.pipeline_step (h : Sound analyzer s own) {index : Nat}
    {event : CachingEvent analyzer} (hevent : event.IsStepOf index) :
    (s.step event).pipeline = s.pipeline ∨
      ∃ r found, (s.step event).retrievals[index]? = some r ∧ r.rest = .done (.value found) := by
  cases event with
  | call window vars settings => exact hevent.elim
  | worker window => exact hevent.elim
  | invalidate => exact hevent.elim
  | reply i replies =>
    rw [Caching.step, Caching.reply]
    split <;> exact .inl rfl
  | act i =>
    obtain rfl := hevent
    obtain hsame | ⟨r, -, hlook⟩ | ⟨r, since, daemon, hlt, -, hhand⟩ := h.act_cases i
    · exact .inl (by rw [Caching.step, hsame])
    · exact .inl (by rw [Caching.step, hlook])
    · rw [Caching.step, hhand]
      exact .inr ⟨_, _, List.getElem?_set_self hlt, rfl⟩

theorem window_of_create {σ : Type} {window : WindowKey} {vars : Variables} {settings : Settings}
    {daemon : Daemon} (h : (Daemon.create Resumption.engine window vars settings :
      Resumption σ _).Yields analyzer (.value daemon)) : daemon.window = window := by
  have halways : (Daemon.create Resumption.engine window vars settings : Resumption σ _).Always
      analyzer (fun _ ↦ True) fun outcome ↦ ∀ d, outcome = .value d → d.window = window := by
    refine Resumption.Always.bind (Q := fun _ ↦ True)
      (Resumption.Private.always ?_ fun _ _ ↦ trivial) fun outcome _ ↦ ?_
    · exact .bind (Resumption.private_choose vars settings _) fun _ ↦ trivial
    · intro d hd
      cases outcome with
      | value resolved =>
        cases hd
        rfl
      | failed e => cases hd
      | broken payload => cases hd
  exact halways.of_yields h daemon rfl

/-- An environment was resolved for a window, by a call whose hand-over has its number. -/
def IsBuiltFor (analyzer : Analyzer) (s : Caching κ) (window : WindowKey) (found : Resolution) :
    Prop :=
  found.daemon.window = window ∧ ∃ h, s.handOvers[found.serial]? = some h ∧ h.window = window ∧
    (Daemon.create Resumption.engine window h.vars h.settings :
      Resumption (Pipeline κ) _).Yields analyzer (.value found.daemon)

theorem Sound.isBuiltFor (h : Sound analyzer s own) {window : WindowKey} {found : Resolution}
    (hfound : s.IsOwn own window found) : s.IsBuiltFor analyzer window found := by
  obtain ⟨hdaemon, x, hx, rfl⟩ := hfound
  have hcreated := h.created _ _ _ hx hdaemon
  exact ⟨window_of_create hcreated, x, hx, rfl, hcreated⟩

/-- The registry keeps environments for one generation. -/
structure KeepsOneGeneration (analyzer : Analyzer) (s : Caching κ) : Prop where
  /-- What is kept was looked for after the last invalidation. -/
  current : ∀ window found, (window, found) ∈ s.pipeline.registry.daemons →
    ∃ h, s.handOvers[found.serial]? = some h ∧ h.looked = s.invalidations
  /-- What is kept for a window is what was handed over first since then. -/
  kept : ∀ window, (s.pipeline.registry.daemons.lookup window).map (·.serial) =
    s.first? window s.invalidations
  /-- Calls for one window that looked and ended after equally many invalidations have returned the
  same environment, the one that was handed over first. -/
  same : ∀ r ∈ s.retrievals, ∀ r' ∈ s.retrievals, ∀ epoch, r.window = r'.window →
    r.stage = .ended epoch epoch → r'.stage = .ended epoch epoch →
    ∃ found, r.rest = .done (.value found) ∧ r'.rest = .done (.value found) ∧
      s.first? r.window epoch = some found.serial
  /-- What is kept for a window was resolved for it. -/
  keptFor : ∀ window found, (window, found) ∈ s.pipeline.registry.daemons →
    s.IsBuiltFor analyzer window found
  /-- What is returned for a window was resolved for it. -/
  returnedFor : ∀ r ∈ s.retrievals, ∀ found, r.rest = .done (.value found) →
    s.IsBuiltFor analyzer r.window found

theorem Sound.keepsOneGeneration (h : Sound analyzer s own) : s.KeepsOneGeneration analyzer := by
  have hreturns {window : WindowKey} {found : Resolution}
      (hmem : (window, found) ∈ s.pipeline.registry.daemons) :
      s.Returns own window s.invalidations s.invalidations found :=
    h.returns_of_lookup (Registry.lookup_of_mem h.keys hmem)
  refine ⟨fun window found hmem ↦ ?_, fun window ↦ (h.first?_eq_map window).symm, ?_,
    fun window found hmem ↦ h.isBuiltFor (hreturns hmem).isOwn, fun r hr found hrest ↦ ?_⟩
  · obtain ⟨x, hx, -, hlooked, -⟩ := exists_of_first? ((hreturns hmem).first rfl)
    exact ⟨x, hx, hlooked⟩
  · intro r hr r' hr' epoch hwindow hstage hstage'
    have hconforms := h.conforms r hr
    have hconforms' := h.conforms r' hr'
    rw [Conforms, hstage] at hconforms
    rw [Conforms, hstage'] at hconforms'
    obtain ⟨found, hrest, howned, hfirst⟩ := hconforms
    obtain ⟨found', hrest', howned', hfirst'⟩ := hconforms'
    have hserial : found.serial = found'.serial :=
      Option.some.inj ((hfirst rfl).symm.trans (hwindow ▸ hfirst' rfl))
    have hdaemon : found.daemon = found'.daemon :=
      Option.some.inj (howned.daemon.symm.trans (hserial ▸ howned'.daemon))
    have heq : found = found' := by
      cases found
      cases found'
      cases hserial
      cases hdaemon
      rfl
    exact ⟨found, hrest, heq ▸ hrest', hfirst rfl⟩
  · have hconforms := h.conforms r hr
    obtain ⟨window, vars, settings, stage, rest⟩ := r
    cases hrest
    cases stage with
    | called =>
      rw [Conforms, Resumption.getOrCreate_eq] at hconforms
      cases hconforms
    | looked since =>
      obtain ⟨code, -, hrest⟩ := hconforms
      cases code with
      | done outcome => cases outcome <;> cases hrest
      | access update next => cases hrest
      | call question next => cases hrest
    | ended since last =>
      obtain ⟨found', hrest, hreturns⟩ := hconforms
      cases hrest
      exact h.isBuiltFor hreturns.isOwn

/-- **The registry keeps environments for one generation**, whatever the analyzer replies and in
whatever order the calls go on and the registry is invalidated. A call that ends without an
environment has changed nothing on its way. -/
theorem run_keepsOneGeneration (settings : Settings) (hasLog : Bool)
    (events : List (CachingEvent analyzer)) :
    ((start settings hasLog : Caching κ).run events).KeepsOneGeneration analyzer ∧
      ∀ before event after index r outcome, events = before ++ event :: after →
        event.IsStepOf index →
        ((start settings hasLog : Caching κ).run events).retrievals[index]? = some r →
        r.rest = .done outcome → outcome.value? = none →
        ((start settings hasLog : Caching κ).run (before ++ [event])).pipeline =
          ((start settings hasLog : Caching κ).run before).pipeline := by
  constructor
  · obtain ⟨own, h⟩ := (sound_start settings hasLog).run events
    exact h.keepsOneGeneration
  · rintro before event after index r outcome rfl hevent hget hrest hnone
    obtain ⟨own, h⟩ := (sound_start (κ := κ) settings hasLog).run before
    rw [run_append, run_cons] at hget
    rw [run_append, run_cons]
    obtain hsame | ⟨x, found, hx, hdone⟩ := h.pipeline_step hevent
    · exact hsame
    · -- a call that has got an environment keeps it to the end
      have hlast := getElem?_run_of_done hx hdone after
      rw [hlast] at hget
      cases hget
      rw [hdone] at hrest
      cases hrest
      cases hnone

end Caching

end CodeHints
