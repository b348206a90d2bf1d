import CodeHints.Proofs.Traffic
import Mathlib.Algebra.GroupWithZero.Nat
import Mathlib.Data.List.Induction

/-!
# The last call wins

What a debouncer does over a whole history can be said without its table. A call stands from the
moment it is armed until another call is armed under its key, its key or every key is taken back, or
its timer wakes when it is due. Just those calls that stand are in the table, and a call is made if
and only if its timer wakes, at its time or later, while it stands.

A `Debouncing` is a debouncer with a clock and with the timers that were started. Its histories are
lists of events in any order, and `Stands` is defined on the history alone. `run_faithful` says that
the two go together after every history.

## Timers

A timer cannot be stopped. A call that is taken back leaves a note for its timer, and a timer that
wakes and finds the note does nothing; but it may also wake at the same moment and look into the
table first. Which of the two happens is left open, so a timer wakes with a flag that tells whether
it notices, and the result is the same. A timer may even wake several times here.

Calls are told apart by numbers that are given in the order of arming and are not bounded.
-/

namespace CodeHints

/-! ## Single steps of a debouncer -/

namespace Debouncer

variable {κ τ : Type} {d : Debouncer κ τ}

theorem Unique.eq_of_key (h : d.Unique) {call other : ArmedCall κ τ} (hcall : call ∈ d.armed)
    (hother : other ∈ d.armed) (hkey : call.ticket.key = other.ticket.key) : call = other :=
  List.inj_on_of_nodup_map h hcall hother hkey

variable [DecidableEq κ]

theorem Unique.find?_eq (h : d.Unique) {call : ArmedCall κ τ} (hmem : call ∈ d.armed) :
    d.find? call.ticket.key = some call := by
  obtain ⟨before, after, harmed⟩ := List.append_of_mem hmem
  rw [Unique, harmed, List.map_append, List.map_cons, List.nodup_middle, List.nodup_cons] at h
  rw [find?, List.find?_eq_some_iff_append]
  refine ⟨by simp, before, after, harmed, fun other hother ↦ ?_⟩
  rw [Bool.not_eq_true', decide_eq_false_iff_not]
  exact fun hkey ↦ h.1 (List.mem_append_left _ (List.mem_map.mpr ⟨other, hother, hkey⟩))

theorem isPending_iff {key : κ} :
    d.isPending key = true ↔ ∃ call ∈ d.armed, call.ticket.key = key := by
  rw [isPending, find?, List.find?_isSome]
  simp

theorem deadline?_eq_some_iff (h : d.Unique) {key : κ} {deadline : Nat} :
    d.deadline? key = some deadline ↔
      ∃ call ∈ d.armed, call.ticket.key = key ∧ call.ticket.deadline = deadline := by
  rw [deadline?, Option.map_eq_some_iff]
  constructor
  · rintro ⟨call, hfind, hdeadline⟩
    rw [find?] at hfind
    exact ⟨call, List.mem_of_find?_eq_some hfind, by simpa using List.find?_some hfind, hdeadline⟩
  · rintro ⟨call, hcall, rfl, hdeadline⟩
    exact ⟨call, h.find?_eq hcall, hdeadline⟩

theorem mem_erase {key : κ} {call : ArmedCall κ τ} :
    call ∈ (d.erase key).armed ↔ call ∈ d.armed ∧ call.ticket.key ≠ key := by
  simp [erase]

theorem mem_schedule {key : κ} {deadline : Nat} {a : τ} {call : ArmedCall κ τ} :
    call ∈ (d.schedule key deadline a).2.armed ↔
      (call ∈ d.armed ∧ call.ticket.key ≠ key) ∨
        call = ⟨⟨key, d.generation + 1, deadline⟩, a⟩ := by
  simp [schedule]

theorem wake_of_armed (h : d.Unique) {call : ArmedCall κ τ} (hmem : call ∈ d.armed) {now : Nat}
    (hdue : call.ticket.deadline ≤ now) :
    d.wake now call.ticket = (some call.task, d.erase call.ticket.key) := by
  rw [wake, h.find?_eq hmem]
  exact if_pos ⟨rfl, hdue⟩

theorem wake_of_not_armed {now : Nat} {ticket : Ticket κ}
    (h : ticket.deadline ≤ now →
      ∀ call ∈ d.armed, call.ticket.key = ticket.key →
        call.ticket.generation ≠ ticket.generation) : d.wake now ticket = (none, d) := by
  rw [wake]
  cases hfind : d.find? ticket.key with
  | none => rfl
  | some call =>
    rw [find?] at hfind
    refine if_neg ?_
    rintro ⟨hsame, hdue⟩
    exact h hdue call (List.mem_of_find?_eq_some hfind) (by simpa using List.find?_some hfind) hsame

end Debouncer

/-! ## Histories -/

inductive DebounceEvent (κ τ : Type) where
  | schedule (key : κ) (delay : Nat) (task : τ)
  | cancel (key : κ)
  | cancelAll
  /-- The timer of a call wakes, and may notice that the call was taken back. -/
  | wake (number : Nat) (notices : Bool)
  | pass (time : Nat)

structure Arming (κ τ : Type) where
  key : κ
  deadline : Nat
  task : τ

structure MadeCall (τ : Type) where
  number : Nat
  time : Nat
  task : τ

def ArmedCall.arming {κ τ : Type} (call : ArmedCall κ τ) : Arming κ τ :=
  ⟨call.ticket.key, call.ticket.deadline, call.task⟩

namespace DebounceEvent

variable {κ τ : Type}

/-- The time that passes with an event. -/
def time : DebounceEvent κ τ → Nat
  | .pass time => time
  | _ => 0

def isArming : DebounceEvent κ τ → Bool
  | .schedule .. => true
  | _ => false

/-- A call stands no longer after the event, which happens at a time. -/
def Ends (number : Nat) (call : Arming κ τ) (time : Nat) : DebounceEvent κ τ → Prop
  | .schedule key _ _ | .cancel key => key = call.key
  | .cancelAll => True
  | .wake other _ => other = number ∧ call.deadline ≤ time
  | .pass _ => False

end DebounceEvent

/-- A debouncer, the time, and what has become of the calls that were armed. -/
structure Debouncing (κ τ : Type) where
  debouncer : Debouncer κ τ
  clock : Nat
  /-- The timers that were started, by the numbers of their calls. -/
  timers : List (Ticket κ)
  /-- The timers for which there is a note that their calls were taken back. -/
  revoked : List (Ticket κ)
  /-- The calls that were made, the first one first. -/
  made : List (MadeCall τ)

namespace Debouncing

variable {κ τ : Type}

/-- The time after a history. -/
def elapsed (events : List (DebounceEvent κ τ)) : Nat := (events.map (·.time)).sum

/-- How many calls are armed in a history. -/
def armings (events : List (DebounceEvent κ τ)) : Nat := events.countP (·.isArming)

@[simp] theorem elapsed_append (events more : List (DebounceEvent κ τ)) :
    elapsed (events ++ more) = elapsed events + elapsed more := by simp [elapsed]

@[simp] theorem elapsed_single (e : DebounceEvent κ τ) : elapsed [e] = e.time := by simp [elapsed]

@[simp] theorem armings_append (events more : List (DebounceEvent κ τ)) :
    armings (events ++ more) = armings events + armings more := List.countP_append

/-- The call with a number was armed in a history, and nothing has ended it. -/
def Stands (events : List (DebounceEvent κ τ)) (number : Nat) (call : Arming κ τ) : Prop :=
  ∃ before delay after, events = before ++ .schedule call.key delay call.task :: after ∧
    armings before = number ∧ call.deadline = elapsed before + delay ∧
    ∀ front e rest, after = front ++ e :: rest →
      ¬ e.Ends number call (elapsed before + elapsed front)

/-- After one more event the same calls stand, less those that it ends, and the one that it
arms. -/
theorem stands_append_single {events : List (DebounceEvent κ τ)} {e : DebounceEvent κ τ}
    {number : Nat} {call : Arming κ τ} :
    Stands (events ++ [e]) number call ↔
      (Stands events number call ∧ ¬ e.Ends number call (elapsed events)) ∨
        ∃ delay, e = .schedule call.key delay call.task ∧ number = armings events ∧
          call.deadline = elapsed events + delay := by
  constructor
  · -- the last event arms the call itself, or is the last one of those that came after it
    rintro ⟨before, delay, after, hsplit, hnumber, hdeadline, hend⟩
    rcases List.eq_nil_or_concat after with rfl | ⟨front, last, rfl⟩
    · obtain ⟨rfl, hlast⟩ := List.append_inj' hsplit rfl
      exact .inr ⟨delay, List.singleton_inj.mp hlast, hnumber.symm, hdeadline⟩
    · rw [List.concat_eq_append, ← List.cons_append, ← List.append_assoc] at hsplit
      obtain ⟨rfl, hlast⟩ := List.append_inj' hsplit rfl
      obtain rfl := List.singleton_inj.mp hlast
      refine .inl
        ⟨⟨before, delay, front, rfl, hnumber, hdeadline, fun left f right hfront ↦ ?_⟩, ?_⟩
      · exact hend left f (right ++ [e]) (by simp [hfront])
      · have := hend front e [] (by simp)
        simpa [elapsed, DebounceEvent.time] using this
  · rintro (⟨⟨before, delay, after, rfl, hnumber, hdeadline, hend⟩, hnot⟩ |
      ⟨delay, rfl, hnumber, hdeadline⟩)
    · refine ⟨before, delay, after ++ [e], by simp, hnumber, hdeadline,
        fun front f rest hfront ↦ ?_⟩
      rcases List.eq_nil_or_concat rest with rfl | ⟨rest, last, rfl⟩
      · obtain ⟨rfl, hlast⟩ := List.append_inj' hfront rfl
        obtain rfl := List.singleton_inj.mp hlast
        simpa [elapsed, DebounceEvent.time] using hnot
      · rw [List.concat_eq_append, ← List.cons_append, ← List.append_assoc] at hfront
        exact hend front f rest (List.append_inj' hfront rfl).1
    · refine ⟨events, delay, [], rfl, hnumber.symm, hdeadline, fun front f rest hfront ↦ ?_⟩
      simp at hfront

theorem Stands.number_lt {events : List (DebounceEvent κ τ)} {number : Nat} {call : Arming κ τ}
    (h : Stands events number call) : number < armings events := by
  obtain ⟨before, delay, after, rfl, rfl, -⟩ := h
  simp [armings, DebounceEvent.isArming]

/-- The timer of a call that stood woke when the call was due. -/
def Fires (events : List (DebounceEvent κ τ)) (x : MadeCall τ) : Prop :=
  ∃ before notices after call, events = before ++ .wake x.number notices :: after ∧
    Stands before x.number call ∧ call.task = x.task ∧ call.deadline ≤ x.time ∧
    x.time = elapsed before

theorem fires_append_single {events : List (DebounceEvent κ τ)} {e : DebounceEvent κ τ}
    {x : MadeCall τ} :
    Fires (events ++ [e]) x ↔ Fires events x ∨ ∃ notices call, e = .wake x.number notices ∧
      Stands events x.number call ∧ call.task = x.task ∧ call.deadline ≤ x.time ∧
      x.time = elapsed events := by
  constructor
  · rintro ⟨before, notices, after, call, hsplit, hfired⟩
    rcases List.eq_nil_or_concat after with rfl | ⟨front, last, rfl⟩
    · obtain ⟨rfl, hlast⟩ := List.append_inj' hsplit rfl
      exact .inr ⟨notices, call, List.singleton_inj.mp hlast, hfired⟩
    · rw [List.concat_eq_append, ← List.cons_append, ← List.append_assoc] at hsplit
      obtain ⟨rfl, -⟩ := List.append_inj' hsplit rfl
      exact .inl ⟨before, notices, front, call, rfl, hfired⟩
  · rintro (⟨before, notices, after, call, rfl, hfired⟩ | ⟨notices, call, rfl, hfired⟩)
    · exact ⟨before, notices, after ++ [e], call, by simp, hfired⟩
    · exact ⟨events, notices, [], call, rfl, hfired⟩

theorem Fires.number_lt {events : List (DebounceEvent κ τ)} {x : MadeCall τ}
    (h : Fires events x) : x.number < armings events := by
  obtain ⟨before, notices, after, call, rfl, hstands, -⟩ := h
  exact Nat.lt_of_lt_of_le hstands.number_lt (by simp)

/-! ## Runs -/

def start : Debouncing κ τ := ⟨.empty, 0, [], [], []⟩

section

variable [DecidableEq κ]

/-- A call is armed, and the timer of the one in whose place it is armed finds a note. -/
def schedule (s : Debouncing κ τ) (key : κ) (delay : Nat) (task : τ) : Debouncing κ τ :=
  let (ticket, debouncer) := s.debouncer.schedule key (s.clock + delay) task
  { s with
    debouncer := debouncer
    timers := s.timers ++ [ticket]
    revoked := s.revoked ++ s.debouncer.tickets.filter (·.key = key) }

def wake (s : Debouncing κ τ) (number : Nat) (notices : Bool) : Debouncing κ τ :=
  match s.timers[number]? with
  | none => s
  | some ticket =>
    if notices = true ∧ ticket ∈ s.revoked then s
    else match s.debouncer.wake s.clock ticket with
      | (some task, debouncer) =>
        { s with debouncer := debouncer, made := s.made ++ [⟨number, s.clock, task⟩] }
      | (none, _) => s

def step (s : Debouncing κ τ) : DebounceEvent κ τ → Debouncing κ τ
  | .schedule key delay task => s.schedule key delay task
  | .cancel key =>
    { s with
      debouncer := (s.debouncer.cancel key).2
      revoked := s.revoked ++ s.debouncer.tickets.filter (·.key = key) }
  | .cancelAll =>
    { s with
      debouncer := s.debouncer.cancelAll
      revoked := s.revoked ++ s.debouncer.tickets }
  | .wake number notices => s.wake number notices
  | .pass time => { s with clock := s.clock + time }

def run (events : List (DebounceEvent κ τ)) : Debouncing κ τ := events.foldl step start

theorem run_append_single (events : List (DebounceEvent κ τ)) (e : DebounceEvent κ τ) :
    run (events ++ [e]) = (run events).step e := by
  rw [run, List.foldl_append]
  rfl

end

/-! ## The table follows the history -/

/-- The table, the timers and the notes are as the history has them. The calls that are armed are
those that stand, and a note is never about one of them. -/
structure Tracks (events : List (DebounceEvent κ τ)) (s : Debouncing κ τ) : Prop where
  clock : s.clock = elapsed events
  generation : s.debouncer.generation = armings events
  started : s.timers.length = armings events
  numbered : ∀ n ticket, s.timers[n]? = some ticket → ticket.generation = n + 1
  timer : ∀ n call, Stands events n call → s.timers[n]? = some ⟨call.key, n + 1, call.deadline⟩
  armed : ∀ call, call ∈ s.debouncer.armed ↔
    ∃ n, call.ticket.generation = n + 1 ∧ Stands events n call.arming
  unique : s.debouncer.Unique
  revoked : ∀ ticket ∈ s.revoked,
    ticket.generation ≤ armings events ∧ ticket ∉ s.debouncer.tickets

variable {events : List (DebounceEvent κ τ)} {s s' : Debouncing κ τ}

theorem tracks_start : Tracks ([] : List (DebounceEvent κ τ)) start where
  clock := rfl
  generation := rfl
  started := rfl
  numbered := by simp [start]
  timer := by
    rintro n call ⟨before, delay, after, hsplit, -⟩
    simp at hsplit
  armed := by
    intro call
    refine ⟨fun h ↦ absurd h (by simp [start, Debouncer.empty]), ?_⟩
    rintro ⟨n, -, before, delay, after, hsplit, -⟩
    simp at hsplit
  unique := Debouncer.unique_empty
  revoked := by simp [start]

namespace Tracks

theorem ticket_mem (h : Tracks events s) {n : Nat} {call : Arming κ τ}
    (hstands : Stands events n call) :
    ⟨⟨call.key, n + 1, call.deadline⟩, call.task⟩ ∈ s.debouncer.armed :=
  (h.armed _).mpr ⟨n, rfl, hstands⟩

theorem stands_inj (h : Tracks events s) {n : Nat} {call other : Arming κ τ}
    (hcall : Stands events n call) (hother : Stands events n other) : call = other := by
  have hticket := (h.timer n call hcall).symm.trans (h.timer n other hother)
  have hkey : call.key = other.key := congrArg Ticket.key (Option.some.inj hticket)
  have hsame := h.unique.eq_of_key (h.ticket_mem hcall) (h.ticket_mem hother) hkey
  exact congrArg ArmedCall.arming hsame

theorem generation_le (h : Tracks events s) {ticket : Ticket κ}
    (hmem : ticket ∈ s.debouncer.tickets) : ticket.generation ≤ armings events := by
  obtain ⟨call, hcall, rfl⟩ := List.mem_map.mp hmem
  obtain ⟨n, hn, hstands⟩ := (h.armed call).mp hcall
  exact hn ▸ hstands.number_lt

/-- An event that arms no call only takes calls out of the table: those that it ends. -/
theorem narrow (h : Tracks events s) {e : DebounceEvent κ τ} (hquiet : e.isArming = false)
    (hclock : s'.clock = s.clock + e.time)
    (hgeneration : s'.debouncer.generation = s.debouncer.generation)
    (htimers : s'.timers = s.timers)
    (hsub : s'.debouncer.armed.Sublist s.debouncer.armed)
    (hends : ∀ n, ∀ call ∈ s.debouncer.armed, call.ticket.generation = n + 1 →
      (call ∈ s'.debouncer.armed ↔ ¬ e.Ends n call.arming s.clock))
    (hrevoked : ∀ ticket ∈ s'.revoked, ticket ∈ s.revoked ∨
      ticket ∈ s.debouncer.tickets ∧ ticket ∉ s'.debouncer.tickets) :
    Tracks (events ++ [e]) s' := by
  have hcount : armings (events ++ [e]) = armings events := by simp [armings, hquiet]
  have hstands {n : Nat} {call : Arming κ τ} :
      Stands (events ++ [e]) n call ↔ Stands events n call ∧ ¬ e.Ends n call s.clock := by
    rw [stands_append_single, h.clock]
    refine or_iff_left ?_
    rintro ⟨delay, rfl, -⟩
    simp [DebounceEvent.isArming] at hquiet
  constructor
  case clock => rw [hclock, h.clock, elapsed_append, elapsed_single]
  case generation => rw [hgeneration, h.generation, hcount]
  case started => rw [htimers, h.started, hcount]
  case numbered =>
    rw [htimers]
    exact h.numbered
  case timer =>
    intro n call hnew
    rw [htimers]
    exact h.timer n call (hstands.mp hnew).1
  case armed =>
    intro call
    constructor
    · intro hmem
      obtain ⟨n, hn, hold⟩ := (h.armed call).mp (hsub.subset hmem)
      exact ⟨n, hn, hstands.mpr ⟨hold, (hends n call (hsub.subset hmem) hn).mp hmem⟩⟩
    · rintro ⟨n, hn, hnew⟩
      have hold := (h.armed call).mpr ⟨n, hn, (hstands.mp hnew).1⟩
      exact (hends n call hold hn).mpr (hstands.mp hnew).2
  case unique => exact h.unique.sublist (hsub.map _)
  case revoked =>
    intro ticket hmem
    rw [hcount]
    rcases hrevoked ticket hmem with hold | ⟨hold, hnew⟩
    · exact ⟨(h.revoked ticket hold).1,
        fun hstill ↦ (h.revoked ticket hold).2 ((hsub.map _).subset hstill)⟩
    · exact ⟨h.generation_le hold, hnew⟩

end Tracks

/-! ## One event -/

section

variable [DecidableEq κ]

theorem not_mem_tickets_erase {d : Debouncer κ τ} {key : κ} {ticket : Ticket κ}
    (h : ticket.key = key) : ticket ∉ (d.erase key).tickets := by
  intro hmem
  obtain ⟨call, hcall, rfl⟩ := List.mem_map.mp hmem
  exact (Debouncer.mem_erase.mp hcall).2 h

namespace Tracks

theorem schedule (h : Tracks events s) (key : κ) (delay : Nat) (task : τ) :
    Tracks (events ++ [.schedule key delay task]) (s.schedule key delay task) := by
  have hcount : armings (events ++ [.schedule key delay task]) = armings events + 1 := by
    simp [armings, DebounceEvent.isArming]
  have hlast : (s.schedule key delay task).timers[armings events]? =
      some ⟨key, armings events + 1, elapsed events + delay⟩ := by
    simp [Debouncing.schedule, Debouncer.schedule, ← h.started, h.generation, h.clock]
  have hbefore {n : Nat} (hn : n < armings events) :
      (s.schedule key delay task).timers[n]? = s.timers[n]? := by
    simp [Debouncing.schedule, List.getElem?_append_left (h.started ▸ hn)]
  constructor
  case clock =>
    rw [elapsed_append, elapsed_single]
    exact h.clock
  case generation =>
    rw [hcount, ← h.generation]
    rfl
  case started =>
    rw [hcount, ← h.started]
    simp [Debouncing.schedule]
  case numbered =>
    intro n ticket hticket
    rcases Nat.lt_trichotomy n (armings events) with hn | rfl | hn
    · exact h.numbered n ticket (hbefore hn ▸ hticket)
    · rw [hlast] at hticket
      exact congrArg Ticket.generation (Option.some.inj hticket).symm
    · have hlength := (List.getElem?_eq_some_iff.mp hticket).1
      simp only [Debouncing.schedule, List.length_append, h.started, List.length_singleton]
        at hlength
      omega
  case timer =>
    intro n call hnew
    rcases stands_append_single.mp hnew with ⟨hold, -⟩ | ⟨delay', hsame, rfl, hdeadline⟩
    · rw [hbefore hold.number_lt]
      exact h.timer n call hold
    · obtain ⟨rfl, rfl, -⟩ := DebounceEvent.schedule.inj hsame
      rw [hlast, hdeadline]
  case armed =>
    intro call
    refine Debouncer.mem_schedule.trans ?_
    constructor
    · rintro (⟨hold, hkey⟩ | rfl)
      · obtain ⟨n, hn, hstands⟩ := (h.armed call).mp hold
        exact ⟨n, hn, stands_append_single.mpr (.inl ⟨hstands, fun hends ↦ hkey hends.symm⟩)⟩
      · refine ⟨armings events, congrArg (· + 1) h.generation, ?_⟩
        exact stands_append_single.mpr (.inr ⟨delay, rfl, rfl, congrArg (· + delay) h.clock⟩)
    · rintro ⟨n, hn, hnew⟩
      rcases stands_append_single.mp hnew with ⟨hold, hends⟩ | ⟨delay', hsame, rfl, hdeadline⟩
      · exact .inl ⟨(h.armed call).mpr ⟨n, hn, hold⟩, fun hkey ↦ hends hkey.symm⟩
      · obtain ⟨⟨key', generation, deadline⟩, task'⟩ := call
        obtain ⟨rfl, rfl, rfl⟩ := DebounceEvent.schedule.inj hsame
        obtain rfl : deadline = elapsed events + delay := hdeadline
        obtain rfl : generation = armings events + 1 := hn
        rw [h.clock, h.generation]
        exact .inr rfl
  case unique => exact h.unique.schedule key _ _
  case revoked =>
    have hle : ∀ ticket ∈ (s.schedule key delay task).revoked,
        ticket.generation ≤ armings events ∧ ticket ∉ (s.debouncer.erase key).tickets := by
      intro ticket hmem
      rcases List.mem_append.mp hmem with hold | hnew
      · obtain ⟨hgeneration, hgone⟩ := h.revoked ticket hold
        exact ⟨hgeneration, fun hstill ↦ hgone ((List.filter_sublist.map _).subset hstill)⟩
      · rw [List.mem_filter, decide_eq_true_eq] at hnew
        exact ⟨h.generation_le hnew.1, not_mem_tickets_erase hnew.2⟩
    intro ticket hmem
    obtain ⟨hgeneration, hgone⟩ := hle ticket hmem
    refine ⟨by omega, fun hstill ↦ ?_⟩
    obtain ⟨call, hcall, rfl⟩ := List.mem_map.mp hstill
    rcases Debouncer.mem_schedule.mp hcall with ⟨hold, hkey⟩ | rfl
    · exact hgone (List.mem_map.mpr ⟨call, Debouncer.mem_erase.mpr ⟨hold, hkey⟩, rfl⟩)
    · rw [← h.generation] at hgeneration
      exact absurd hgeneration (Nat.not_succ_le_self _)

theorem cancel (h : Tracks events s) (key : κ) :
    Tracks (events ++ [.cancel key]) (s.step (.cancel key)) := by
  refine h.narrow rfl rfl rfl rfl List.filter_sublist ?_ ?_
  · intro n call hcall _
    exact Debouncer.mem_erase.trans ⟨fun h' hends ↦ h'.2 hends.symm,
      fun h' ↦ ⟨hcall, fun hkey ↦ h' hkey.symm⟩⟩
  · intro ticket hmem
    rcases List.mem_append.mp hmem with hold | hnew
    · exact .inl hold
    · rw [List.mem_filter, decide_eq_true_eq] at hnew
      exact .inr ⟨hnew.1, not_mem_tickets_erase hnew.2⟩

theorem cancelAll (h : Tracks events s) :
    Tracks (events ++ [.cancelAll]) (s.step .cancelAll) := by
  refine h.narrow rfl rfl rfl rfl (List.nil_sublist _) ?_ ?_
  · intro n call _ _
    simp [step, Debouncer.cancelAll, DebounceEvent.Ends]
  · intro ticket hmem
    rcases List.mem_append.mp hmem with hold | hnew
    · exact .inl hold
    · exact .inr ⟨hnew, List.not_mem_nil⟩

theorem pass (h : Tracks events s) (time : Nat) :
    Tracks (events ++ [.pass time]) (s.step (.pass time)) := by
  refine h.narrow rfl rfl rfl rfl (List.Sublist.refl _) ?_ ?_
  · intro n call hcall _
    exact iff_of_true hcall id
  · exact fun ticket hmem ↦ .inl hmem

end Tracks

/-- The timer of a call that stands makes the call when it is due, whatever it notices. -/
theorem Tracks.wake_of_stands (h : Tracks events s) {n : Nat} {call : Arming κ τ}
    (hstands : Stands events n call) (hdue : call.deadline ≤ s.clock) (notices : Bool) :
    s.wake n notices =
      { s with
        debouncer := s.debouncer.erase call.key
        made := s.made ++ [⟨n, s.clock, call.task⟩] } := by
  have hmem := h.ticket_mem hstands
  have hnote : ¬ (notices = true ∧ ⟨call.key, n + 1, call.deadline⟩ ∈ s.revoked) := by
    rintro ⟨-, hnote⟩
    exact (h.revoked _ hnote).2 (List.mem_map.mpr ⟨_, hmem, rfl⟩)
  rw [wake, h.timer n call hstands]
  dsimp only
  rw [if_neg hnote, Debouncer.wake_of_armed h.unique hmem hdue]

theorem Tracks.wake_of_not_stands (h : Tracks events s) {n : Nat}
    (hnot : ∀ call, Stands events n call → ¬ call.deadline ≤ s.clock) (notices : Bool) :
    s.wake n notices = s := by
  rw [wake]
  split
  · rfl
  · next ticket hticket =>
    have hnumber := h.numbered n ticket hticket
    have hnothing : s.debouncer.wake s.clock ticket = (none, s.debouncer) := by
      refine Debouncer.wake_of_not_armed fun hdue call hcall hkey hsame ↦ ?_
      obtain ⟨m, hm, hstands⟩ := (h.armed call).mp hcall
      obtain rfl : m = n := by omega
      obtain rfl := Option.some.inj ((h.timer m _ hstands).symm.trans hticket)
      exact hnot _ hstands hdue
    rw [hnothing]
    exact ite_self _

theorem Tracks.wake (h : Tracks events s) (n : Nat) (notices : Bool) :
    Tracks (events ++ [.wake n notices]) (s.wake n notices) := by
  by_cases hfires : ∃ call, Stands events n call ∧ call.deadline ≤ s.clock
  · obtain ⟨call, hstands, hdue⟩ := hfires
    rw [h.wake_of_stands hstands hdue]
    refine h.narrow rfl rfl rfl rfl List.filter_sublist ?_ fun ticket hmem ↦ .inl hmem
    intro m other hother hm
    -- Numbers and keys tell the armed calls apart equally well.
    have hsame : other.ticket.key = call.key ↔ n = m ∧ other.arming.deadline ≤ s.clock := by
      constructor
      · intro hkey
        obtain rfl := h.unique.eq_of_key hother (h.ticket_mem hstands) hkey
        exact ⟨Nat.succ.inj hm, hdue⟩
      · rintro ⟨rfl, -⟩
        obtain ⟨m, hm', hstands'⟩ := (h.armed other).mp hother
        obtain rfl : m = n := by omega
        exact congrArg Arming.key (h.stands_inj hstands' hstands)
    rw [Debouncer.mem_erase, DebounceEvent.Ends, ← hsame, Ne, eq_comm]
    exact and_iff_right hother
  · have hnot : ∀ call, Stands events n call → ¬ call.deadline ≤ s.clock :=
      fun call hstands hdue ↦ hfires ⟨call, hstands, hdue⟩
    rw [h.wake_of_not_stands hnot]
    refine h.narrow rfl rfl rfl rfl (List.Sublist.refl _) ?_ fun ticket hmem ↦ .inl hmem
    intro m other hother hm
    refine iff_of_true hother ?_
    rintro ⟨rfl, hdue⟩
    obtain ⟨m, hm', hstands⟩ := (h.armed other).mp hother
    obtain rfl : m = n := by omega
    exact hnot _ hstands hdue

theorem Tracks.step (h : Tracks events s) (e : DebounceEvent κ τ) :
    Tracks (events ++ [e]) (s.step e) := by
  rcases e with ⟨key, delay, task⟩ | ⟨key⟩ | _ | ⟨n, notices⟩ | ⟨time⟩
  · exact h.schedule key delay task
  · exact h.cancel key
  · exact h.cancelAll
  · exact h.wake n notices
  · exact h.pass time

theorem tracks_run (events : List (DebounceEvent κ τ)) : Tracks events (run events) := by
  induction events using List.reverseRecOn with
  | nil => exact tracks_start
  | append_singleton events e ih =>
    rw [run_append_single]
    exact ih.step e

/-! ## The calls that are made -/

theorem Fires.not_stands {x : MadeCall τ} (h : Fires events x) (call : Arming κ τ) :
    ¬ Stands events x.number call := by
  induction events using List.reverseRecOn with
  | nil =>
    obtain ⟨before, notices, after, call, hsplit, -⟩ := h
    simp at hsplit
  | append_singleton events e ih =>
    intro hstands
    rcases fires_append_single.mp h with hold | ⟨notices, fired, rfl, hfired, -, hdue, htime⟩
    · rcases stands_append_single.mp hstands with ⟨hstill, -⟩ | ⟨delay, -, hnumber, -⟩
      · exact ih hold hstill
      · -- a number is not given twice
        exact absurd hold.number_lt (hnumber ▸ Nat.lt_irrefl _)
    · rcases stands_append_single.mp hstands with ⟨hstill, hends⟩ | ⟨delay, hsame, -⟩
      · obtain rfl := (tracks_run events).stands_inj hstill hfired
        exact hends ⟨rfl, htime ▸ hdue⟩
      · cases hsame

/-- An event makes at most one call, the one that fires. -/
theorem Tracks.made_step (h : Tracks events s) (e : DebounceEvent κ τ) :
    (s.step e).made = s.made ∨ ∃ n notices call, e = .wake n notices ∧ Stands events n call ∧
      call.deadline ≤ s.clock ∧ (s.step e).made = s.made ++ [⟨n, s.clock, call.task⟩] := by
  rcases e with ⟨key, delay, task⟩ | ⟨key⟩ | _ | ⟨n, notices⟩ | ⟨time⟩
  · exact .inl rfl
  · exact .inl rfl
  · exact .inl rfl
  · by_cases hfires : ∃ call, Stands events n call ∧ call.deadline ≤ s.clock
    · obtain ⟨call, hstands, hdue⟩ := hfires
      refine .inr ⟨n, notices, call, rfl, hstands, hdue, ?_⟩
      exact congrArg made (h.wake_of_stands hstands hdue notices)
    · refine .inl (congrArg made (h.wake_of_not_stands ?_ notices))
      exact fun call hstands hdue ↦ hfires ⟨call, hstands, hdue⟩
  · exact .inl rfl

theorem mem_made_run {x : MadeCall τ} : x ∈ (run events).made ↔ Fires events x := by
  induction events using List.reverseRecOn with
  | nil =>
    refine ⟨fun h ↦ absurd h List.not_mem_nil, ?_⟩
    rintro ⟨before, notices, after, call, hsplit, -⟩
    simp at hsplit
  | append_singleton events e ih =>
    have htracks := tracks_run events
    rw [run_append_single, fires_append_single, ← ih]
    rcases htracks.made_step e with hmade | ⟨n, notices, call, rfl, hstands, hdue, hmade⟩
    · rw [hmade]
      refine (or_iff_left ?_).symm
      rintro ⟨notices, call, rfl, hstands, htask, hdue, htime⟩
      rw [htime, ← htracks.clock] at hdue
      have hwake := congrArg made (htracks.wake_of_stands hstands hdue notices)
      exact absurd (hmade.symm.trans hwake) (by simp)
    · rw [hmade, List.mem_append, List.mem_singleton]
      refine or_congr_right ?_
      constructor
      · rintro rfl
        exact ⟨notices, call, rfl, hstands, rfl, hdue, htracks.clock⟩
      · rintro ⟨notices', call', hsame, hstands', htask, -, htime⟩
        obtain ⟨rfl, rfl⟩ := DebounceEvent.wake.inj hsame
        obtain rfl := htracks.stands_inj hstands hstands'
        rw [htracks.clock, htask, ← htime]

theorem nodup_made_run (events : List (DebounceEvent κ τ)) :
    ((run events).made.map (·.number)).Nodup := by
  induction events using List.reverseRecOn with
  | nil => exact List.nodup_nil
  | append_singleton events e ih =>
    have htracks := tracks_run events
    rw [run_append_single]
    rcases htracks.made_step e with hmade | ⟨n, notices, call, rfl, hstands, hdue, hmade⟩
    · rw [hmade]
      exact ih
    · rw [hmade, List.map_append, List.nodup_append]
      refine ⟨ih, List.nodup_singleton _, ?_⟩
      intro number hold number' hnew hsame
      obtain ⟨x, hx, rfl⟩ := List.mem_map.mp hold
      rw [List.map_singleton, List.mem_singleton] at hnew
      exact (mem_made_run.mp hx).not_stands call (by rwa [hsame, hnew])

/-! ## What a history says about a debouncer -/

/-- What has been made of a history is what the calls that stand in it, and those that stood, say
about it. -/
structure Faithful (events : List (DebounceEvent κ τ)) : Prop where
  /-- A call is made if its timer woke while it stood, at its deadline or later, and only then. -/
  made : ∀ x, x ∈ (run events).made ↔ Fires events x
  once : ((run events).made.map (·.number)).Nodup
  /-- If the timer of a call that stands wakes now, and it is time, then the call is made and no
  longer in the table. -/
  wakes : ∀ n call notices, Stands events n call → call.deadline ≤ elapsed events →
    (run (events ++ [.wake n notices])).made =
        (run events).made ++ [⟨n, elapsed events, call.task⟩] ∧
      (run (events ++ [.wake n notices])).debouncer.isPending call.key = false
  /-- There is one entry for each key in the table, and it belongs to a call that stands. -/
  table : ∀ key deadline,
    (key, deadline) ∈ (run events).debouncer.tickets.map (fun t ↦ (t.key, t.deadline)) ↔
      ∃ n task, Stands events n ⟨key, deadline, task⟩
  keys : ((run events).debouncer.tickets.map (·.key)).Nodup
  deadline : ∀ key deadline, (run events).debouncer.deadline? key = some deadline ↔
    ∃ n task, Stands events n ⟨key, deadline, task⟩
  pending : ∀ key, (run events).debouncer.isPending key = true ↔
    ∃ n call, Stands events n call ∧ call.key = key
  cancelled : ∀ key, ((run events).debouncer.cancel key).1 = true ↔
    ∃ n call, Stands events n call ∧ call.key = key

/-- **The last call under a key wins.** After every history of a debouncer, just those calls are
in its table that were armed and have neither been replaced nor taken back nor made, and just those
were made whose timers woke in time before any of this happened. -/
theorem run_faithful (events : List (DebounceEvent κ τ)) : Faithful events := by
  have htracks := tracks_run events
  have hentry (key : κ) (deadline : Nat) :
      (∃ call ∈ (run events).debouncer.armed,
        call.ticket.key = key ∧ call.ticket.deadline = deadline) ↔
      ∃ n task, Stands events n ⟨key, deadline, task⟩ := by
    constructor
    · rintro ⟨call, hcall, rfl, rfl⟩
      obtain ⟨n, -, hstands⟩ := (htracks.armed call).mp hcall
      exact ⟨n, call.task, hstands⟩
    · rintro ⟨n, task, hstands⟩
      exact ⟨_, htracks.ticket_mem hstands, rfl, rfl⟩
  have hpending (key : κ) : (run events).debouncer.isPending key = true ↔
      ∃ n call, Stands events n call ∧ call.key = key := by
    rw [Debouncer.isPending_iff]
    constructor
    · rintro ⟨call, hcall, rfl⟩
      obtain ⟨n, -, hstands⟩ := (htracks.armed call).mp hcall
      exact ⟨n, call.arming, hstands, rfl⟩
    · rintro ⟨n, call, hstands, rfl⟩
      exact ⟨_, htracks.ticket_mem hstands, rfl⟩
  refine ⟨fun x ↦ mem_made_run, nodup_made_run events, ?_, ?_, ?_, ?_, hpending, hpending⟩
  · intro n call notices hstands hdue
    rw [← htracks.clock] at hdue ⊢
    rw [run_append_single, step, htracks.wake_of_stands hstands hdue]
    refine ⟨rfl, ?_⟩
    rw [Bool.eq_false_iff, Ne, Debouncer.isPending_iff]
    rintro ⟨other, hother, hkey⟩
    exact (Debouncer.mem_erase.mp hother).2 hkey
  · intro key deadline
    rw [← hentry]
    simp [Debouncer.tickets]
  · rw [Debouncer.tickets, List.map_map]
    exact htracks.unique
  · intro key deadline
    rw [← hentry, Debouncer.deadline?_eq_some_iff htracks.unique]

/-- Of a burst the last call is made, although the first timer wakes at the same time. -/
example : ((run [.schedule 1 5 'a', .pass 3, .schedule 1 5 'b', .pass 5, .wake 0 false,
    .wake 1 true, .wake 1 false]).made.map (·.task)) = ['b'] := by decide

end

end Debouncing

end CodeHints
