import CodeHints.Pipeline.Basic
import CodeHints.Proofs.Announcing

/-!
# The level of the log

An observer takes up the changes of the settings, one after the other, and gives the log the level
that it finds there. It may fall so far behind that changes are lost; then it takes the level that
is in effect at that moment, and goes on with the oldest change that is kept. So the log may go back
to a level that was replaced long ago, and only comes round again with the changes that follow.

## Why it settles

What counts is the level at which the log would arrive if the observer took up everything that is on
its way to it and lost nothing, `LogWatch.arrival`. This level is always the one in effect. A report
of lost changes does not disturb it: if one of the changes that are left is about the level, then
the last one of these decides, as it did before; and if none is, then the level that was taken is
still the one in effect.

Replacing the settings takes two steps, and the observer may come in between.
-/

namespace CodeHints

/-! ## The level that changes lead to -/

/-- The level that a change carries, if it is about the level. -/
def SettingsChange.level? (c : SettingsChange) : Option LogLevel :=
  if c.hasChanged .loggingLevel then some c.settings.loggingLevel else none

/-- The last level that changes carry. -/
def lastLevel? (changes : List SettingsChange) : Option LogLevel :=
  (changes.filterMap SettingsChange.level?).getLast?

theorem lastLevel?_append (changes more : List SettingsChange) :
    lastLevel? (changes ++ more) = (lastLevel? more).or (lastLevel? changes) := by
  rw [lastLevel?, List.filterMap_append, List.getLast?_append]
  rfl

theorem lastLevel?_single (c : SettingsChange) : lastLevel? [c] = c.level? := by
  cases h : c.level? <;> simp [lastLevel?, h]

theorem Settings.getD_level? (a b : Settings) :
    (SettingsChange.mk (a.changedKeys b) b).level?.getD a.loggingLevel = b.loggingLevel := by
  rw [SettingsChange.level?, SettingsChange.hasChanged]
  split
  · rfl
  · next h =>
    rw [List.contains_iff_mem, Settings.mem_changedKeys_iff, ne_eq, Classical.not_not] at h
    exact h

/-- The level that some settings lead to, and the changes after them. -/
theorem Settings.level?_changeTo (a b : Settings) :
    lastLevel? (a.changeTo? b).toList = (SettingsChange.mk (a.changedKeys b) b).level? := by
  rw [changeTo?]
  split
  · next h =>
    rw [SettingsChange.level?, SettingsChange.hasChanged, changedKeys_eq_nil_iff.mpr h]
    rfl
  · exact lastLevel?_single _

/-! ## The state -/

/-- A pipeline with the replacement of the settings that is under way. -/
structure LogWatch (κ : Type) where
  pipeline : Pipeline κ
  /-- The settings before a replacement that has taken effect and is not published yet. -/
  midway : Option Settings

inductive LogWatchEvent where
  /-- New settings take effect, unless a replacement is under way. -/
  | install (settings : Settings)
  /-- The replacement that is under way is published. -/
  | publish
  /-- The observer takes up one change, or one report of lost changes. -/
  | observe
  | shutdown

namespace LogWatch

variable {κ : Type}

def start (p : Pipeline κ) : LogWatch κ := ⟨p, none⟩

/-- The change that the replacement under way is about to publish. -/
def unpublished (s : LogWatch κ) : Option SettingsChange :=
  s.midway.map fun before ↦
    ⟨before.changedKeys s.pipeline.store.current, s.pipeline.store.current⟩

def step (s : LogWatch κ) : LogWatchEvent → LogWatch κ
  | .install settings =>
    match s.midway with
    | some _ => s
    | none =>
      ⟨{ s.pipeline with store := (s.pipeline.store.install settings).2 },
        some s.pipeline.store.current⟩
  | .publish =>
    match s.unpublished with
    | some change => ⟨{ s.pipeline with store := s.pipeline.store.publish change }, none⟩
    | none => s
  | .observe => { s with pipeline := s.pipeline.observeForLog }
  | .shutdown => { s with pipeline := s.pipeline.shutdown }

def run (s : LogWatch κ) (events : List LogWatchEvent) : LogWatch κ := events.foldl step s

theorem run_replace (p : Pipeline κ) (settings : Settings) :
    (start p).run [.install settings, .publish] =
      start { p with store := (p.store.replace settings).2 } := rfl

/-- The observer has taken up everything. -/
def HasRead (s : LogWatch κ) : Prop := s.pipeline.hasNews s.pipeline.logObserver = false

/-! ## What a run keeps -/

/-- The changes on their way to an observer at a position. -/
def ahead (s : LogWatch κ) (next : Nat) : List SettingsChange :=
  s.pipeline.store.changes.history.drop next ++ s.unpublished.toList

/-- Where the log arrives from some level if the observer takes up everything that is ahead. -/
def arrival (s : LogWatch κ) (next : Nat) (level : LogLevel) : LogLevel :=
  (lastLevel? (s.ahead next)).getD level

/-- The log is on its way to the level in effect. -/
def Tracks (s : LogWatch κ) : Prop :=
  ∃ next level, s.pipeline.logObserver = some next ∧ s.pipeline.log = some level ∧
    next ≤ s.pipeline.store.changes.position ∧
    s.arrival next level = s.pipeline.store.current.loggingLevel

variable {s : LogWatch κ}

theorem isShutDown_of_step {e : LogWatchEvent}
    (h : (s.step e).pipeline.isShutDown = false) :
    e ≠ .shutdown ∧ s.pipeline.isShutDown = false := by
  cases e with
  | install settings =>
    rw [step] at h
    split at h <;> exact ⟨nofun, h⟩
  | publish =>
    rw [step] at h
    split at h <;> exact ⟨nofun, h⟩
  | observe =>
    refine ⟨nofun, ?_⟩
    obtain ⟨observer, log, heq⟩ := s.pipeline.observeForLog_cases
    rw [step, heq] at h
    exact h
  | shutdown =>
    have hdown : s.pipeline.shutdown.isShutDown = true := by
      rw [Pipeline.shutdown]
      split
      · assumption
      · rfl
    rw [step, hdown] at h
    cases h

/-- New settings lead to the level that they say: the change that is to be published tells about it
if it is not the level that was in effect. -/
theorem Tracks.install (h : s.Tracks) (settings : Settings) :
    (s.step (.install settings)).Tracks := by
  obtain ⟨next, level, hobserver, hlog, hnext, harrival⟩ := h
  cases hmidway : s.midway with
  | some before =>
    simp only [step, hmidway]
    exact ⟨next, level, hobserver, hlog, hnext, harrival⟩
  | none =>
    simp only [step, hmidway]
    refine ⟨next, level, hobserver, hlog, hnext, ?_⟩
    rw [arrival, ahead, unpublished, hmidway, Option.map_none, Option.toList_none,
      List.append_nil] at harrival
    rw [arrival, ahead, lastLevel?_append, unpublished, Option.map_some, Option.toList_some,
      lastLevel?_single, Option.getD_or]
    exact (congrArg _ harrival).trans (s.pipeline.store.current.getD_level? settings)

theorem Tracks.publish (h : s.Tracks) : (s.step .publish).Tracks := by
  obtain ⟨next, level, hobserver, hlog, hnext, harrival⟩ := h
  cases hmidway : s.midway with
  | none =>
    simp only [step, unpublished, hmidway, Option.map_none]
    exact ⟨next, level, hobserver, hlog, hnext, harrival⟩
  | some before =>
    have hhistory := s.pipeline.store.publish_changeTo before s.pipeline.store.current
    simp only [step, unpublished, hmidway, Option.map_some]
    refine ⟨next, level, hobserver, hlog, ?_, ?_⟩
    · rw [Channel.position, hhistory, List.length_append]
      exact Nat.le_trans hnext (Nat.le_add_right _ _)
    · rw [arrival, ahead, unpublished, hmidway, Option.map_some, Option.toList_some,
        lastLevel?_append, lastLevel?_single] at harrival
      rw [arrival, ahead, unpublished, Option.map_none, Option.toList_none, List.append_nil,
        hhistory, List.drop_append_of_le_length hnext, lastLevel?_append,
        Settings.level?_changeTo, SettingsStore.publish_current]
      exact harrival

/-- The observer takes one step towards the level in effect, or jumps there. -/
theorem Tracks.observe (h : s.Tracks) (hup : s.pipeline.isShutDown = false) :
    (s.step .observe).Tracks := by
  obtain ⟨next, level, hobserver, hlog, hnext, harrival⟩ := h
  obtain ⟨htakes, -, hposition⟩ := Channel.receive_takes hnext
  rw [arrival, ahead] at harrival
  simp only [step, Pipeline.observeForLog, hobserver, hup, Bool.false_eq_true, if_false]
  cases hreceive : s.pipeline.store.changes.receive next with
  | mk received next' =>
    rw [hreceive] at htakes hposition
    dsimp only at htakes hposition ⊢
    generalize hunread : s.pipeline.store.changes.history.drop next = unread at htakes harrival
    generalize hrest : s.pipeline.store.changes.history.drop next' = rest at htakes
    cases htakes with
    | event c rest hkept =>
      rw [List.cons_append, ← List.singleton_append, lastLevel?_append, lastLevel?_single,
        Option.getD_or, SettingsChange.level?] at harrival
      dsimp only
      split
      · next hchanged =>
        rw [if_pos hchanged, Option.getD_some, ← hrest] at harrival
        exact ⟨next', _, rfl, rfl, hposition, harrival⟩
      · next hchanged =>
        rw [if_neg hchanged, Option.getD_none, ← hrest] at harrival
        exact ⟨next', level, rfl, hlog, hposition, harrival⟩
    | lagged lost kept hlost hkept =>
      -- the last level that is still ahead was the last one before, too
      rw [List.append_assoc, lastLevel?_append, ← hrest] at harrival
      refine ⟨next', _, rfl, rfl, hposition, ?_⟩
      change (lastLevel? (s.ahead next')).getD s.pipeline.store.current.loggingLevel =
        s.pipeline.store.current.loggingLevel
      rw [ahead]
      cases hlast : lastLevel? (s.pipeline.store.changes.history.drop next' ++
          s.unpublished.toList) with
      | none => rfl
      | some last =>
        rw [hlast] at harrival
        exact harrival
    | nothing =>
      rw [← hrest] at harrival
      exact ⟨next', level, rfl, hlog, hposition, harrival⟩

theorem Tracks.step (h : s.Tracks) {e : LogWatchEvent}
    (hup : (s.step e).pipeline.isShutDown = false) : (s.step e).Tracks := by
  obtain ⟨hne, hbefore⟩ := isShutDown_of_step hup
  cases e with
  | install settings => exact h.install settings
  | publish => exact h.publish
  | observe => exact h.observe hbefore
  | shutdown => exact absurd rfl hne

theorem run_append_single (s : LogWatch κ) (events : List LogWatchEvent) (e : LogWatchEvent) :
    s.run (events ++ [e]) = (s.run events).step e := List.foldl_concat ..

theorem Tracks.run (h : s.Tracks) {events : List LogWatchEvent}
    (hup : (s.run events).pipeline.isShutDown = false) : (s.run events).Tracks := by
  induction events using List.reverseRecOn with
  | nil => exact h
  | append_singleton events e ih =>
    rw [run_append_single] at hup ⊢
    exact (ih (isShutDown_of_step hup).2).step hup

theorem tracks_start {p : Pipeline κ} (hobserver : p.logObserver = some p.store.changes.position)
    (hlevel : p.log = some p.store.current.loggingLevel) : (start p).Tracks := by
  refine ⟨_, _, hobserver, hlevel, Nat.le_refl _, ?_⟩
  have hahead : (start p).ahead p.store.changes.position = [] := by
    rw [ahead, List.append_eq_nil_iff]
    exact ⟨List.drop_length, rfl⟩
  rw [arrival]
  exact congrArg (fun changes ↦ (lastLevel? changes).getD _) hahead

/-- Once everything is read and nothing is under way the log has arrived. -/
theorem Tracks.arrived (h : s.Tracks) (hmidway : s.midway = none) (hread : s.HasRead) :
    s.pipeline.log = some s.pipeline.store.current.loggingLevel := by
  obtain ⟨next, level, hobserver, hlog, hnext, harrival⟩ := h
  rw [HasRead, hobserver, Pipeline.hasNews, Bool.or_eq_false_iff, decide_eq_false_iff_not] at hread
  have hahead : s.ahead next = [] := by
    rw [ahead, unpublished, hmidway, List.drop_eq_nil_of_le (Nat.not_lt.mp hread.2)]
    rfl
  rw [arrival, hahead] at harrival
  rw [hlog, ← harrival]
  rfl

/-- **The log settles.** An observer is at the end of the channel, and the log has the level in
effect. From then on settings are replaced one after the other, and the observer takes up changes
and reports of lost changes in any order with that. Whenever no replacement is under way, the
observer has taken up everything, and nothing was shut down, the log has the level in effect. -/
theorem settled_level (p : Pipeline κ) (hobserver : p.logObserver = some p.store.changes.position)
    (hlevel : p.log = some p.store.current.loggingLevel) (events : List LogWatchEvent)
    (hmidway : ((start p).run events).midway = none) (hread : ((start p).run events).HasRead)
    (hup : ((start p).run events).pipeline.isShutDown = false) :
    ((start p).run events).pipeline.log =
      some ((start p).run events).pipeline.store.current.loggingLevel :=
  ((tracks_start hobserver hlevel).run hup).arrived hmidway hread

/-! ### An observer that comes too late -/

/-- The level is changed so many times before the observer has its turn, and the observer then takes
so many steps. -/
def lateEvents (changes steps : Nat) : List LogWatchEvent :=
  ((List.range changes).flatMap fun i ↦
    [.install { Settings.default with loggingLevel := Nat.repeat LogLevel.next (i + 1) .error },
      .publish]) ++
  List.replicate steps .observe

/-- A pipeline with a log and the default settings, after such events. -/
def late (changes steps : Nat) : LogWatch Unit :=
  (start (.start .default true)).run (lateEvents changes steps)

/-- Of eighteen changes two are lost. The observer first takes the level in effect, and then goes
back to that of the third change. -/
example : (late 18 1).pipeline.log = some .error ∧ (late 18 3).pipeline.log = some .info := by
  decide +kernel

theorem settled_level_late :
    (Pipeline.start .default true : Pipeline Unit).logObserver = some 0 ∧
      (Pipeline.start .default true : Pipeline Unit).log = some Settings.default.loggingLevel ∧
      (late 18 17).midway = none ∧ (late 18 17).HasRead ∧
      (late 18 17).pipeline.isShutDown = false ∧
      (late 18 17).pipeline.log = some (late 18 17).pipeline.store.current.loggingLevel := by
  have hmidway : (late 18 17).midway = none := by decide +kernel
  have hread : (late 18 17).HasRead := by
    rw [HasRead]
    decide +kernel
  have hup : (late 18 17).pipeline.isShutDown = false := by decide +kernel
  refine ⟨rfl, rfl, hmidway, hread, hup, ?_⟩
  rw [late] at *
  exact settled_level (.start .default true) rfl rfl (lateEvents 18 17) hmidway hread hup

end LogWatch

end CodeHints
