import CodeHints.Proofs.Settings.Changes
import Mathlib.Data.List.Induction

/-!
# What subscribers are told

Settings are replaced one after the other, and those who want to know of it subscribe to the changes
of the store. Subscribers come, read and leave as they like. An `Announcing` is a store with its
subscribers, and its runs are lists of calls in any order.

## What a subscriber reads

The channel keeps all that it has carried, and a subscriber is a position in it. From outside this
is a queue: what was published after the subscriber's position is still to be read, and
`Channel.Takes` says what one reading takes from such a queue. A queue that is longer than the
channel reaches back is first cut down to that length, and the reader is told how much was cut off.
`Channel.receive_takes` shows that reading at a position is just this, and nothing below looks at
positions any more than it needs to.

## Bookkeeping

The state keeps beside the store which settings were in effect, and for each subscriber when it
joined and what it has read. `Announcing.changesAlong` are the changes that should have been
published, going by the settings that were in effect.
-/

namespace CodeHints

/-! ## Reading from a queue -/

namespace Channel

variable {α : Type}

/-- What a reader takes from the events that it has not read, and what is left of them. -/
inductive Takes : List α → Received α → List α → Prop where
  | event (a : α) (rest : List α) (hkept : (a :: rest).length ≤ capacity) :
      Takes (a :: rest) (.event a) rest
  /-- More events are unread than are kept. -/
  | lagged (lost kept : List α) (hlost : lost ≠ []) (hkept : kept.length = capacity) :
      Takes (lost ++ kept) (.lagged lost.length) kept
  | nothing : Takes [] .nothing []

/-- The events that a reader has gone past when it has heard something, in their order. -/
inductive Covers : List (Received α) → List α → Prop where
  | start : Covers [] []
  | event {heard : List (Received α)} {passed : List α} (h : Covers heard passed) (a : α) :
      Covers (heard ++ [.event a]) (passed ++ [a])
  | lagged {heard : List (Received α)} {passed : List α} (h : Covers heard passed)
      (lost : List α) : Covers (heard ++ [.lagged lost.length]) (passed ++ lost)
  | nothing {heard : List (Received α)} {passed : List α} (h : Covers heard passed) :
      Covers (heard ++ [.nothing]) passed

variable {ch : Channel α} {next : Nat}

/-- **A position in a channel is a queue.** A reader takes from the events behind its position, and
its next position is in front of what is left. -/
theorem receive_takes (h : next ≤ ch.position) :
    Takes (ch.history.drop next) (ch.receive next).1 (ch.history.drop (ch.receive next).2) ∧
      next ≤ (ch.receive next).2 ∧ (ch.receive next).2 ≤ ch.position := by
  rw [position] at h ⊢
  unfold receive
  split
  · next hlag =>
    have hlength : capacity ≤ ch.history.length := by
      rw [oldest] at hlag
      omega
    have hsplit : ch.history.drop next =
        (ch.history.drop next).take (ch.oldest - next) ++ ch.history.drop ch.oldest := by
      have hdrop : ch.history.drop ch.oldest = (ch.history.drop next).drop (ch.oldest - next) := by
        rw [List.drop_drop, Nat.add_sub_cancel' (Nat.le_of_lt hlag)]
      rw [hdrop, List.take_append_drop]
    have hlost : ((ch.history.drop next).take (ch.oldest - next)).length = ch.oldest - next := by
      rw [List.length_take, List.length_drop, oldest]
      omega
    refine ⟨?_, Nat.le_of_lt hlag, Nat.sub_le _ _⟩
    rw [hsplit]
    nth_rewrite 2 [← hlost]
    refine .lagged _ _ (List.ne_nil_of_length_pos ?_) ?_
    · rw [hlost]
      omega
    · rw [List.length_drop, oldest]
      omega
  · next hkept =>
    rw [Nat.not_lt, oldest] at hkept
    cases hget : ch.history[next]? with
    | none =>
      rw [List.getElem?_eq_none_iff] at hget
      refine ⟨?_, Nat.le_refl _, h⟩
      rw [List.drop_eq_nil_of_le hget]
      exact .nothing
    | some a =>
      obtain ⟨hlt, rfl⟩ := List.getElem?_eq_some_iff.mp hget
      refine ⟨?_, Nat.le_succ _, hlt⟩
      rw [List.drop_eq_getElem_cons hlt]
      refine .event _ _ ?_
      rw [← List.drop_eq_getElem_cons hlt, List.length_drop]
      omega

theorem Covers.takes {heard : List (Received α)} {passed unread rest : List α}
    {received : Received α} (h : Covers heard passed) (htakes : Takes unread received rest) :
    ∃ more, Covers (heard ++ [received]) (passed ++ more) ∧ unread = more ++ rest := by
  cases htakes with
  | event a rest hkept => exact ⟨[a], h.event a, rfl⟩
  | lagged lost kept hlost hkept => exact ⟨lost, h.lagged lost, rfl⟩
  | nothing =>
    refine ⟨[], ?_, rfl⟩
    rw [List.append_nil]
    exact h.nothing

end Channel

/-! ## The state -/

structure Subscriber where
  /-- How many changes had been published when it joined. -/
  joined : Nat
  /-- Its position in the channel. -/
  next : Nat
  /-- What it has read, the latest last. -/
  heard : List (Received SettingsChange)
  /-- It has not left. -/
  isPresent : Bool

def Subscriber.hear (sub : Subscriber) (received : Received SettingsChange) (next : Nat) :
    Subscriber :=
  { sub with next := next, heard := sub.heard ++ [received] }

/-- A store with its subscribers. -/
structure Announcing where
  store : SettingsStore
  subscribers : List Subscriber
  /-- The settings that were in effect, the latest last. -/
  snapshots : List Settings

namespace Announcing

inductive Call where
  | replace (settings : Settings)
  | update (edit : Settings → Settings)
  /-- Read the file again, in the state in which the files are then. -/
  | reload (files : String → FileContent)
  | join
  | read (index : Nat)
  | leave (index : Nat)

def start (settings : Settings) (source : Option String) : Announcing :=
  ⟨{ SettingsStore.new settings with source := source }, [], [settings]⟩

def read (s : Announcing) (index : Nat) : Announcing :=
  match s.subscribers[index]? with
  | some sub =>
    if sub.isPresent then
      let (received, next) := s.store.changes.receive sub.next
      { s with subscribers := s.subscribers.set index (sub.hear received next) }
    else s
  | none => s

def perform (s : Announcing) : Call → Announcing
  | .replace settings => { s with store := (s.store.replace settings).2 }
  | .update edit => { s with store := (s.store.update edit).2 }
  | .reload files =>
    match s.store.reload files with
    | .ok (_, store) => { s with store := store }
    | .error _ => s
  | .join =>
    let now := s.store.changes.position
    { s with subscribers := s.subscribers ++ [⟨now, now, [], true⟩] }
  | .read index => s.read index
  | .leave index =>
    { s with subscribers := s.subscribers.modify index ({ · with isPresent := false }) }

/-- The settings that a call is to put into effect. There are none if the store has no file, if the
file cannot be read as a text, or if the text is rejected. -/
def installs (s : Announcing) : Call → Option Settings
  | .replace settings => some settings
  | .update edit => some (edit s.store.current)
  | .reload files =>
    match s.store.source with
    | none => none
    | some path =>
      match files path with
      | .text content => (Settings.parse content).toOption
      | .missing | .directory | .binary => none
  | .join | .read _ | .leave _ => none

/-- Carry out a call, and note the settings that it puts into effect. -/
def step (s : Announcing) (call : Call) : Announcing :=
  { s.perform call with snapshots := s.snapshots ++ (s.installs call).toList }

def run (s : Announcing) (calls : List Call) : Announcing := calls.foldl step s

def events (s : Announcing) : List SettingsChange := s.store.changes.history

/-- What was published and a subscriber has not read. -/
def unread (s : Announcing) (sub : Subscriber) : List SettingsChange := s.events.drop sub.next

/-- The changes along states of the settings: one for every state that differs from the one
before. -/
def changesAlong : List Settings → List SettingsChange
  | a :: b :: rest => (a.changeTo? b).toList ++ changesAlong (b :: rest)
  | _ => []

/-- The subscribers are told what happens to the settings. -/
structure TellsTruth (s : Announcing) : Prop where
  /-- An event for every replacement that changes something. It tells what differs, and carries the
  settings that were put into effect. -/
  published : s.events = changesAlong s.snapshots
  inEffect : s.snapshots.getLast? = some s.store.current
  latest : ∀ c, s.events.getLast? = some c → c.settings = s.store.current
  /-- To read the file again in vain changes nothing. -/
  failing : ∀ files, s.installs (.reload files) = none →
    (∃ e, s.store.reload files = .error e) ∧ s.step (.reload files) = s
  /-- What a subscriber has read accounts for the events since it joined, as far as they are not
  still to be read. -/
  streams : ∀ sub ∈ s.subscribers, ∃ passed, Channel.Covers sub.heard passed ∧
    s.events.drop sub.joined = passed ++ s.unread sub
  /-- A reading takes from what is unread, and has no influence on anything else. -/
  reading : ∀ index sub, s.subscribers[index]? = some sub → sub.isPresent = true →
    ∃ received next, Channel.Takes (s.unread sub) received (s.events.drop next) ∧
      s.step (.read index) =
        { s with subscribers := s.subscribers.set index (sub.hear received next) }

/-! ## What a run keeps -/

theorem changesAlong_concat {states : List Settings} {a : Settings} (h : states.getLast? = some a)
    (b : Settings) :
    changesAlong (states ++ [b]) = changesAlong states ++ (a.changeTo? b).toList := by
  induction states with
  | nil => cases h
  | cons first rest ih =>
    cases rest with
    | nil =>
      obtain rfl := Option.some.inj h
      simp [changesAlong]
    | cons second rest =>
      rw [List.getLast?_cons_cons] at h
      rw [List.cons_append, List.cons_append, changesAlong, changesAlong, ← List.cons_append, ih h,
        List.append_assoc]

/-- The last change along some states leads to the last of them. -/
theorem settings_of_getLast?_changesAlong {states : List Settings} {c : SettingsChange}
    (h : (changesAlong states).getLast? = some c) : states.getLast? = some c.settings := by
  induction states using List.reverseRecOn with
  | nil => cases h
  | append_singleton states b ih =>
    rw [List.getLast?_concat]
    cases hlast : states.getLast? with
    | none =>
      rw [List.getLast?_eq_none_iff.mp hlast] at h
      cases h
    | some a =>
      rw [changesAlong_concat hlast] at h
      cases hchange : a.changeTo? b with
      | none =>
        rw [hchange, Option.toList_none, List.append_nil] at h
        rw [← Settings.eq_of_changeTo?_eq_none hchange, ← hlast, ih h]
      | some d =>
        rw [hchange, Option.toList_some, List.getLast?_concat] at h
        rw [← Option.some.inj h, Settings.settings_of_changeTo? hchange]

/-- What a subscriber has read and what it may still read are together the events since it
joined. -/
structure Follows (events : List SettingsChange) (sub : Subscriber) : Prop where
  joined_le : sub.joined ≤ events.length
  next_le : sub.next ≤ events.length
  stream : ∃ passed, Channel.Covers sub.heard passed ∧
    events.drop sub.joined = passed ++ events.drop sub.next

/-- What holds after every run. -/
structure Sound (s : Announcing) : Prop where
  published : s.events = changesAlong s.snapshots
  inEffect : s.snapshots.getLast? = some s.store.current
  follows : ∀ sub ∈ s.subscribers, Follows s.events sub

variable {s : Announcing}

/-- Events that are published are still to be read. -/
theorem Follows.append {events : List SettingsChange} {sub : Subscriber} (h : Follows events sub)
    (more : List SettingsChange) : Follows (events ++ more) sub := by
  obtain ⟨passed, hcovers, hstream⟩ := h.stream
  have hlength : events.length ≤ (events ++ more).length := by
    rw [List.length_append]
    exact Nat.le_add_right _ _
  refine ⟨Nat.le_trans h.joined_le hlength, Nat.le_trans h.next_le hlength, passed, hcovers, ?_⟩
  rw [List.drop_append_of_le_length h.joined_le, List.drop_append_of_le_length h.next_le, hstream,
    List.append_assoc]

theorem reload_eq_of_installs {files : String → FileContent} {settings : Settings}
    (h : s.installs (.reload files) = some settings) :
    s.store.reload files = .ok (s.store.replace settings) := by
  rw [installs] at h
  rw [SettingsStore.reload]
  cases hsource : s.store.source with
  | none =>
    rw [hsource] at h
    cases h
  | some path =>
    rw [hsource] at h
    dsimp only at h ⊢
    cases hfile : files path with
    | text content =>
      rw [hfile] at h
      dsimp only at h
      cases hparse : Settings.parse content with
      | ok found =>
        rw [hparse] at h
        obtain rfl := Option.some.inj h
        rw [Settings.ofFile, hparse]
        rfl
      | error fault =>
        rw [hparse] at h
        cases h
    | missing | directory | binary =>
      rw [hfile] at h
      cases h

theorem reload_fails_of_installs {files : String → FileContent}
    (h : s.installs (.reload files) = none) : ∃ e, s.store.reload files = .error e := by
  rw [installs] at h
  rw [SettingsStore.reload]
  cases hsource : s.store.source with
  | none => exact ⟨_, rfl⟩
  | some path =>
    rw [hsource] at h
    dsimp only at h ⊢
    cases hfile : files path with
    | text content =>
      rw [hfile] at h
      dsimp only at h
      cases hparse : Settings.parse content with
      | ok found =>
        rw [hparse] at h
        cases h
      | error fault =>
        rw [Settings.ofFile, hparse]
        exact ⟨_, rfl⟩
    | missing | directory | binary => exact ⟨_, rfl⟩

/-- A call either leaves the store alone, or replaces the settings by those that it is to put into
effect. -/
theorem perform_store (s : Announcing) (call : Call) :
    (s.perform call).store = match s.installs call with
      | some settings => (s.store.replace settings).2
      | none => s.store := by
  cases call with
  | replace settings => rfl
  | update edit => rfl
  | join => rfl
  | leave index => rfl
  | read index =>
    simp only [perform, read, installs]
    split
    · split <;> rfl
    · rfl
  | reload files =>
    cases hinstalls : s.installs (.reload files) with
    | some settings => simp only [perform, reload_eq_of_installs hinstalls]
    | none =>
      obtain ⟨e, he⟩ := reload_fails_of_installs hinstalls
      simp only [perform, he]

theorem step_reload_of_fails {files : String → FileContent}
    (h : s.installs (.reload files) = none) : s.step (.reload files) = s := by
  obtain ⟨e, he⟩ := reload_fails_of_installs h
  simp only [step, h, perform, he, Option.toList_none, List.append_nil]

theorem events_step (s : Announcing) (call : Call) :
    (s.step call).events =
      s.events ++ ((s.installs call).bind s.store.current.changeTo?).toList := by
  have hstore := s.perform_store call
  cases hinstalls : s.installs call with
  | some settings =>
    rw [hinstalls] at hstore
    exact (congrArg (·.changes.history) hstore).trans (s.store.replace_history settings)
  | none =>
    rw [hinstalls] at hstore
    exact (congrArg (·.changes.history) hstore).trans (List.append_nil _).symm

theorem step_read {index : Nat} {sub : Subscriber} (h : s.subscribers[index]? = some sub)
    (hpresent : sub.isPresent = true) :
    s.step (.read index) =
      { s with
        subscribers := s.subscribers.set index
          (sub.hear (s.store.changes.receive sub.next).1
            (s.store.changes.receive sub.next).2) } := by
  simp only [step, perform, read, h, hpresent, if_true, installs, Option.toList_none,
    List.append_nil]

theorem Follows.receive {ch : Channel SettingsChange} {sub : Subscriber}
    (h : Follows ch.history sub) :
    Follows ch.history (sub.hear (ch.receive sub.next).1 (ch.receive sub.next).2) := by
  obtain ⟨passed, hcovers, hstream⟩ := h.stream
  obtain ⟨htakes, -, hnext⟩ := Channel.receive_takes h.next_le
  obtain ⟨more, hmore, hunread⟩ := hcovers.takes htakes
  refine ⟨h.joined_le, hnext, passed ++ more, hmore, ?_⟩
  calc ch.history.drop sub.joined
    _ = passed ++ ch.history.drop sub.next := hstream
    _ = passed ++ more ++ ch.history.drop (ch.receive sub.next).2 := by
      rw [hunread, List.append_assoc]

theorem Sound.follows_perform (h : s.Sound) (call : Call) :
    ∀ sub ∈ (s.perform call).subscribers, Follows s.events sub := by
  cases call with
  | replace settings => exact h.follows
  | update edit => exact h.follows
  | reload files =>
    rw [perform]
    split <;> exact h.follows
  | join =>
    intro sub hsub
    obtain hold | hnew := List.mem_append.mp hsub
    · exact h.follows sub hold
    · rw [List.mem_singleton.mp hnew]
      exact ⟨Nat.le_refl _, Nat.le_refl _, [], .start, (List.nil_append _).symm⟩
  | read index =>
    rw [perform, read]
    split
    · next found hfound =>
      split
      · intro sub hsub
        obtain hold | rfl := List.mem_or_eq_of_mem_set hsub
        · exact h.follows sub hold
        · exact (h.follows found (List.mem_of_getElem? hfound)).receive
      · exact h.follows
    · exact h.follows
  | leave index =>
    intro sub hsub
    obtain ⟨i, hi⟩ := List.mem_iff_getElem?.mp hsub
    rw [perform, List.getElem?_modify] at hi
    obtain ⟨old, hold, rfl⟩ := Option.map_eq_some_iff.mp hi
    have hfollows := h.follows old (List.mem_of_getElem? hold)
    split
    · exact ⟨hfollows.joined_le, hfollows.next_le, hfollows.stream⟩
    · exact hfollows

theorem Sound.step (h : s.Sound) (call : Call) : (s.step call).Sound := by
  have hevents := s.events_step call
  have hstore := s.perform_store call
  refine ⟨?_, ?_, fun sub hsub ↦ ?_⟩
  · rw [hevents, h.published, Announcing.step]
    cases hinstalls : s.installs call with
    | none => simp
    | some settings =>
      rw [Option.toList_some, changesAlong_concat h.inEffect]
      rfl
  · rw [Announcing.step]
    cases hinstalls : s.installs call with
    | none =>
      rw [hinstalls] at hstore
      rw [Option.toList_none, List.append_nil, hstore]
      exact h.inEffect
    | some settings =>
      rw [hinstalls] at hstore
      rw [Option.toList_some, List.getLast?_concat, hstore, SettingsStore.replace_current]
  · rw [hevents]
    exact (h.follows_perform call sub hsub).append _

theorem Sound.run (h : s.Sound) (calls : List Call) : (s.run calls).Sound := by
  induction calls generalizing s with
  | nil => exact h
  | cons call rest ih => exact ih (h.step call)

theorem sound_start (settings : Settings) (source : Option String) :
    (start settings source).Sound :=
  ⟨rfl, rfl, fun _ hsub ↦ absurd hsub List.not_mem_nil⟩

theorem Sound.tellsTruth (h : s.Sound) : s.TellsTruth where
  published := h.published
  inEffect := h.inEffect
  latest c hc := by
    rw [h.published] at hc
    exact (Option.some.inj (h.inEffect.symm.trans (settings_of_getLast?_changesAlong hc))).symm
  failing files hfails := ⟨reload_fails_of_installs hfails, step_reload_of_fails hfails⟩
  streams sub hsub := (h.follows sub hsub).stream
  reading index sub hsub hpresent := by
    have hfollows := h.follows sub (List.mem_of_getElem? hsub)
    exact ⟨_, _, (Channel.receive_takes hfollows.next_le).1, step_read hsub hpresent⟩

/-- **The changes tell the truth.** Settings are replaced, updated and read again from the file, one
after the other and with any outcome, while subscribers join, read and leave. Then an event was
published for every replacement that differs from the settings before, with what differs and with
the settings that it put into effect, which are still in effect if the event is the latest one;
reading the file in vain has left everything as it was; and every subscriber has read the events
since it joined, each once and in their order, but for those that it was told to have lost: these
are the oldest ones as soon as there are more than the channel keeps. -/
theorem run_tellsTruth (settings : Settings) (source : Option String) (calls : List Call) :
    ((start settings source).run calls).TellsTruth :=
  ((sound_start settings source).run calls).tellsTruth

end Announcing

end CodeHints
