import CodeHints.Settings.Error
import CodeHints.Settings.Writer

/-!
# The settings store and its change channel

A `SettingsStore` holds the settings in effect, the file they come from, and the history of the
changes it has published. Replacing settings takes two steps: `install` puts the new ones into
effect, and `publish` tells about the change if some setting differs.

The channel keeps the last `Channel.capacity` events. A reader remembers how many events came before
the next one it reads. A reader that has fallen further behind than the channel reaches back is told
once how many events it has lost, and goes on with the oldest event that is kept.

The whole history stays in the state, and what a reader sees of it is limited when it reads.
-/

namespace CodeHints

/-- One replacement of the settings, as its readers see it. -/
structure SettingsChange where
  /-- The settings that differ from the ones before. -/
  keys : List Setting
  /-- The settings now in effect. -/
  settings : Settings

namespace SettingsChange

def hasChanged (c : SettingsChange) (key : Setting) : Bool := c.keys.contains key

/-- Whether any of several settings changed. -/
def anyChanged (c : SettingsChange) (keys : List Setting) : Bool := keys.any c.hasChanged

/-- Whether a setting changed that decides about environments. -/
def touchesEnvironment (c : SettingsChange) : Bool := c.anyChanged Setting.environment

end SettingsChange

/-- The events that a channel has carried, the oldest one first. -/
structure Channel (α : Type) where
  history : List α

/-- What a reader gets from a channel. -/
inductive Received (α : Type) where
  | event (a : α)
  /-- So many events were lost. -/
  | lagged (count : Nat)
  /-- There is no event to read. -/
  | nothing

namespace Channel

variable {α : Type}

/-- How many events a channel keeps for its readers. -/
def capacity : Nat := 16

def send (ch : Channel α) (a : α) : Channel α := ⟨ch.history ++ [a]⟩

/-- The position of a reader that joins now. -/
def position (ch : Channel α) : Nat := ch.history.length

/-- The position of the oldest event that is kept. -/
def oldest (ch : Channel α) : Nat := ch.history.length - capacity

/-- What a reader at a position gets, and its next position. -/
def receive (ch : Channel α) (next : Nat) : Received α × Nat :=
  if next < ch.oldest then (.lagged (ch.oldest - next), ch.oldest)
  else
    match ch.history[next]? with
    | some a => (.event a, next + 1)
    | none => (.nothing, next)

end Channel

/-- The settings in effect together with their file and the changes so far. -/
structure SettingsStore where
  current : Settings
  /-- The file that the settings were loaded from. -/
  source : Option String
  changes : Channel SettingsChange

/-- What is found where a file should be. -/
inductive FileContent where
  | missing
  | directory
  /-- Bytes that are no text. -/
  | binary
  | text (content : String)

def Settings.ofFile (path : String) : FileContent → Except SettingsError Settings
  | .missing => .error (.file path .notFound)
  | .directory => .error (.file path .isDirectory)
  | .binary => .error (.file path .notUtf8)
  | .text content => (Settings.parse content).mapError .document

namespace SettingsStore

/-- A store without a file. -/
def new (settings : Settings) : SettingsStore := ⟨settings, none, ⟨[]⟩⟩

/-- A store with the settings of a file. -/
def load (path : String) (content : FileContent) : Except SettingsError SettingsStore := do
  return { new (← Settings.ofFile path content) with source := some path }

/-- Put settings into effect. The result is what changes by that. -/
def install (s : SettingsStore) (settings : Settings) : SettingsChange × SettingsStore :=
  (⟨s.current.changedKeys settings, settings⟩, { s with current := settings })

/-- Publish a change, unless nothing has changed. -/
def publish (s : SettingsStore) (change : SettingsChange) : SettingsStore :=
  if change.keys.isEmpty then s else { s with changes := s.changes.send change }

/-- Put settings into effect and publish the change. The result is the list of changed settings. -/
def replace (s : SettingsStore) (settings : Settings) : List Setting × SettingsStore :=
  let (change, s) := s.install settings
  (change.keys, s.publish change)

/-- Change the settings in effect. -/
def update (s : SettingsStore) (edit : Settings → Settings) : List Setting × SettingsStore :=
  s.replace (edit s.current)

/-- Change the settings in effect by replacing values by name. -/
def patch (s : SettingsStore) (members : List (String × Json)) :
    Except SettingsError (List Setting × SettingsStore) := do
  return s.replace (← (s.current.patched members).mapError .document)

/-- Read the file again. A fault keeps everything as it is. -/
def reload (s : SettingsStore) (read : String → FileContent) :
    Except SettingsError (List Setting × SettingsStore) := do
  match s.source with
  | none => throw .noSource
  | some path => return s.replace (← Settings.ofFile path (read path))

end SettingsStore

end CodeHints
