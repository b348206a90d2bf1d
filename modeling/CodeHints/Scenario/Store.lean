import CodeHints.Settings.Store

/-!
# Scripted runs of a settings store

A store, one settings file and any number of named readers, driven by a list of steps. Readers
outlive the store they joined: when the store is exchanged they go on with what it published.
-/

namespace CodeHints.Scenario.Store

inductive Step where
  /-- Put something where the settings file is. -/
  | write (content : FileContent)
  | delete
  /-- Load the settings file, or the directory it is in. -/
  | load (directory : Bool)
  /-- Exchange the store for one with the settings of a document. -/
  | new (text : String)
  | reload
  | replace (text : String)
  | update (patch : List (String × Json))
  | snapshot
  | subscribers
  | subscribe (reader : String)
  | unsubscribe (reader : String)
  /-- Read the next event, and ask it about some settings. -/
  | recv (reader : String) (keys : List Setting)
  /-- A step that is none of these. -/
  | unknown

/-- What a reader reads. -/
inductive Reading where
  | event (change : SettingsChange) (asked : List Setting)
  | lagged (count : Nat)
  | empty
  | closed

inductive Reply where
  | nothing
  | ok
  | badStep
  | flag (b : Bool)
  | count (n : Nat)
  | keys (keys : List Setting)
  | settings (s : Settings)
  | reading (r : Reading)
  | error (e : SettingsError)

/-- A named reader: its position, and the channel of its store if that is no longer the store of
the run. -/
structure Subscriber where
  name : String
  next : Nat
  detached : Option (Channel SettingsChange)

structure State where
  store : SettingsStore
  file : FileContent
  readers : List Subscriber

/-- The path of the settings file. -/
def filePath : String := "<DIR>/store/settings.json"

/-- The path of the directory that the settings file is in. -/
def directoryPath : String := "<DIR>/store"

namespace State

def start : State := ⟨.new .default, .missing, []⟩

/-- The number of readers of the store of the run. -/
def subscriberCount (s : State) : Nat := (s.readers.filter (·.detached.isNone)).length

/-- Exchange the store; its readers keep what it has published. -/
def exchange (s : State) (store : SettingsStore) : State :=
  { s with
    store := store
    readers := s.readers.map fun r ↦
      { r with detached := some (r.detached.getD s.store.changes) } }

/-- The result of an operation on the store. -/
def changed (s : State) (result : Except SettingsError (List Setting × SettingsStore)) :
    Reply × State :=
  match result with
  | .ok (keys, store) => (.keys keys, { s with store := store })
  | .error e => (.error e, s)

def receive (s : State) (r : Subscriber) (asked : List Setting) : Reply × State :=
  let (received, next) := (r.detached.getD s.store.changes).receive r.next
  let reading := match received with
    | .event change => .event change asked
    | .lagged count => .lagged count
    | .nothing => if r.detached.isSome then .closed else .empty
  let readers := s.readers.map fun q ↦ if q.name = r.name then { q with next := next } else q
  (.reading reading, { s with readers := readers })

def step (s : State) : Step → Reply × State
  | .write content => (.flag true, { s with file := content })
  | .delete =>
    match s.file with
    | .missing => (.flag false, s)
    | _ => (.flag true, { s with file := .missing })
  | .load directory =>
    let loaded := if directory then SettingsStore.load directoryPath .directory
      else SettingsStore.load filePath s.file
    match loaded with
    | .ok store => (.ok, s.exchange store)
    | .error e => (.error e, s)
  | .new text =>
    match Settings.parse text with
    | .ok settings => (.ok, s.exchange (.new settings))
    | .error fault => (.error (.document fault), s)
  | .reload => s.changed (s.store.reload fun _ ↦ s.file)
  | .replace text =>
    match Settings.parse text with
    | .ok settings => s.changed (.ok (s.store.replace settings))
    | .error fault => (.error (.document fault), s)
  | .update members => s.changed (s.store.patch members)
  | .snapshot => (.settings s.store.current, s)
  | .subscribers => (.count s.subscriberCount, s)
  | .subscribe name =>
    let others := s.readers.filter (·.name ≠ name)
    (.nothing, { s with readers := others ++ [⟨name, s.store.changes.position, none⟩] })
  | .unsubscribe name =>
    (.flag (s.readers.any (·.name = name)),
      { s with readers := s.readers.filter (·.name ≠ name) })
  | .recv name asked =>
    match s.readers.find? (·.name = name) with
    | some r => s.receive r asked
    | none => (.nothing, s)
  | .unknown => (.badStep, s)

end State

/-- The results of the steps of a run, each with the number of readers after it. -/
def run : State → List Step → List (Reply × Nat)
  | _, [] => []
  | s, step :: rest =>
    let (reply, s) := s.step step
    (reply, s.subscriberCount) :: run s rest

end CodeHints.Scenario.Store
