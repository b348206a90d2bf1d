import CodeHints.Completion.Parameters
import CodeHints.Completion.Listener
import CodeHints.Pipeline.Basic
import CodeHints.Scenario.Engine

/-!
# Scripts of whole sessions

The steps of a script, their results, and what happens while they are performed. Everything that a
script works with has a name: views, listeners, commands, inboxes, environments and workers.
-/

namespace CodeHints.Scenario.Session

inductive ViewEdit where
  | id (value : Nat)
  | window (value : Option WindowKey)
  | isActive (value : Bool)
  | file (value : Option String)
  | text (value : String)
  | selected (value : Option (List Selection))
  | isRepl (value : Bool)
  | isPopupVisible (value : Bool)
  | vars (value : Variables)
  | scope (value : ScopeMatch)

def ViewEdit.apply (v : View) : ViewEdit → View
  | .id value => { v with id := value }
  | .window value => { v with window := value }
  | .isActive value => { v with isActive := value }
  | .file value => { v with file := value }
  | .text value => { v with text := value }
  | .selected value => { v with selected := value }
  | .isRepl value => { v with isRepl := value }
  | .isPopupVisible value => { v with isPopupVisible := value }
  | .vars value => { v with vars := value }
  | .scope value => { v with scope := value }

/-- What a request is about. -/
inductive Subject where
  /-- A view, at a place or at its first cursor. -/
  | view (name : String) (location : Option Nat) (request : Request)
  | snapshot (window : WindowKey) (vars : Variables) (context : RequestContext)

inductive Step where
  /-- Steps with nothing between them. -/
  | batch (steps : List Step)
  /-- Move the clock. -/
  | advance (delay : Nat)
  | engine (edits : List EngineEdit)
  /-- Perform steps during the next call of the engine that has a name. -/
  | hook (call : String) (steps : List Step)
  | update (patch : List (String × Json))
  | snapshot
  | toggleLog
  | logLevel
  | view (view : String) (edits : List ViewEdit)
  | set (view : String) (edits : List ViewEdit)
  | isEnabled (view : String)
  | apply (view : String) (action : ReconcileAction)
  | listener (name : String) (id : Nat)
  | command (name : String)
  | query (listener view : String) (locations : List Nat)
  | listenerState (listener : String)
  | run (command view : String)
  | ask (requester : String) (subject : Subject) (tag : Json)
  | askSync (requester : String) (subject : Subject)
  | isPending (requester : String) (kind : RequestKind)
  | shutdownRequests
  | attach (window : WindowKey) (inbox : String)
  | detach (window : WindowKey)
  | routerDetach (window : WindowKey)
  | routerClear
  | dropInbox (inbox : String)
  | isAttached (window : WindowKey)
  | deliver (window : WindowKey) (text : String)
  | drain (inbox view : String)
  /-- Wait for one delivery. -/
  | recv (inbox view : String) (delay : Nat)
  | getOrCreate (window : WindowKey) (vars : Variables) (name : String)
  | get (window : WindowKey)
  | daemonRequest (daemon : String) (context : RequestContext)
  | size
  | invalidate
  | removeWindow (window : WindowKey)
  | shutdownRegistry
  | settingsChanged (keys : List Setting)
  | worker (window : WindowKey) (name : String)
  | workerState (worker : String)
  | shutdown
  | isShutDown
  /-- A step that is none of these. -/
  | unknown
  deriving Inhabited

mutual

def Step.weight : Step → Nat
  | .batch steps | .hook _ steps => weights steps + 1
  | _ => 1

def weights : List Step → Nat
  | [] => 0
  | step :: rest => step.weight + weights rest

end

/-- What a script names without having made it. -/
inductive Missing where
  | view
  | listener
  | command
  | inbox
  | daemon
  | worker
  deriving DecidableEq, Repr

/-- How the wait for a delivery ends. -/
inductive Reception where
  | delivered
  /-- Nothing can be delivered any more. -/
  | closed
  | timeout
  deriving DecidableEq, Repr

inductive Reply where
  | nothing
  | badStep
  | missing (what : Missing)
  /-- Somebody else waits for what is in the inbox. -/
  | busy
  | flag (b : Bool)
  | count (n : Nat)
  | all (replies : List Reply)
  | keys (keys : List Setting)
  | settings (s : Settings)
  | settingsError (e : SettingsError)
  | level (l : LogLevel)
  | log (level : Option LogLevel)
  | window (w : WindowKey)
  | response (r : QueryResponse)
  | bookkeeping (s : CompletionState)
  | ask (a : Ask)
  | answer (a : Option Answer)
  | daemonError (e : DaemonError)
  | broken (payload : Payload)
  | reception (r : Reception)
  /-- An environment: whether the registry keeps it, and whether it had its name before. -/
  | resolution (daemon : Daemon) (isCached isSame : Bool)
  | daemon (d : Option Daemon)
  | size (n : Nat)
  /-- A worker, and whether it had its name before. -/
  | worker (name : String) (backlog : Nat) (isClosed : Bool) (isSame : Option Bool)
  deriving Inhabited

inductive Event where
  | call (c : Call)
  /-- A step was performed during a call. -/
  | hook (call : String) (reply : Reply)
  /-- A view got a command. -/
  | command (view : String) (command : UiCommand)
  /-- An answer arrived that was asked for by the script. -/
  | answer (answer : Answer) (tag : Json) (view : Nat)

/-- Who takes an answer. -/
inductive Receiver where
  /-- A listener, for a query at a place. -/
  | listener (index location : Nat)
  /-- The command that inserts parameters. -/
  | command
  /-- The script itself. -/
  | script (tag : Json)
  /-- Inserts a text together with the identity of the view. -/
  | stamp

end CodeHints.Scenario.Session
