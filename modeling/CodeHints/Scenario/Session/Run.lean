import CodeHints.Scenario.Session.World

/-!
# Running a script

A session runs on two threads. The main thread performs the steps of the script and its own tasks,
and the other one runs the jobs of all workers, one at a time and in the order in which they were
handed over. A job goes on only when the main thread is idle.

During a call of the engine the script may perform further steps. A call that is made inside a job
lets the main thread run after each of them; a call on the main thread does not.

Steps that call the engine may lead to steps inside a call, which may call the engine again. A hook
is used once, so the number of steps in a script bounds how deep this goes.
-/

namespace CodeHints.Scenario.Session

/-- What changes the world of a script and yields an `α`. -/
abbrev Run := StateM World

/-- Every change of the pipeline lets the tasks join the queue that have something to do then. -/
def access : Access (Pipeline Receiver) Run := ⟨fun f ↦ modifyGet (·.step f)⟩

namespace World

/-! ## Names -/

/-- The instance of a name, which is made if there is none. -/
def requester (w : World) (name : String) : InstanceId × World :=
  match w.requesters.lookup name with
  | some id => (id, w)
  | none =>
    let id := ⟨w.requesterCount⟩
    (id,
      { w with requesters := w.requesters ++ [(name, id)], requesterCount := w.requesterCount + 1 })

/-- A new instance for a name. -/
def newRequester (w : World) (name : String) : InstanceId × World :=
  { w with requesters := w.requesters.filter (·.1 ≠ name) }.requester name

/-- What is asked about a subject, unless it cannot be asked about. -/
def askAbout? (w : World) (requester : InstanceId) : Subject → Option Ask
  | .view name location request => do
    Ask.ofView? (← w.views.lookup name) requester location request
  | .snapshot window vars context => some ⟨window, requester, vars, context⟩

/-- The keys under which requests are held back, by the names of their instances. -/
def pending (w : World) : List (String × RequestKind) :=
  (w.requesters.mergeSort fun a b ↦ a.1 ≤ b.1).flatMap fun (name, id) ↦
    ([.autocomplete, .funcArgs].filter fun kind ↦ w.pipeline.debouncer.isPending ⟨id, kind⟩).map
      (name, ·)

/-! ## Steps that do not call the engine -/

def ask (w : World) (ask : Ask) (receiver : Receiver) : World :=
  let (ticket, w) := w.step (·.ask w.clock ⟨ask, receiver⟩)
  w.startTimers [ticket]

def query (w : World) (listener : Listener) (view : View) (locations : List Nat) :
    QueryResponse × World :=
  let settings := w.pipeline.store.current
  let outcome := (w.bookkeeping[listener.index]?.getD .empty).query settings view locations
  let w := { w with bookkeeping := w.bookkeeping.set listener.index outcome.state }
  let request := outcome.request.bind fun location ↦
    (Ask.ofView? view listener.requester (some location) (.autocomplete settings.fuzzy)).map
      (location, ·)
  match request with
  | some (location, a) => (outcome.response, w.ask a (.listener listener.index location))
  | none => (outcome.response, w)

/-- Give an inbox up, unless somebody waits for what is in it. -/
def giveUp (w : World) (inbox : InboxId) : World :=
  if (w.waiting.filter (·.inbox = inbox)).isSome then w
  else w.change (·.drop inbox)

/-- Open an inbox for a window under a name, in the place of what had that name. -/
def attach (w : World) (window : WindowKey) (inbox : String) : World :=
  let (id, w') := w.step (·.attachWindow window)
  let w' := { w' with inboxes := bind w'.inboxes inbox id }
  match w.inboxes.lookup inbox with
  | some old => w'.giveUp old
  | none => w'

/-- Run everything in an inbox. -/
def drain (w : World) (inbox : InboxId) (view : String) : Reply × World :=
  match w.waiting with
  | some ⟨waitingFor, _, none⟩ =>
    if waitingFor = inbox then (.busy, w) else go
  | _ => go
where
  /-- Take everything out of the inbox and run it. -/
  go : Reply × World :=
    let (deliveries, w) := w.step fun p ↦
      let (deliveries, router) := p.router.takeAll inbox
      (deliveries, { p with router := router })
    (.count deliveries.length, deliveries.foldl (·.runDelivery view ·) w)

def workerReply (w : World) (id : WorkerId) (isSame : Option Bool) : Reply :=
  match w.pipeline.pool.worker? id with
  | some worker => .worker worker.name worker.backlog worker.isClosed isSame
  | none => .missing .worker

/-- Keep a handle to the worker of a window under a name. -/
def keepWorker (w : World) (window : WindowKey) (name : String) : Reply × World :=
  let (id, w') := w.step fun p ↦
    let (id, p) := p.worker window
    (id, { p with pool := p.pool.retain id })
  let old := w.workers.lookup name
  let w' := { w' with workers := bind w'.workers name id }
  let w' := match old with
    | some old => w'.change fun p ↦ { p with pool := p.pool.release old }
    | none => w'
  (w'.workerReply id (some (old = some id)), w')

/-- Look something up that the script has named. -/
def withNamed {α : Type} (w : World) (found : Option α) (what : Missing) (f : α → Reply × World) :
    Reply × World :=
  match found with
  | some a => f a
  | none => (.missing what, w)

/-- Perform a step that does not call the engine. -/
def perform (w : World) : Step → Reply × World
  | .engine edits => (.nothing, { w with engine := edits.foldl .edit w.engine })
  | .hook call steps => (.nothing, { w with hooks := w.hooks ++ [(call, steps)] })
  | .update patch =>
    match w.pipeline.store.patch patch with
    | .ok (keys, store) => (.keys keys, w.change ({ · with store := store }))
    | .error e => (.settingsError e, w)
  | .snapshot => (.settings w.pipeline.store.current, w)
  | .toggleLog =>
    let (level, w) := w.step (·.toggleLog)
    (.level level, w)
  | .logLevel => (.log w.pipeline.log, w)
  | .view view edits =>
    (.nothing, { w with views := bind w.views view (edits.foldl ViewEdit.apply .plain) })
  | .set view edits => w.withNamed (w.views.lookup view) .view fun v ↦
    (.nothing, { w with views := bind w.views view (edits.foldl ViewEdit.apply v) })
  | .isEnabled view => w.withNamed (w.views.lookup view) .view fun v ↦
    (.flag (v.isEnabled w.pipeline.store.current), w)
  | .apply view action => w.withNamed (w.views.lookup view) .view fun _ ↦
    (.nothing, w.runCommands view (action.commands w.pipeline.store.current.visibility))
  | .listener name id =>
    let (requester, w) := w.newRequester name
    (.count id,
      { w with
        listeners := bind w.listeners name ⟨requester, w.bookkeeping.length⟩
        bookkeeping := w.bookkeeping ++ [.empty] })
  | .command name =>
    let (requester, w) := w.newRequester name
    (.nothing, { w with commands := bind w.commands name requester })
  | .query listener view locations =>
    w.withNamed (w.listeners.lookup listener) .listener fun l ↦
    w.withNamed (w.views.lookup view) .listener fun v ↦
      let (response, w) := w.query l v locations
      (.response response, w)
  | .listenerState listener => w.withNamed (w.listeners.lookup listener) .listener fun l ↦
    (.bookkeeping (w.bookkeeping[l.index]?.getD .empty), w)
  | .run command view =>
    w.withNamed (w.commands.lookup command) .command fun requester ↦
    w.withNamed (w.views.lookup view) .command fun v ↦
      match Parameters.ask? w.pipeline.store.current v requester with
      | some a => (.flag true, w.ask a .command)
      | none => (.flag false, w)
  | .ask requester subject tag =>
    let (id, w) := w.requester requester
    match w.askAbout? id subject with
    | some a => (.ask a, w.ask a (.script tag))
    | none => (.nothing, w)
  | .isPending requester kind =>
    let (id, w) := w.requester requester
    (.flag (w.pipeline.debouncer.isPending ⟨id, kind⟩), w)
  | .shutdownRequests => (.nothing, w.change (·.shutdownRequests))
  | .attach window inbox => (.window window, w.attach window inbox)
  | .detach window => (.nothing, w.change (·.detachWindow window))
  | .routerDetach window =>
    (.nothing, w.change fun p ↦ { p with router := p.router.detach window })
  | .routerClear => (.nothing, w.change fun p ↦ { p with router := p.router.clear })
  | .dropInbox inbox =>
    match w.inboxes.lookup inbox with
    | some id =>
      (.flag true, { w with inboxes := w.inboxes.filter (·.1 ≠ inbox) }.giveUp id)
    | none => (.flag false, w)
  | .isAttached window => (.flag (w.pipeline.router.isAttached window), w)
  | .deliver window text =>
    let (accepted, w) := w.step fun p ↦
      let (accepted, router) := p.router.deliver window ⟨.stamp, .template text⟩
      (accepted, { p with router := router })
    (.flag accepted, w)
  | .drain inbox view =>
    w.withNamed (w.inboxes.lookup inbox) .inbox fun id ↦
    w.withNamed (w.views.lookup view) .inbox fun _ ↦ w.drain id view
  | .get window => (.daemon ((w.pipeline.registry.daemon? window).map (·.daemon)), w)
  | .size => (.size w.pipeline.registry.daemons.length, w)
  | .invalidate => (.nothing, w.change (·.invalidateAll))
  | .removeWindow window => (.nothing, w.change (·.removeWindow window))
  | .shutdownRegistry => (.nothing, w.change (·.shutdownRegistry))
  | .settingsChanged keys =>
    let (cleared, w) := w.step fun p ↦ p.settingsChanged ⟨keys, p.store.current⟩
    (.flag cleared, w)
  | .worker window name => w.keepWorker window name
  | .workerState worker => w.withNamed (w.workers.lookup worker) .worker fun id ↦
    (w.workerReply id none, w)
  | .shutdown =>
    let w := w.change (·.shutdown)
    (.flag w.pipeline.isShutDown, w)
  | .isShutDown => (.flag w.pipeline.isShutDown, w)
  | .batch _ | .advance _ | .recv .. | .askSync .. | .getOrCreate .. | .daemonRequest ..
  | .unknown => (.badStep, w)

/-- Take the steps that are to be performed during a call. -/
def takeHook (w : World) (call : String) : List Step × World :=
  match w.hooks.find? (·.1 = call) with
  | some (_, steps) => (steps, { w with hooks := w.hooks.eraseP (·.1 = call) })
  | none => ([], w)

end World

/-! ## Steps that call the engine -/

/-- The engine of a script, of which calls perform steps. -/
def engineWith (perform : Step → Run Reply) : Engine Run :=
  EngineScript.engine
    (fun call ↦ do
      modify (·.note (.call call))
      let steps ← modifyGet (·.takeHook call.name)
      steps.forM fun step ↦ do
        let reply ← perform step
        modify (·.note (.hook call.name reply))
        if (← get).isInJob then modify (·.runMain))
    (return (← get).engine)

/-- The result of a step that may fail or break down. -/
def Reply.ofOutcome {α : Type} (ok : α → Reply) : Outcome DaemonError α → Reply
  | .value a => ok a
  | .failed e => .daemonError e
  | .broken payload => .broken payload

/-- Answer a request at once. -/
def askSync (engine : Engine Run) (requester : String) (subject : Subject) : Run Reply := do
  let id ← modifyGet (·.requester requester)
  match (← get).askAbout? id subject with
  | some a => return .ofOutcome .answer (← Pipeline.askSync access engine a)
  | none => return .nothing

def getOrCreate (engine : Engine Run) (window : WindowKey) (vars : Variables)
    (name : String) : Run Reply := do
  let settings := (← get).pipeline.store.current
  match ← Pipeline.getOrCreate access engine window vars settings with
  | .value found =>
    let w ← get
    let isSame := (w.daemons.lookup name).any (·.serial = found.serial)
    let isCached := (w.pipeline.registry.daemon? window).any (·.serial = found.serial)
    set { w with daemons := bind w.daemons name found }
    return .resolution found.daemon isCached isSame
  | .failed e => return .daemonError e
  | .broken payload => return .broken payload

def perform : Nat → Step → Run Reply
  | 0, _ => return .badStep
  | fuel + 1, step =>
    let engine := engineWith (perform fuel)
    match step with
    | .batch steps => return .all (← steps.mapM (perform fuel))
    | .askSync requester subject => askSync engine requester subject
    | .getOrCreate window vars name => getOrCreate engine window vars name
    | .daemonRequest name context => do
      match (← get).daemons.lookup name with
      | some found => return .answer (← found.daemon.request engine context)
      | none => return .missing .daemon
    | other => modifyGet (·.perform other)

/-! ## Both threads -/

/-- Let the oldest job begin that has been handed over. -/
def beginJob : Run (Option (WorkerId × Job (Inquiry Receiver))) :=
  access.step fun p ↦
    match p.pool.handed with
    | (id, _) :: _ =>
      match p.begin? id with
      | some (job, p) => (some (id, job), p)
      | none => (none, p)
    | [] => (none, p)

/-- Run both threads until they are idle, but no more than so many jobs. -/
def settle (engine : Engine Run) : Nat → Run Unit
  | 0 => modify (·.runMain)
  | jobs + 1 => do
    modify (·.runMain)
    match ← beginJob with
    | some (id, job) =>
      modify ({ · with isInJob := true })
      Pipeline.runJob access engine job
      modify ({ · with isInJob := false }.change (·.finish id))
      settle engine jobs
    | none => return

/-- Move the clock to `stop`, with a halt at every deadline on the way. -/
def advance (settle : Run Unit) (stop : Nat) : Nat → Run Unit
  | 0 => modify (·.moveClock stop)
  | halts + 1 => do
    match (← get).pipeline.debouncer.nextDeadline? with
    | some deadline =>
      if deadline ≤ stop then
        modify (·.moveClock deadline)
        settle
        advance settle stop halts
      else modify ({ · with clock := stop })
    | none => modify ({ · with clock := stop })

/-- Wait for a delivery until the time `stop`, with a halt at every deadline on the way. When the
time is up the wait ends, and only then do the timers run that are due at that time. -/
def await (settle : Run Unit) (stop : Nat) : Nat → Run Reception
  | 0 => return .timeout
  | halts + 1 => do
    settle
    match (← get).waiting.bind (·.result) with
    | some result => return result
    | none =>
      match (← get).pipeline.debouncer.nextDeadline?.filter (· < stop) with
      | some deadline =>
        modify (·.moveClock deadline)
        await settle stop halts
      | none =>
        modify ({ · with waiting := none })
        modify (·.moveClock stop)
        settle
        return .timeout

/-- Wait for a delivery. An inbox whose name has gone during the wait is given up after it. -/
def receive (settle : Run Unit) (halts : Nat) (inbox view : String) (delay : Nat) : Run Reply := do
  let w ← get
  match w.inboxes.lookup inbox, w.views.lookup view with
  | some id, some _ =>
    set { w with waiting := some ⟨id, view, none⟩ }.refresh
    let reception ← await settle (w.clock + delay) halts
    modify fun w ↦
      let w := { w with waiting := none }
      if w.inboxes.any (·.2 = id) then w else w.giveUp id
    return .reception reception
  | _, _ => return .missing .inbox

/-- Perform a step of the script, and then everything that can run without moving the clock. -/
def topStep (fuel : Nat) (step : Step) : Run Reply := do
  let settle := settle (engineWith (perform fuel)) fuel
  match step with
  | .advance delay =>
    advance settle ((← get).clock + delay) fuel
    return .nothing
  | .recv inbox view delay =>
    let reply ← receive settle fuel inbox view delay
    settle
    return reply
  | other =>
    let reply ← perform fuel other
    settle
    return reply

/-- The result of a step of the script, what happened during it, and what there is after it. -/
structure Report where
  reply : Reply
  events : List Event
  clock : Nat
  daemons : Nat
  workers : Nat
  generation : Nat
  pending : List (String × RequestKind)
  observers : Nat

def World.report (w : World) (reply : Reply) : Report where
  reply := reply
  events := w.events
  clock := w.clock
  daemons := w.pipeline.registry.daemons.length
  workers := w.pipeline.registry.workers.length
  generation := w.pipeline.registry.generation
  pending := w.pending
  observers := w.pipeline.observerCount

def reports (fuel : Nat) : World → List Step → List Report
  | _, [] => []
  | w, step :: rest =>
    let (reply, w) := (topStep fuel step).run { w with events := [] }
    w.report reply :: reports fuel w rest

/-- The world at the beginning of a script of some length. -/
def World.start (settings : Settings) (engine : EngineScript) (hasLog : Bool) (length : Nat) :
    World :=
  World.refresh {
    clock := 0
    pipeline := .start settings hasLog
    engine := engine
    hooks := []
    isInJob := false
    views := []
    requesters := []
    requesterCount := 0
    listeners := []
    bookkeeping := []
    commands := []
    inboxes := []
    daemons := []
    workers := []
    waiting := none
    ready := []
    events := []
    patience := 8 * length + 16 }

def run (settings : Settings) (engine : EngineScript) (hasLog : Bool) (steps : List Step) :
    List Report :=
  let length := weights steps
  reports (8 * length + 16) (.start settings engine hasLog length) steps

end CodeHints.Scenario.Session
