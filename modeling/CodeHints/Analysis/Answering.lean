import CodeHints.Analysis.Environment

/-!
# Answering a request

`execute` puts one request to the engine and contains every failure: an error or a breakdown of the
engine leaves the request without an answer, and nothing else.

An autocomplete request is answered by the parameters of the innermost call around the cursor,
followed by what the engine completes by itself; of entries that insert the same text the first one
stays. A request for arguments is answered by a template of the same parameters.
-/

namespace CodeHints

/-- The name that the engine uses where overloads differ from here on. -/
def ellipsis : String := "..."

/-- A parameter that can be completed. -/
structure ParamHint where
  name : String
  /-- The text of the default; kept only if keyword parameters are wanted. -/
  default : Option String
  deriving DecidableEq, Repr

/-- A text without the blanks at its front. -/
def trimStart (text : String) : String :=
  String.ofList (text.toList.dropWhile Unicode.Property.whiteSpace.holds)

/-- Parameters that are never completed: the receiver, those without a name and the variadic
ones. -/
def Parameter.isSkipped (p : Parameter) : Bool :=
  p.name = "" || p.name = "self" || p.name = ellipsis || p.kind.isVariadic

/-- What is completed for a parameter, if anything. -/
def Parameter.hint? (withKeywords : Bool) (p : Parameter) : Option ParamHint :=
  if p.isSkipped then none
  else match p.default with
    | none => some ⟨p.name, none⟩
    | some value => if withKeywords then some ⟨p.name, some (trimStart value)⟩ else none

/-- The parameters of a call that are looked at: without keywords only those before the first
ellipsis. -/
def CallSignature.reach (withKeywords : Bool) (s : CallSignature) : List Parameter :=
  if withKeywords then s.params else s.params.takeWhile (·.name != ellipsis)

/-- The parameters of a call that can be completed. -/
def functionParameters (s : CallSignature) (withKeywords : Bool) : List ParamHint :=
  (s.reach withKeywords).filterMap (Parameter.hint? withKeywords)

def placeholder (index : Nat) (text : String) : String :=
  "$\x7b" ++ toString index ++ ":" ++ text ++ "\x7d"

/-- The entry for a parameter. -/
def ParamHint.entry (withValues : Bool) (index : Nat) (hint : ParamHint) : Entry where
  label := hint.name ++ "\tparam"
  insertText := match hint.default with
    | some value =>
      if withValues then hint.name ++ "=" ++ placeholder index value
      else placeholder index hint.name
    | none => placeholder index hint.name

/-- Entries for parameters, with placeholders that count from `index`. -/
def hintEntries (withValues : Bool) : Nat → List ParamHint → List Entry
  | _, [] => []
  | index, hint :: rest => hint.entry withValues index :: hintEntries withValues (index + 1) rest

/-- The entries for the parameters of the innermost call. -/
def callEntries (withKeywords withValues : Bool) : List CallSignature → List Entry
  | [] => []
  | s :: _ => hintEntries withValues 1 (functionParameters s withKeywords)

/-- The entry for a completion of the engine. -/
def Completion.entry (c : Completion) : Entry := ⟨c.name ++ "\t" ++ c.kind, c.name⟩

/-- The entries whose text is not among `seen` and does not occur further to the front. -/
def dedupFrom (seen : List String) : List Entry → List Entry
  | [] => []
  | e :: rest =>
    if seen.contains e.insertText then dedupFrom seen rest
    else e :: dedupFrom (e.insertText :: seen) rest

/-- Of entries that insert the same text, only the first one. -/
def dedupByInsertText (entries : List Entry) : List Entry := dedupFrom [] entries

/-- The insertion texts of entries, separated by commas. -/
def templateOf (entries : List Entry) : String :=
  String.intercalate ", " (entries.map (·.insertText))

/-- The number of a line that is passed to the engine, which counts from one in words of 64
bits. -/
def engineLine (line : Nat) : Nat := (line + 1) % 0x10000000000000000

def RequestContext.script (ctx : RequestContext) (env : ResolvedEnvironment) : ScriptRequest where
  source := ctx.source
  line := engineLine ctx.line
  column := ctx.column
  path := ctx.path
  encoding := sourceEncoding
  environment := env.environment
  searchPaths := env.searchPaths

variable {m : Type → Type} [Monad m]

/-- Put a request to the engine. -/
def ask (engine : Engine m) (env : ResolvedEnvironment) (ctx : RequestContext) :
    m (Outcome EngineError Answer) :=
  let script := ctx.script env
  Outcome.andThen (engine.analyze script) fun _ ↦
  Outcome.andThen (engine.callSignatures script) fun signatures ↦
  match ctx.request with
  | .autocomplete fuzzy => do
    return (← engine.completions script fuzzy).map fun found ↦
      .completions (dedupByInsertText (callEntries true true signatures ++ found.map (·.entry)))
  | .funcArgs completeAll =>
    return .value (.template (templateOf (callEntries completeAll completeAll signatures)))

/-- The answer to a request, if the engine gives one. -/
def execute (engine : Engine m) (env : ResolvedEnvironment) (ctx : RequestContext) :
    m (Option Answer) := do
  return (← ask engine env ctx).value?

/-- The environment of one window. A change of configuration leads to a new one. -/
structure Daemon where
  window : WindowKey
  resolved : ResolvedEnvironment
  deriving DecidableEq, Repr

namespace Daemon

/-- Resolve the environment of a window. -/
def create (engine : Engine m) (window : WindowKey) (vars : Variables) (settings : Settings) :
    m (Outcome DaemonError Daemon) := do
  return (← ResolvedEnvironment.resolve engine vars settings Platform.host).map (⟨window, ·⟩)

def request (d : Daemon) (engine : Engine m) (ctx : RequestContext) : m (Option Answer) :=
  execute engine d.resolved ctx

end Daemon

end CodeHints
