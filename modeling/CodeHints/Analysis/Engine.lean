import CodeHints.Analysis.Request

/-!
# The contract of the analyzer

The pipeline does not analyze anything itself. An `Engine` answers questions about environments and
about one source snapshot at a time. Its operations run in a monad of their own, so the code that
uses an engine is written once: over a plain engine, over one that keeps a list of its calls, or
over one whose calls are steps of a schedule.

A call succeeds, reports an error, or breaks down with a payload that may or may not be readable.
-/

namespace CodeHints

/-- What an engine reports when it cannot do something. -/
inductive EngineError where
  /-- An interpreter or a virtual environment cannot be used. -/
  | environment (message : String)
  /-- The analysis of a source failed. -/
  | analysis (message : String)
  deriving DecidableEq, Repr

def EngineError.message : EngineError → String
  | .environment m => "cannot create environment: " ++ m
  | .analysis m => "analysis failed: " ++ m

/-- What is known about a breakdown. -/
inductive Payload where
  | text (message : String)
  /-- Something that is no text. -/
  | unreadable
  deriving DecidableEq, Repr

def Payload.message : Payload → String
  | .text m => m
  | .unreadable => "non-string panic payload"

/-- How a computation ends that can report an error or break down. -/
inductive Outcome (ε α : Type) where
  | value (a : α)
  | failed (error : ε)
  | broken (payload : Payload)

namespace Outcome

variable {ε ε' α β : Type}

def map (f : α → β) : Outcome ε α → Outcome ε β
  | .value a => .value (f a)
  | .failed e => .failed e
  | .broken p => .broken p

def mapError (f : ε → ε') : Outcome ε α → Outcome ε' α
  | .value a => .value a
  | .failed e => .failed (f e)
  | .broken p => .broken p

/-- Go on with the value of a success; anything else ends the computation. -/
def andThen {m : Type → Type} [Monad m] (first : m (Outcome ε α)) (next : α → m (Outcome ε β)) :
    m (Outcome ε β) := do
  match ← first with
  | .value a => next a
  | .failed e => return .failed e
  | .broken p => return .broken p

def value? : Outcome ε α → Option α
  | .value a => some a
  | _ => none

end Outcome

/-- An environment as an engine reports it. -/
structure Environment where
  /-- What the environment was made from. -/
  executable : String
  /-- Its own module search path. -/
  sysPath : List String
  deriving DecidableEq, Repr

/-- The encoding that every source snapshot is passed with. -/
def sourceEncoding : String := "utf-8"

/-- The question about one source snapshot. Lines count from one here, columns from zero. -/
structure ScriptRequest where
  source : String
  line : Nat
  column : Nat
  path : Option String
  encoding : String
  environment : Environment
  searchPaths : List String
  deriving DecidableEq, Repr

/-- A completion that the engine found by itself. -/
structure Completion where
  name : String
  /-- What the completion is, for instance a function or a module. -/
  kind : String
  deriving DecidableEq, Repr

/-- The ways in which a parameter takes its argument. -/
inductive ParamKind where
  | positionalOnly
  | positionalOrKeyword
  /-- Takes all further positional arguments. -/
  | varPositional
  | keywordOnly
  /-- Takes all further keyword arguments. -/
  | varKeyword
  deriving DecidableEq, Repr

/-- Whether a parameter takes any number of arguments. -/
def ParamKind.isVariadic : ParamKind → Bool
  | .varPositional | .varKeyword => true
  | _ => false

/-- A parameter of a call. -/
structure Parameter where
  name : String
  kind : ParamKind
  /-- The text of the default, if there is one. -/
  default : Option String
  deriving DecidableEq, Repr

/-- The call around the cursor. -/
structure CallSignature where
  name : String
  params : List Parameter
  deriving DecidableEq, Repr

/-- An analyzer whose operations run in a monad `m`. The questions about an analyzed source take
the request that it was analyzed with. -/
structure Engine (m : Type → Type) where
  /-- The environment that is found without any configuration. -/
  defaultEnvironment : m (Outcome EngineError Environment)
  /-- Make an environment from a virtual environment or an interpreter. -/
  createEnvironment : String → m (Outcome EngineError Environment)
  /-- Analyze a source. -/
  analyze : ScriptRequest → m (Outcome EngineError Unit)
  /-- The signatures of the calls around the cursor, the innermost one first. -/
  callSignatures : ScriptRequest → m (Outcome EngineError (List CallSignature))
  /-- The completions at the cursor. -/
  completions : ScriptRequest → Bool → m (Outcome EngineError (List Completion))

end CodeHints
