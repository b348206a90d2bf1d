/-!
# Requests and answers

What the pipeline is asked, the snapshot of a view that it is asked about, and what it answers.
-/

namespace CodeHints

/-- The identity of an editor window. -/
structure WindowKey where
  val : Nat
  deriving DecidableEq, Repr

/-- A completion: what the popup shows, and what is inserted when it is accepted. -/
structure Entry where
  label : String
  insertText : String
  deriving DecidableEq, Repr

/-- The kinds of requests. -/
inductive RequestKind where
  | autocomplete
  | funcArgs
  deriving DecidableEq, Repr

def RequestKind.name : RequestKind → String
  | .autocomplete => "autocomplete"
  | .funcArgs => "funcargs"

/-- A request. -/
inductive Request where
  /-- Completions at the cursor, those for parameters of a call first. -/
  | autocomplete (fuzzy : Bool)
  /-- A template of the parameters of the call around the cursor: all of them with their defaults,
  or only the required ones. -/
  | funcArgs (completeAll : Bool)
  deriving DecidableEq, Repr

def Request.kind : Request → RequestKind
  | .autocomplete _ => .autocomplete
  | .funcArgs _ => .funcArgs

/-- A snapshot of a view at the moment of a request. Lines and columns count from zero. -/
structure RequestContext where
  /-- The file of the view, if it has one. -/
  path : Option String
  source : String
  line : Nat
  column : Nat
  request : Request
  deriving DecidableEq, Repr

/-- The answer to a request. -/
inductive Answer where
  | completions (entries : List Entry)
  /-- Placeholders for parameters, separated by commas. -/
  | template (text : String)
  deriving DecidableEq, Repr

end CodeHints
