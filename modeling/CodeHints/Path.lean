/-!
# Parts of paths

A path is a text whose parts are separated by slashes. Looking for its parts, a final slash, doubled
slashes and parts that are a single dot do not count; only a dot at the very front does. Nothing is
normalized: the parent of a path is a piece of its text.
-/

namespace CodeHints.Path

/-- The length of the front of a path: a leading slash, or a leading part that is a dot. -/
def frontLength : List Char → Nat
  | '/' :: _ => 1
  | ['.'] => 1
  | '.' :: '/' :: _ => 1
  | _ => 0

def trimBack : List Char → List Char
  | '/' :: rest => trimBack rest
  | ['.'] => []
  | '.' :: '/' :: rest => trimBack rest
  | rest => rest

/-- The front of a path, and what follows it in reverse, trimmed. -/
def parts (path : String) : List Char × List Char :=
  let cs := path.toList
  let n := frontLength cs
  (cs.take n, trimBack (cs.drop n).reverse)

/-- The last part of a path, unless that is the root, a dot or two dots. -/
def fileName? (path : String) : Option String :=
  let name := (parts path).2.takeWhile (· != '/') |>.reverse
  if name = [] ∨ name = ['.', '.'] then none else some (String.ofList name)

def parent? (path : String) : Option String :=
  match parts path with
  | (['.'], []) => some ""
  | (_, []) => none
  | (front, back) =>
    let rest := (back.dropWhile (· != '/')).drop 1
    some (String.ofList (front ++ (trimBack rest).reverse))

/-- The text before and after the last dot of a name, if something stands before it. -/
def splitName (name : String) : Option (String × String) :=
  let reversed := name.toList.reverse
  let after := reversed.takeWhile (· != '.')
  match reversed.dropWhile (· != '.') with
  | _ :: first :: before =>
    some (String.ofList (first :: before).reverse, String.ofList after.reverse)
  | _ => none

/-- The name of a file without its extension. -/
def fileStem? (path : String) : Option String :=
  (fileName? path).map fun name ↦
    match splitName name with
    | some (stem, _) => stem
    | none => name

/-- What follows the last dot of the name of a file. A dot in front starts no extension. -/
def extension? (path : String) : Option String := do
  let name ← fileName? path
  let (_, extension) ← splitName name
  return extension

def isAbsolute (path : String) : Bool := path.toList.head? == some '/'

/-- A path below another one; an absolute path stands for itself. -/
def join (base path : String) : String :=
  if isAbsolute path then path
  else
    match base.toList.getLast? with
    | none => path
    | some '/' => base ++ path
    | some _ => base ++ "/" ++ path

end CodeHints.Path
