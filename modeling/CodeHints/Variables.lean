import CodeHints.Path
import CodeHints.Settings.Platform

/-!
# Variables of a view and their expansion

Path settings are templates. In a template

* `$name` and `${name}` stand for the value of a variable, or for nothing if it has none;
* `${name:default}` stands for the value, or for the expansion of `default`;
* `\$` stands for a dollar sign, and so does a dollar sign that begins none of the above.

Values are taken as they are: a dollar sign in a value begins nothing. Braces in a default must be
balanced to be read as part of it, and a brace that is never closed ends at the end of the text.
-/

namespace CodeHints

/-- The variables that one view sees, each with its value. -/
structure Variables where
  entries : List (String × String)
  deriving DecidableEq, Repr

namespace Variables

def empty : Variables := ⟨[]⟩

def insert (vars : Variables) (name value : String) : Variables :=
  ⟨vars.entries.filter (·.1 != name) ++ [(name, value)]⟩

/-- Set a variable if there is a value for it. -/
def insert? (vars : Variables) (name : String) : Option String → Variables
  | some value => vars.insert name value
  | none => vars

def get? (vars : Variables) (name : String) : Option String := vars.entries.lookup name

/-- The names of all variables that have a value. -/
def names (vars : Variables) : List String := vars.entries.map (·.1)

/-- Variables from a list, of which later entries win. -/
def ofList (entries : List (String × String)) : Variables :=
  entries.foldl (fun vars e ↦ vars.insert e.1 e.2) empty

/-- The variables of a file and the parts of its path. -/
def insertFile (vars : Variables) (file : String) : Variables :=
  vars.insert "file" file
    |>.insert? "file_path" (Path.parent? file)
    |>.insert? "file_name" (Path.fileName? file)
    |>.insert? "file_base_name" (Path.fileStem? file)
    |>.insert? "file_extension" (Path.extension? file)

/-- The variables of a project file and the parts of its path. -/
def insertProject (vars : Variables) (project : String) : Variables :=
  vars.insert "project" project
    |>.insert? "project_path" (Path.parent? project)
    |>.insert? "project_name" (Path.fileName? project)
    |>.insert? "project_base_name" (Path.fileStem? project)

/-- The standard variables of a view: its file, its project and the first folder of its window. -/
def forView (file project folder : Option String) : Variables :=
  let vars := empty.insert "platform" Platform.host.title
  let vars := match file with
    | some file => vars.insertFile file
    | none => vars
  let vars := match project with
    | some project => vars.insertProject project
    | none => vars
  vars.insert? "folder" folder

/-! ## Expansion -/

def isNameChar (c : Char) : Bool := c.isAlphanum || c == '_'

/-- The text up to the brace that closes it, given how many braces are open inside, and the text
after that brace. -/
def takeBraced : Nat → List Char → List Char × List Char
  | _, [] => ([], [])
  | depth, c :: rest =>
    if c = '\x7d' then
      match depth with
      | 0 => ([], rest)
      | depth + 1 =>
        let (body, after) := takeBraced depth rest
        (c :: body, after)
    else
      let (body, after) := takeBraced (if c = '\x7b' then depth + 1 else depth) rest
      (c :: body, after)

theorem length_takeBraced (depth : Nat) (s : List Char) :
    (takeBraced depth s).1.length + (takeBraced depth s).2.length ≤ s.length := by
  induction s generalizing depth with
  | nil => simp [takeBraced]
  | cons c rest ih =>
    unfold takeBraced
    split
    · cases depth with
      | zero => simp
      | succ depth => have := ih depth; simp; omega
    · have := ih (if c = '\x7b' then depth + 1 else depth)
      simp; omega

/-- The text before and after the first colon. -/
def splitColon? : List Char → Option (List Char × List Char)
  | [] => none
  | c :: rest =>
    if c = ':' then some ([], rest)
    else (splitColon? rest).map fun (before, after) ↦ (c :: before, after)

theorem length_splitColon? {s before after : List Char} (h : splitColon? s = some (before, after)) :
    after.length < s.length := by
  induction s generalizing before with
  | nil => cases h
  | cons c rest ih =>
    unfold splitColon? at h
    split at h
    · cases h; simp
    · obtain ⟨⟨b, a⟩, hr, he⟩ := Option.map_eq_some_iff.1 h
      cases he
      have := ih hr
      simp; omega

/-- The value of a variable, or nothing. -/
def valueOf (vars : Variables) (name : List Char) : List Char :=
  ((vars.get? (String.ofList name)).getD "").toList

/-- The expansion of a template. -/
def expand (vars : Variables) : List Char → List Char
  | [] => []
  | '\\' :: '$' :: rest => '$' :: expand vars rest
  | '$' :: '\x7b' :: rest =>
    have := length_takeBraced 0 rest
    match h : splitColon? (takeBraced 0 rest).1 with
    | some (name, default) =>
      have := length_splitColon? h
      match vars.get? (String.ofList name) with
      | some value => value.toList ++ expand vars (takeBraced 0 rest).2
      | none => expand vars default ++ expand vars (takeBraced 0 rest).2
    | none => vars.valueOf (takeBraced 0 rest).1 ++ expand vars (takeBraced 0 rest).2
  | '$' :: c :: rest =>
    if isNameChar c then
      let name := c :: rest.takeWhile isNameChar
      have : (rest.dropWhile isNameChar).length ≤ rest.length :=
        (List.dropWhile_suffix isNameChar).length_le
      vars.valueOf name ++ expand vars (rest.dropWhile isNameChar)
    else '$' :: expand vars (c :: rest)
  | c :: rest => c :: expand vars rest
termination_by s => s.length
decreasing_by all_goals simp only [List.length_cons]; omega

def substitute (vars : Variables) (template : String) : String :=
  String.ofList (vars.expand template.toList)

def substituteAll (vars : Variables) (templates : List String) : List String :=
  templates.map vars.substitute

end Variables

end CodeHints
