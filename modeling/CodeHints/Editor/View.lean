import CodeHints.Analysis.Request
import CodeHints.Editor.Command
import CodeHints.Settings.Basic
import CodeHints.Variables

/-!
# Views of the editor

What the pipeline sees of one buffer: its text, its cursors, where it belongs and what may be
completed in it. Places in the text are counted in characters from its beginning.
-/

namespace CodeHints

/-- Which scope selectors match, and where. -/
inductive ScopeMatch where
  /-- Every selector matches everywhere, or none does anywhere. -/
  | everywhere (doesMatch : Bool)
  /-- One selector matches, and only at some places. -/
  | only (selector : String) (locations : List Nat)
  deriving DecidableEq, Repr

/-- Whether a selector matches at a place. -/
def ScopeMatch.matchesAt (scope : ScopeMatch) (location : Nat) (selector : String) : Bool :=
  match scope with
  | .everywhere doesMatch => doesMatch
  | .only s locations => s == selector && locations.contains location

/-- A selected stretch of text; a cursor is an empty one. -/
structure Selection where
  start : Nat
  stop : Nat
  deriving DecidableEq, Repr

/-- A view of a buffer. -/
structure View where
  id : Nat
  /-- The window that the view belongs to. -/
  window : Option WindowKey
  /-- Whether this is the view that is being edited. -/
  isActive : Bool
  file : Option String
  text : String
  /-- The selections, if they are known. -/
  selected : Option (List Selection)
  /-- Whether the view is a console. -/
  isRepl : Bool
  isPopupVisible : Bool
  vars : Variables
  scope : ScopeMatch
  deriving DecidableEq, Repr

namespace View

/-- An empty view that belongs to no window. -/
def plain : View where
  id := 0
  window := none
  isActive := true
  file := none
  text := ""
  selected := none
  isRepl := false
  isPopupVisible := false
  vars := .empty
  scope := .everywhere true

/-- The selections. Unless something else is known there is one cursor at the end of the text. -/
def selections (v : View) : List Selection :=
  v.selected.getD [⟨v.text.toList.length, v.text.toList.length⟩]

/-- Line and column of a place, counted from zero. -/
def lineAndColumn (v : View) (location : Nat) : Nat × Nat :=
  let before := v.text.toList.take location
  (before.count '\n', (before.reverse.takeWhile (· ≠ '\n')).length)

def charBefore? (v : View) (location : Nat) : Option Char :=
  match location with
  | 0 => none
  | n + 1 => v.text.toList[n]?

/-- The view after a command: showing and hiding change the popup. -/
def run (v : View) : UiCommand → View
  | .hide => { v with isPopupVisible := false }
  | .show .. => { v with isPopupVisible := true }
  | .insertSnippet _ => v

end View

end CodeHints
