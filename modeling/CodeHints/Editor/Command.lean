import CodeHints.Settings.Value

/-!
# What the editor is told to do
-/

namespace CodeHints

/-- A command to the editor about one view. -/
inductive UiCommand where
  /-- Hide the completion popup. -/
  | hide
  /-- Show the completion popup, for which the listener is queried again. -/
  | show (apiCompletionsOnly disableAutoInsert nextCompletionIfShowing : Bool)
  /-- Insert a snippet at the cursor. -/
  | insertSnippet (contents : String)
  deriving DecidableEq, Repr

/-- The commands that show the popup anew. -/
def showCommands (visibility : Visibility) : List UiCommand :=
  [.hide, .show visibility.engineOnly true false]

end CodeHints
