import CodeHints.Pipeline.Ask

/-!
# Completing the parameters of a call

The command that runs after an opening bracket was typed: it asks for the parameters of the call and
inserts them as a snippet.
-/

namespace CodeHints.Parameters

/-- The request of the command in a view. There is none if parameters are not to be completed, or if
the view has no cursor or no window. -/
def ask? (settings : Settings) (view : View) (requester : InstanceId) : Option Ask := do
  let mode := settings.functionParams
  if !mode.isEnabled then none
  let selection ← view.selections.head?
  Ask.ofView? view requester (some selection.stop) (.funcArgs (mode = .all))

/-- What is done with the answer. -/
def receive : Answer → List UiCommand
  | .template text => if text = "" then [] else [.insertSnippet text]
  | .completions _ => []

end CodeHints.Parameters
