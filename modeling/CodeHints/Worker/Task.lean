import CodeHints.Analysis.Engine

/-!
# How a task ends

Timers, the consumers of queues and the calls of the analyzer are all tasks. Which of these a task
is makes a difference only for the lines of the log, so it is left out, and so are the threads that
tasks run on: every step of a task is a step of the whole system.
-/

namespace CodeHints

/-- The end of a task that yields an `α`. -/
inductive TaskEnd (α : Type) where
  | value (a : α)
  | broken (payload : Payload)
  /-- The task was stopped before it ended. -/
  | cancelled

/-- The message of a breakdown; a task that was stopped has none. -/
def TaskEnd.message? {α : Type} : TaskEnd α → Option String
  | .broken payload => some payload.message
  | _ => none

end CodeHints
