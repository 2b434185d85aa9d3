import Automation.Tree.Decode
/-!
# Step kinds

What a step does is one of ten kinds. Outside the program each kind goes by its wire name.
-/

namespace Automation

/-- What a step does. -/
inductive StepKind where
  | collect
  | serverLog
  | filter
  | delay
  | createRow
  | updateRow
  | deleteRow
  | queryRows
  | executeScript
  | outgoingWebhook
  deriving DecidableEq, Repr, Inhabited

namespace StepKind

/-- The kinds in the order in which messages and catalogues list them. -/
def all : List StepKind :=
  [.collect, .serverLog, .filter, .delay, .createRow, .updateRow, .deleteRow, .queryRows,
    .executeScript, .outgoingWebhook]

/-- Every kind is listed. -/
theorem mem_all (k : StepKind) : k ∈ all := by
  cases k <;> decide

/-- The name of a kind outside the program. -/
def wireName : StepKind → String
  | .collect => "COLLECT"
  | .serverLog => "SERVER_LOG"
  | .filter => "FILTER"
  | .delay => "DELAY"
  | .createRow => "CREATE_ROW"
  | .updateRow => "UPDATE_ROW"
  | .deleteRow => "DELETE_ROW"
  | .queryRows => "QUERY_ROWS"
  | .executeScript => "EXECUTE_SCRIPT"
  | .outgoingWebhook => "OUTGOING_WEBHOOK"

/-- The place of a kind in the list of all, counted from zero. -/
def position (k : StepKind) : Nat :=
  all.idxOf k

/-- The kinds under their wire names. -/
def named : List (String × StepKind) :=
  all.map fun k => (k.wireName, k)

/-- The kind that a tree names. -/
def ofTree (t : Tree) : Except DecodeFault StepKind :=
  t.asVariant named

end StepKind

end Automation
