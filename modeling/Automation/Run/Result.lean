import Automation.Definition.Layout
import Automation.Moment.Reader
import Automation.Run.Status
/-!
# Results of runs

A run is reported with the results of its steps in the order in which they ran. The same record is
what a run log holds.
-/

namespace Automation

/-- The tree of a moment. -/
def Moment.toTree (m : Moment) : Tree :=
  .string m.text

/-- What came of a step. -/
structure StepResult where
  id : String
  kind : StepKind
  status : StepStatus
  outputs : Json
  error : Option String := none
  startedAt : Moment
  finishedAt : Moment
  deriving Repr, Inhabited

namespace StepResult

/-- The tree of a step's result. -/
def toTree (s : StepResult) : Tree :=
  .mapping <|
    [("id", .string s.id), ("step_id", .string s.kind.wireName),
      ("status", .string s.status.wireName), ("outputs", Tree.ofJson s.outputs)] ++
      (Tree.entry? "error" .string s.error ++
        [("started_at", s.startedAt.toTree), ("finished_at", s.finishedAt.toTree)])

/-- The result that a tree stands for. -/
def ofTree (t : Tree) : Except DecodeFault StepResult := do
  let r ← t.record "StepRunResult"
    [.required "id" Tree.asString, .required "step_id" StepKind.ofTree,
      .required "status" StepStatus.ofTree, .required "outputs" Tree.asJson,
      .optional_ "error" (Tree.asOption Tree.asString), .required "started_at" Tree.asMoment,
      .required "finished_at" Tree.asMoment]
  return {
    id := ← r.get "id" Tree.asString
    kind := ← r.get "step_id" StepKind.ofTree
    status := ← r.get "status" StepStatus.ofTree
    outputs := ← r.get "outputs" Tree.asJson
    error := ← r.get? "error" Tree.asString
    startedAt := ← r.get "started_at" Tree.asMoment
    finishedAt := ← r.get "finished_at" Tree.asMoment }

end StepResult

/-- What came of a run. -/
structure RunResult where
  runId : String
  automation : String
  tenant : Tenant
  status : RunStatus
  steps : List StepResult := []
  trigger : Json
  error : Option String := none
  startedAt : Moment
  finishedAt : Moment
  deriving Repr, Inhabited

namespace RunResult

/-- The tree of a run's result. -/
def toTree (r : RunResult) : Tree :=
  .mapping <|
    [("run_id", .string r.runId), ("automation_id", .string r.automation),
      ("tenant_id", .string r.tenant.name), ("status", .string r.status.wireName),
      ("steps", .sequence true (r.steps.map StepResult.toTree)),
      ("trigger", Tree.ofJson r.trigger)] ++
      (Tree.entry? "error" .string r.error ++
        [("started_at", r.startedAt.toTree), ("finished_at", r.finishedAt.toTree)])

/-- The result that a tree stands for. -/
def ofTree (t : Tree) : Except DecodeFault RunResult := do
  let r ← t.record "RunResult"
    [.required "run_id" Tree.asString, .required "automation_id" Tree.asString,
      .required "tenant_id" Tenant.ofTree, .required "status" RunStatus.ofTree,
      .optional_ "steps" (Tree.asList StepResult.ofTree), .required "trigger" Tree.asJson,
      .optional_ "error" (Tree.asOption Tree.asString), .required "started_at" Tree.asMoment,
      .required "finished_at" Tree.asMoment]
  return {
    runId := ← r.get "run_id" Tree.asString
    automation := ← r.get "automation_id" Tree.asString
    tenant := ← r.get "tenant_id" Tenant.ofTree
    status := ← r.get "status" RunStatus.ofTree
    steps := ← r.getD "steps" (Tree.asList StepResult.ofTree) []
    trigger := ← r.get "trigger" Tree.asJson
    error := ← r.get? "error" Tree.asString
    startedAt := ← r.get "started_at" Tree.asMoment
    finishedAt := ← r.get "finished_at" Tree.asMoment }

/-- The result of the first step of a name. -/
def step? (r : RunResult) (name : String) : Option StepResult :=
  r.steps.find? (·.id == name)

/-- The outputs of a step, or null if it has not run. -/
def outputsOf (r : RunResult) (name : String) : Json :=
  ((r.step? name).map (·.outputs)).getD .null

end RunResult

end Automation
