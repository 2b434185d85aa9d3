import Automation.Services
import Automation.Step.Comparison
import Automation.Step.Fault
import Automation.Step.Row
/-!
# Tasks

A task is what a step has to do, with its inputs decoded. `Task.ofInputs` decodes the resolved
inputs of a kind and `Task.perform` does the task. Only row tasks touch the store, only webhooks
send requests, and only delays and scripts take time.
-/

namespace Automation

open Text

/-- What a step has to do. -/
inductive Task where
  | collect (value : Json)
  | log (text : String)
  | filter (condition : FilterCondition) (field value : Json)
  | delay (millis : Nat)
  | createRow (table : String) (row : RowFields)
  | updateRow (id : String) (patch : RowFields)
  | deleteRow (id : String)
  | queryRows (table : String) (filters : RowFields) (limit : Option Nat)
  | script (code : String)
  | webhook (request : WebhookRequest)
  deriving Repr, Inhabited

namespace Task

/-- The fields of a row. -/
def asRow (t : Tree) : Except DecodeFault RowFields :=
  t.asSorted Tree.asJson

/-- Decodes the inputs of a webhook. -/
def webhookOfTree (t : Tree) : Except DecodeFault Task := do
  let headers := Tree.asOrdered Tree.asString
  let r ← t.record "OutgoingWebhookInputs"
    [.required "url" Tree.asString, .optional_ "method" HttpMethod.ofTree,
      .optional_ "headers" headers, .optional_ "body" (Tree.asOption Tree.asJson)]
  return .webhook {
    method := ← r.getD "method" HttpMethod.ofTree .post
    url := ← r.get "url" Tree.asString
    headers := ← r.getD "headers" headers ∅
    body := WebhookRequest.bodyOf? (← r.get? "body" Tree.asJson) }

/-- Decodes the inputs of a filter. -/
def filterOfTree (t : Tree) : Except DecodeFault Task := do
  let r ← t.record "FilterInputs"
    [.optional_ "field" Tree.asJson, .optional_ "condition" FilterCondition.ofTree,
      .optional_ "value" Tree.asJson]
  return .filter (← r.getD "condition" FilterCondition.ofTree .equal)
    (← r.getD "field" Tree.asJson .null) (← r.getD "value" Tree.asJson .null)

/-- Decodes the inputs of a query. -/
def queryOfTree (t : Tree) : Except DecodeFault Task := do
  let limit := Tree.asWord maxWord64 "usize"
  let r ← t.record "QueryRowsInputs"
    [.required "table_id" Tree.asString, .optional_ "filters" asRow,
      .optional_ "limit" (Tree.asOption limit)]
  return .queryRows (← r.get "table_id" Tree.asString) (← r.getD "filters" asRow [])
    (← r.get? "limit" limit)

/-- Decodes the inputs of a kind. -/
def ofTree (kind : StepKind) (t : Tree) : Except DecodeFault Task :=
  match kind with
  | .collect => do
    let r ← t.record "CollectInputs" [.required "collection" Tree.asJson]
    return .collect (← r.get "collection" Tree.asJson)
  | .serverLog => do
    let r ← t.record "ServerLogInputs" [.required "text" Tree.asString]
    return .log (← r.get "text" Tree.asString)
  | .filter => filterOfTree t
  | .delay => do
    let r ← t.record "DelayInputs" [.required "time" Tree.asMillis]
    return .delay (← r.get "time" Tree.asMillis)
  | .createRow => do
    let r ← t.record "CreateRowInputs" [.required "table_id" Tree.asString, .required "row" asRow]
    return .createRow (← r.get "table_id" Tree.asString) (← r.get "row" asRow)
  | .updateRow => do
    let r ← t.record "UpdateRowInputs" [.required "row_id" Tree.asString, .required "row" asRow]
    return .updateRow (← r.get "row_id" Tree.asString) (← r.get "row" asRow)
  | .deleteRow => do
    let r ← t.record "DeleteRowInputs" [.required "row_id" Tree.asString]
    return .deleteRow (← r.get "row_id" Tree.asString)
  | .queryRows => queryOfTree t
  | .executeScript => do
    let r ← t.record "ExecuteScriptInputs" [.required "code" Tree.asString]
    return .script (← r.get "code" Tree.asString)
  | .outgoingWebhook => webhookOfTree t

/-- The task of a kind with some input values. -/
def ofInputs (kind : StepKind) (values : List (String × Json)) : Except StepFault Task :=
  (ofTree kind (Tree.ofJson (.object values))).mapError (.invalidInputs kind)

/-- What a task is done with: the tenant, the context that scripts see, the limits of scripts, the
longest delay, and the time at which the step has to be done, with the milliseconds it was given. -/
structure Setting where
  tenant : Tenant
  context : Context
  scripts : Resolver
  maxDelay : Nat
  deadline : Option (Nat × Nat)

namespace Setting

/-- The milliseconds that are left. -/
def remaining? (x : Setting) (s : Services) : Option Nat :=
  x.deadline.map fun (time, _) => time - s.clock.elapsed

/-- The failure of a step whose time is over, if it is. -/
def overdue? (x : Setting) (s : Services) : Option StepFault :=
  match x.deadline with
  | some (time, millis) => if time ≤ s.clock.elapsed then some (.timedOut millis) else none
  | none => none

end Setting

/-- What a step gives back when it has done its work, and the services afterwards. -/
abbrev Performed := Except StepFault Json × Services

/-- The outputs of a step that reports success or not. -/
def outputs (success : Bool) (entries : List (String × Json)) : Json :=
  .object (Fields.ofList (("success", .bool success) :: entries))

/-- The outputs of a step on a row. -/
def rowOutputs (d : Document) : Json :=
  outputs true [("id", .string d.id), ("row", Row.shown d)]

/-- The result of a request that gives a row's document. -/
def rowResult (r : Except StoreFault Document × Services) : Performed :=
  (match r.1 with
    | .ok d => .ok (rowOutputs d)
    | .error fault => .error (.store fault), r.2)

/-- Waits, at most for the longest delay and not beyond the deadline. -/
def performDelay (x : Setting) (millis : Nat) (s : Services) : Performed :=
  let wanted := min millis x.maxDelay
  match x.deadline, x.remaining? s with
  | some (_, given), some left =>
    if wanted < left then
      (.ok (outputs true [("slept_ms", .int wanted)]), s.elapse wanted)
    else (.error (.timedOut given), s.elapse left)
  | _, _ => (.ok (outputs true [("slept_ms", .int wanted)]), s.elapse wanted)

/-- Runs a script within the limits and what is left of the step's time. -/
def performScript (x : Setting) (code : String) (s : Services) : Performed :=
  let resolver := match x.remaining? s with
    | some left => x.scripts.within left
    | none => x.scripts
  let outcome := Script.run resolver.limits resolver.millis code x.context.toJson
  let s := s.elapse outcome.elapsed
  match outcome.answer with
  | .ok value => (.ok (outputs true [("value", value)]), s)
  | .error failure =>
    if failure.isTimeout then (.error ((x.overdue? s).getD (.script failure)), s)
    else (.error (.script failure), s)

/-- Adds a row to a table. -/
def performCreate (x : Setting) (table : String) (row : RowFields) (s : Services) : Performed :=
  let (suffix, s) := s.freshRowSuffix
  rowResult (s.putDocument x.tenant
    { id := Row.idOf table suffix, body := .object (Row.created table row) })

/-- Changes a row that is there. -/
def performUpdate (x : Setting) (id : String) (patch : RowFields) (s : Services) : Performed :=
  if !Row.isId id then (.error (.notARow id), s)
  else
    match s.getDocument x.tenant id with
    | .error fault => (.error (.store fault), s)
    | .ok none => (.error (.store (.notFound id)), s)
    | .ok (some d) => rowResult (s.putDocument x.tenant (Row.patchedDocument d patch))

/-- Removes a row that is there. -/
def performDelete (x : Setting) (id : String) (s : Services) : Performed :=
  if !Row.isId id then (.error (.notARow id), s)
  else rowResult (s.removeDocument x.tenant id)

/-- Lists rows of a table. -/
def performQuery (x : Setting) (table : String) (filters : RowFields) (limit : Option Nat)
    (s : Services) : Performed :=
  match s.listDocuments x.tenant (.startingWith (Row.tableStart table)) with
  | .error fault => (.error (.store fault), s)
  | .ok ds => (.ok (outputs true [("rows", .array (Row.select table filters limit ds))]), s)

/-- Sends a webhook. A response that reports no success is no failure of the request. -/
def performWebhook (request : WebhookRequest) (s : Services) : Performed :=
  let (answer, s) := s.send request
  match answer with
  | .error message => (.error (.webhook message), s)
  | .ok response =>
    (.ok (outputs response.isSuccess
      [("http_status", .int response.status), ("response", response.body)]), s)

/-- Does a task. -/
def perform (x : Setting) (task : Task) (s : Services) : Performed :=
  match task with
  | .collect value => (.ok (outputs true [("value", value)]), s)
  | .log text =>
    (.ok (outputs true
      [("message", .string ("Tenant " ++ x.tenant.name ++ " - " ++ text))]), s)
  | .filter condition field value =>
    let result := condition.holds field value
    (.ok (outputs result [("result", .bool result)]), s)
  | .delay millis => performDelay x millis s
  | .createRow table row => performCreate x table row s
  | .updateRow id patch => performUpdate x id patch s
  | .deleteRow id => performDelete x id s
  | .queryRows table filters limit => performQuery x table filters limit s
  | .script code => performScript x code s
  | .webhook request => performWebhook request s

end Task

end Automation
