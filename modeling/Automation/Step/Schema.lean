import Automation.Fields
import Automation.Json.Basic
import Automation.Step.Kind
/-!
# Schemas of steps

For every kind of step a schema describes the inputs and one the outputs. `Schema.toJson` writes a
schema in the JSON Schema vocabulary; `Schema.required` lists the fields without which a step is not
run.
-/

namespace Automation

/-- The shape of an object: its title, the schemas of its properties, the names of those that are
required, and named schemas that the properties refer to. -/
structure Schema where
  title : String
  properties : List (String × Json)
  required : List String := []
  shared : List (String × Json) := []
  deriving Inhabited

namespace Schema

/-- The JSON Schema dialect of all schemas. -/
def dialect : String :=
  "https://json-schema.org/draft/2020-12/schema"

/-- An object of entries in any order. -/
def object (entries : List (String × Json)) : Json :=
  .object (Fields.ofList entries)

/-- The schema as a JSON value. -/
def toJson (s : Schema) : Json :=
  object <|
    [("$schema", .string dialect), ("title", .string s.title), ("type", .string "object"),
      ("properties", object s.properties)] ++
      (if s.required.isEmpty then [] else [("required", .array (s.required.map .string))]) ++
      (if s.shared.isEmpty then [] else [("$defs", object s.shared)])

/-- The schema that everything fits. -/
def anything : Json := .bool true

/-- The schema of a type. -/
def typed (name : String) : Json :=
  object [("type", .string name)]

/-- A schema with a description. -/
def described (text : String) (entries : List (String × Json)) : Json :=
  object (("description", .string text) :: entries)

/-- A schema of one of some names. -/
def oneOf (names : List String) : Json :=
  object [("enum", .array (names.map .string)), ("type", .string "string")]

/-- A reference to a shared schema, with a default. -/
def reference (name : String) (default_ : Json) : Json :=
  object [("$ref", .string ("#/$defs/" ++ name)), ("default", default_)]

/-- The entries of the schema of a whole number that is not negative. -/
def wholeNumber (format : String) : List (String × Json) :=
  [("format", .string format), ("minimum", .int 0), ("type", .string "integer")]

/-- The entries of the schema of an object with any fields. -/
def openObject : List (String × Json) :=
  [("additionalProperties", anything), ("type", .string "object")]

/-- The outputs that are a success flag and one more field. -/
def outputsWith (title field : String) (schema : Json) : Schema :=
  { title := title, properties := [("success", typed "boolean"), (field, schema)],
    required := ["success", field] }

/-- The outputs of steps on a row. -/
def rowOutputs : Schema :=
  { title := "RowOutputs"
    properties := [("success", typed "boolean"), ("id", typed "string"), ("row", anything)]
    required := ["success", "id", "row"] }

end Schema

namespace StepKind

open Schema

/-- The shape of a kind's inputs. -/
def inputSchema : StepKind → Schema
  | .collect =>
    { title := "CollectInputs"
      properties :=
        [("collection",
          described "Value to collect. Usually a binding to an earlier step or the trigger." [])]
      required := ["collection"] }
  | .serverLog =>
    { title := "ServerLogInputs"
      properties :=
        [("text", described "Message to write to the log." [("type", .string "string")])]
      required := ["text"] }
  | .filter =>
    { title := "FilterInputs"
      properties :=
        [("field", described "Reference value, usually a binding." [("default", .null)]),
          ("condition", reference "FilterCondition" (.string "EQUAL")),
          ("value", described "Value the field is compared against." [("default", .null)])]
      shared :=
        [("FilterCondition", oneOf ["EQUAL", "NOT_EQUAL", "LARGER_THAN", "LESS_THAN"])] }
  | .delay =>
    { title := "DelayInputs"
      properties := [("time", described "Delay in milliseconds." (wholeNumber "uint64"))]
      required := ["time"] }
  | .createRow =>
    { title := "CreateRowInputs"
      properties :=
        [("table_id", described "Table the row belongs to." [("type", .string "string")]),
          ("row", described "Field values of the new row." openObject)]
      required := ["table_id", "row"] }
  | .updateRow =>
    { title := "UpdateRowInputs"
      properties :=
        [("row_id", typed "string"),
          ("row", described "Fields to merge into the existing row." openObject)]
      required := ["row_id", "row"] }
  | .deleteRow =>
    { title := "DeleteRowInputs"
      properties := [("row_id", typed "string")]
      required := ["row_id"] }
  | .queryRows =>
    { title := "QueryRowsInputs"
      properties :=
        [("table_id", typed "string"),
          ("filters",
            described "Field equality filters applied to every row."
              (("default", .object []) :: openObject)),
          ("limit",
            object
              [("default", .null), ("format", .string "uint"), ("minimum", .int 0),
                ("type", .array [.string "integer", .string "null"])])]
      required := ["table_id"] }
  | .executeScript =>
    { title := "ExecuteScriptInputs"
      properties :=
        [("code",
          described ("Script source. The execution context is available as " ++ ticked "context" ++
            ".") [("type", .string "string")])]
      required := ["code"] }
  | .outgoingWebhook =>
    { title := "OutgoingWebhookInputs"
      properties :=
        [("url", described "Destination URL." [("type", .string "string")]),
          ("method", reference "HttpMethod" (.string "POST")),
          ("headers",
            object
              [("additionalProperties", typed "string"), ("default", .object []),
                ("type", .string "object")]),
          ("body",
            described "Request body. Strings holding JSON are sent as JSON." [("default", .null)])]
      required := ["url"]
      shared := [("HttpMethod", oneOf ["GET", "POST", "PUT", "PATCH", "DELETE"])] }

/-- The shape of a kind's outputs. -/
def outputSchema : StepKind → Schema
  | .collect => outputsWith "CollectOutputs" "value" anything
  | .serverLog => outputsWith "ServerLogOutputs" "message" (typed "string")
  | .filter => outputsWith "FilterOutputs" "result" (typed "boolean")
  | .delay =>
    outputsWith "DelayOutputs" "slept_ms"
      (described "Milliseconds actually slept after clamping." (wholeNumber "uint64"))
  | .createRow | .updateRow | .deleteRow => rowOutputs
  | .queryRows =>
    outputsWith "QueryRowsOutputs" "rows"
      (object [("items", anything), ("type", .string "array")])
  | .executeScript => outputsWith "ExecuteScriptOutputs" "value" anything
  | .outgoingWebhook =>
    { title := "OutgoingWebhookOutputs"
      properties :=
        [("success", typed "boolean"),
          ("http_status", object (("maximum", .int 65535) :: wholeNumber "uint16")),
          ("response", anything)]
      required := ["success", "http_status", "response"] }

/-- The inputs without which a step of a kind is not run, in the order in which they are missed. -/
def requiredInputs (k : StepKind) : List String :=
  k.inputSchema.required

end StepKind

end Automation
