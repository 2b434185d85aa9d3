import Automation.Services
/-!
# Rows

A row is a document whose id names the table (`Automation.RowId`). Its fields are the fields of the
body, among them the table's id. A row is shown with its id and its revision as two more fields,
which are no fields of its own: writing them back changes nothing.
-/

namespace Automation

/-- The fields of an object, sorted by name. -/
abbrev RowFields := List (String × Json)

namespace Row

/-- The field that names the table. -/
def tableField : String := "table_id"

/-- The fields of a document; one whose body is no object has none. -/
def fieldsOf (body : Json) : RowFields :=
  match body with
  | .object fields => fields
  | _ => []

/-- The row as it is shown. -/
def shown (d : Document) : Json :=
  .object <|
    Fields.insert "_rev" (.int d.revision) <| Fields.insert "_id" (.string d.id) <|
      fieldsOf d.body

/-- The fields without the id and the revision. -/
def stripped (fields : RowFields) : RowFields :=
  Fields.erase "_rev" (Fields.erase "_id" fields)

/-- The fields of a new row. -/
def created (table : String) (fields : RowFields) : RowFields :=
  Fields.insert tableField (.string table) (stripped fields)

/-- The fields of a row changed by a patch, which cannot move the row to another table. -/
def patched (fields patch : RowFields) : RowFields :=
  (Fields.erase tableField (stripped patch)).foldl (fun fields (k, v) => Fields.insert k v fields)
    fields

/-- The document of a row changed by a patch. -/
def patchedDocument (d : Document) (patch : RowFields) : Document :=
  { d with body := .object (patched (fieldsOf d.body) patch) }

/-- The document is a row of a table whose fields have the values of a filter. -/
def isMatch (table : String) (filters : RowFields) (d : Document) : Bool :=
  ((d.body.field? tableField).bind Json.asString?) == some table &&
    filters.all fun (name, expected) => ((d.body.field? name).map (·.same expected)).getD false

/-- The rows among some documents that match, as many as are wanted. -/
def select (table : String) (filters : RowFields) (limit : Option Nat) (ds : List Document) :
    List Json :=
  let found := ds.filter (isMatch table filters)
  (match limit with
    | some n => found.take n
    | none => found).map shown

end Row

end Automation
