import Automation.Proofs.Fields.Order
import Automation.Proofs.Json.Equal
import Automation.Step.Row

/-!
# The rows that changes leave

What the rows of a tenant are after some changes, without a store: a row is there from its creation
until it is removed (`Row.current?`), and its fields are those that it was created with, with the
fields of all patches since put over them (`Row.Entry`). The fields that say which row it is, in
which table and in which state, cannot be given other values.
-/

namespace Automation

namespace Row

/-- What a step on rows has done. -/
inductive Change where
  | created (id table : String) (fields : RowFields)
  | updated (id : String) (patch : RowFields)
  | deleted (id : String)
  deriving DecidableEq

/-- A field whose value no step chooses. -/
def isReserved (name : String) : Bool :=
  name == "_id" || name == "_rev" || name == tableField

/-- A row: its table, its other fields, and how often it has been updated. -/
structure Entry where
  table : String
  fields : String → Option Json
  updates : Nat

namespace Entry

/-- A new row. -/
def new (table : String) (fields : RowFields) : Entry :=
  ⟨table, fun name => if isReserved name then none else fields.lookup name, 0⟩

/-- The row with the fields of a patch put over its own. -/
def patched (e : Entry) (patch : RowFields) : Entry :=
  { e with
    fields := fun name =>
      if isReserved name then e.fields name else (patch.lookup name).or (e.fields name)
    updates := e.updates + 1 }

/-- A field of the row. -/
def field (e : Entry) (name : String) : Option Json :=
  if name = tableField then some (.string e.table) else e.fields name

/-- The table of a row is one of its fields. -/
theorem field_table (e : Entry) : e.field tableField = some (.string e.table) :=
  if_pos rfl

/-- All other fields of a row are those that it has been given. -/
theorem field_of_ne (e : Entry) {name : String} (h : name ≠ tableField) :
    e.field name = e.fields name :=
  if_neg h

/-- The row has the values of some filters. -/
def Matches (e : Entry) (filters : RowFields) : Prop :=
  ∀ filter ∈ filters, ∃ v, e.field filter.1 = some v ∧ v.Equal filter.2

/-- The row as it is shown: its fields and, whatever these are, its id and its revision. -/
structure ShownAs (id : String) (e : Entry) (fields : RowFields) : Prop where
  ordered : Fields.Ordered fields
  id : fields.lookup "_id" = some (.string id)
  revision : fields.lookup "_rev" = some (.int (e.updates + 1 : Nat))
  others : ∀ name, name ≠ "_id" → name ≠ "_rev" → fields.lookup name = e.field name

end Entry

/-- A row is shown in one way only. -/
theorem Entry.ShownAs.unique {id : String} {e : Entry} {fields others : RowFields}
    (h : e.ShownAs id fields) (h' : e.ShownAs id others) : fields = others := by
  refine h.ordered.ext h'.ordered fun name => ?_
  by_cases hid : name = "_id"
  · rw [hid, h.id, h'.id]
  · by_cases hrev : name = "_rev"
    · rw [hrev, h.revision, h'.revision]
    · rw [h.others name hid hrev, h'.others name hid hrev]

/-- What a change leaves of the row with an id. -/
def Change.apply (id : String) (e : Option Entry) : Change → Option Entry
  | .created changed table fields => if changed = id then some (.new table fields) else e
  | .updated changed patch => if changed = id then e.map (·.patched patch) else e
  | .deleted changed => if changed = id then none else e

/-- The row with an id after some changes, if there is one. -/
def current? (changes : List Change) (id : String) : Option Entry :=
  changes.foldl (Change.apply id) none

/-- One more change applies to what the changes before it have left. -/
theorem current?_append (changes : List Change) (change : Change) (id : String) :
    current? (changes ++ [change]) id = change.apply id (current? changes id) := by
  rw [current?, List.foldl_append]
  rfl

/-! ## The fields of rows -/

variable {fields patch : RowFields} {name : String}

/-- What is found among fields without those that are reserved. -/
theorem lookup_unreserved :
    (Fields.erase tableField (stripped fields)).lookup name =
      if isReserved name then none else fields.lookup name := by
  rw [Fields.lookup_erase, stripped, Fields.lookup_erase, Fields.lookup_erase, isReserved]
  by_cases hid : name = "_id"
  · simp [hid]
  · by_cases hrev : name = "_rev"
    · simp [hrev]
    · simp [hid, hrev]

/-- The fields of a row that is created are those of a new entry. -/
theorem lookup_created (table : String) :
    (created table fields).lookup name = (Entry.new table fields).field name := by
  rw [created]
  by_cases htable : name = tableField
  · rw [htable, Fields.lookup_insert_self, Entry.field_table]
    rfl
  · have hstripped := Fields.lookup_erase tableField name (stripped fields)
    rw [if_neg htable, lookup_unreserved] at hstripped
    rw [Fields.lookup_insert_ne htable, Entry.field_of_ne _ htable, ← hstripped]
    rfl

/-- The fields of a row that is created with fields in order are in order. -/
theorem ordered_created (table : String) (h : Fields.Ordered fields) :
    Fields.Ordered (created table fields) :=
  Fields.ordered_insert _ _ ((h.erase _).erase _)

/-- Fields in order stay so with a patch. -/
theorem ordered_patched (patch : RowFields) (h : Fields.Ordered fields) :
    Fields.Ordered (patched fields patch) :=
  h.foldl_insert _

/-- The fields of a patch that are not reserved are put over those of the row. -/
theorem lookup_patched (h : Fields.Ordered patch) :
    (patched fields patch).lookup name =
      if isReserved name then fields.lookup name
      else (patch.lookup name).or (fields.lookup name) := by
  have hordered : Fields.Ordered (Fields.erase tableField (stripped patch)) :=
    ((h.erase _).erase _).erase _
  rw [patched, Fields.lookup_foldl_insert hordered.nodup, lookup_unreserved]
  split
  · rfl
  · rfl

/-! ## Rows in documents -/

/-- A revision of a document is a row: its number counts the updates, and its body has the fields of
the row. -/
structure Entry.In (e : Entry) (r : Revision) : Prop where
  number : r.number = e.updates + 1
  body : ∃ fields, r.body = .object fields ∧ Fields.Ordered fields ∧
    ∀ name, fields.lookup name = e.field name

namespace Entry

/-- A document that is created is a new entry. -/
theorem in_created (table : String) (h : Fields.Ordered fields) :
    (Entry.new table fields).In ⟨1, .object (created table fields)⟩ :=
  ⟨rfl, _, rfl, ordered_created table h, fun _ => lookup_created table⟩

variable {e : Entry} {r : Revision} {id : String}

/-- A document of an entry that is patched is the patched entry. -/
theorem In.patched (he : e.In r) (h : Fields.Ordered patch) :
    (e.patched patch).In ⟨r.number + 1, .object (Row.patched (fieldsOf r.body) patch)⟩ := by
  obtain ⟨fields, hbody, hordered, hfields⟩ := he.body
  refine ⟨by rw [he.number]; rfl, _, rfl, ?_, fun name => ?_⟩
  · rw [hbody]
    exact ordered_patched patch hordered
  · rw [hbody, fieldsOf, lookup_patched h, hfields]
    by_cases htable : name = tableField
    · rw [htable, field_table, field_table]
      rfl
    · rw [field_of_ne _ htable, field_of_ne _ htable]
      rfl

/-- A row is shown with its fields. -/
theorem In.shown (he : e.In r) :
    ∃ fields, Row.shown (r.document id) = .object fields ∧ e.ShownAs id fields := by
  obtain ⟨fields, hbody, hordered, hfields⟩ := he.body
  refine ⟨_, rfl, ?_, ?_, ?_, fun name hid hrev => ?_⟩
  · rw [Revision.document, hbody]
    exact Fields.ordered_insert _ _ (Fields.ordered_insert _ _ hordered)
  · rw [Fields.lookup_insert_ne (by decide), Fields.lookup_insert_self]
    rfl
  · rw [Fields.lookup_insert_self, ← he.number]
    rfl
  · rw [Fields.lookup_insert_ne hrev, Fields.lookup_insert_ne hid, Revision.document, hbody,
      fieldsOf, hfields]

/-- A row is in the result of a query exactly if it is of the table and has the values of the
filters. -/
theorem In.isMatch_iff (he : e.In r) {table : String} {filters : RowFields} :
    isMatch table filters (r.document id) = true ↔ e.table = table ∧ e.Matches filters := by
  obtain ⟨fields, hbody, -, hfields⟩ := he.body
  rw [isMatch, Bool.and_eq_true, Revision.document, hbody]
  dsimp only [Json.field?]
  simp only [hfields]
  refine and_congr ?_ ?_
  · rw [field_table]
    simp [Json.asString?]
  · rw [List.all_eq_true, Matches]
    refine forall₂_congr fun filter _ => ?_
    cases e.field filter.1 with
    | none => simp
    | some v => simp [Json.same_iff]

end Entry

end Row

end Automation
