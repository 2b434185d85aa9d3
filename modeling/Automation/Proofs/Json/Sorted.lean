import Automation.Proofs.Tree.Normal

/-!
# Values in order

The objects in a value stay in order when fields are put into an object or taken out
(`Json.Sorted.insert`, `Json.Sorted.erase`), and whatever value a tree stands for, the objects in it
are in order (`Tree.sorted_of_toJson?`).
-/

namespace Automation

namespace Json

/-- Items are in order if each of them is. -/
theorem sortedItems_iff {items : List Json} : SortedItems items ↔ ∀ v ∈ items, v.Sorted := by
  induction items with
  | nil => simp [SortedItems]
  | cons item rest ih => rw [SortedItems, ih, List.forall_mem_cons]

/-- The values of fields are in order if each of them is. -/
theorem sortedFields_iff {fields : List (String × Json)} :
    SortedFields fields ↔ ∀ field ∈ fields, field.2.Sorted := by
  induction fields with
  | nil => simp [SortedFields]
  | cons field rest ih =>
    obtain ⟨name, value⟩ := field
    rw [SortedFields, ih, List.forall_mem_cons]

/-- An array is in order if its items are. -/
theorem sorted_array_iff {items : List Json} : (array items).Sorted ↔ ∀ v ∈ items, v.Sorted := by
  rw [Sorted, sortedItems_iff]

/-- An object is in order if its names ascend and its values are in order. -/
theorem sorted_object_iff {fields : List (String × Json)} :
    (object fields).Sorted ↔ Fields.Ordered fields ∧ ∀ field ∈ fields, field.2.Sorted := by
  rw [Sorted, sortedFields_iff]

/-- The empty object is in order. -/
theorem sorted_object_nil : (object []).Sorted :=
  ⟨.nil, trivial⟩

variable {fields entries : List (String × Json)}

/-- An object in order stays so with a value in order under a name. -/
theorem Sorted.insert (h : (object fields).Sorted) (name : String) {v : Json} (hv : v.Sorted) :
    (object (Fields.insert name v fields)).Sorted := by
  obtain ⟨hordered, hvalues⟩ := sorted_object_iff.1 h
  refine sorted_object_iff.2 ⟨Fields.ordered_insert name v hordered, fun field hfield => ?_⟩
  rcases Fields.mem_insert hfield with rfl | hmem
  · exact hv
  · exact hvalues field hmem

/-- An object in order stays so without one of its fields. -/
theorem Sorted.erase (h : (object fields).Sorted) (name : String) :
    (object (Fields.erase name fields)).Sorted := by
  obtain ⟨hordered, hvalues⟩ := sorted_object_iff.1 h
  exact sorted_object_iff.2
    ⟨hordered.erase name, fun field hfield => hvalues field (List.mem_filter.1 hfield).1⟩

/-- An object stays in order when the fields of another are put into it. -/
theorem Sorted.foldl_insert (h : (object fields).Sorted)
    (hentries : ∀ entry ∈ entries, entry.2.Sorted) :
    (object (entries.foldl (fun fields (k, v) => Fields.insert k v fields) fields)).Sorted := by
  induction entries generalizing fields with
  | nil => exact h
  | cons entry rest ih =>
    obtain ⟨hfirst, hrest⟩ := List.forall_mem_cons.1 hentries
    exact ih (h.insert entry.1 hfirst) hrest

/-- Entries with values in order make an object in order. -/
theorem sorted_ofList (h : ∀ entry ∈ entries, entry.2.Sorted) :
    (object (Fields.ofList entries)).Sorted :=
  sorted_object_nil.foldl_insert h

end Json

namespace Tree

/-- What a scalar without quotes stands for is in order. -/
theorem sorted_of_plain {s : String} {v : Json} (h : Plain.toJson? s = some v) : v.Sorted := by
  have hfloat : (Plain.floatOrText s).Sorted := by
    unfold Plain.floatOrText
    split
    · trivial
    · trivial
    · trivial
  unfold Plain.toJson? at h
  split at h
  · cases h
    trivial
  · split at h
    · cases h
      trivial
    · split at h
      · split at h
        · cases h
          trivial
        · split at h
          · cases h
          · cases h
            exact hfloat
      · cases h
        exact hfloat

mutual

/-- The objects in the value of a tree are in order. -/
theorem sorted_of_toJson? : ∀ (t : Tree) {v : Json}, t.toJson? = some v → v.Sorted
  | .null, _, rfl | .bool _, _, rfl | .number _, _, rfl | .string _, _, rfl => trivial
  | .plain _, _, h => sorted_of_plain h
  | .sequence _ items, v, h => by
    rw [toJson?, Option.map_eq_some_iff] at h
    obtain ⟨values, hvalues, rfl⟩ := h
    exact sorted_of_toItems? items hvalues
  | .mapping entries, v, h => by
    rw [toJson?, Option.map_eq_some_iff] at h
    obtain ⟨fields, hfields, rfl⟩ := h
    exact sorted_of_toFields? entries Json.sorted_object_nil hfields

/-- The values of trees are in order. -/
theorem sorted_of_toItems? :
    ∀ (items : List Tree) {values : List Json}, toItems? items = some values →
      (Json.array values).Sorted
  | [], _, rfl => trivial
  | item :: rest, values, h => by
    simp only [toItems?, Option.bind_eq_bind, Option.bind_eq_some_iff, Option.pure_def,
      Option.some_inj] at h
    obtain ⟨first, hfirst, others, hothers, rfl⟩ := h
    exact ⟨sorted_of_toJson? item hfirst, sorted_of_toItems? rest hothers⟩

/-- The values of entries are in order when they are put into an object in order. -/
theorem sorted_of_toFields? :
    ∀ (entries : List (String × Tree)) {before fields : List (String × Json)},
      (Json.object before).Sorted → toFields? entries before = some fields →
      (Json.object fields).Sorted
  | [], _, _, hbefore, rfl => hbefore
  | (name, value) :: rest, before, fields, hbefore, h => by
    simp only [toFields?, Option.bind_eq_bind, Option.bind_eq_some_iff] at h
    obtain ⟨first, hfirst, hrest⟩ := h
    exact sorted_of_toFields? rest (hbefore.insert name (sorted_of_toJson? value hfirst)) hrest

end

end Tree

end Automation
