import Automation.Proofs.Fields.Order
import Automation.Tree.Plain

/-!
# Values as trees

A value whose objects are in order (`Json.Sorted`) is what its tree stands for
(`Json.toJson?_ofJson`). A tree that stands for a value has a normal form (`Tree.normal`), which is
the tree of that value: the entries of its mappings are sorted by name, and all else stays.
-/

namespace Automation

namespace Json

mutual

/-- The names of every object in a value ascend. -/
def Sorted : Json → Prop
  | .array items => SortedItems items
  | .object fields => Fields.Ordered fields ∧ SortedFields fields
  | _ => True

/-- The names of every object in the items of an array ascend. -/
def SortedItems : List Json → Prop
  | [] => True
  | item :: rest => Sorted item ∧ SortedItems rest

/-- The names of every object in the values of fields ascend. -/
def SortedFields : List (String × Json) → Prop
  | [] => True
  | (_, value) :: rest => Sorted value ∧ SortedFields rest

end

mutual

/-- The tree of a value whose objects are in order stands for the value. -/
theorem toJson?_ofJson : ∀ v : Json, Sorted v → (Tree.ofJson v).toJson? = some v
  | .null, _ | .bool _, _ | .number _, _ | .string _, _ => rfl
  | .array items, h => by
    rw [Sorted] at h
    rw [Tree.ofJson, Tree.toJson?, toItems?_ofItems items h]
    rfl
  | .object fields, h => by
    rw [Sorted] at h
    rw [Tree.ofJson, Tree.toJson?, toFields?_ofFields fields [] h.2 h.1]
    rfl

/-- The trees of items in order have the items as their values. -/
theorem toItems?_ofItems :
    ∀ items : List Json, SortedItems items → Tree.toItems? (Tree.ofItems items) = some items
  | [], _ => rfl
  | item :: rest, h => by
    rw [SortedItems] at h
    rw [Tree.ofItems, Tree.toItems?, toJson?_ofJson item h.1, toItems?_ofItems rest h.2]
    rfl

/-- The trees of fields in order have the fields as their values, after those that come before
them. -/
theorem toFields?_ofFields :
    ∀ fields before : List (String × Json), SortedFields fields →
      Fields.Ordered (before ++ fields) →
      Tree.toFields? (Tree.ofFields fields) before = some (before ++ fields)
  | [], before, _, _ => by rw [Tree.ofFields, Tree.toFields?, List.append_nil]
  | (name, value) :: rest, before, h, hordered => by
    rw [SortedFields] at h
    have hlast : ∀ field ∈ before, Text.before field.1 name = true := fun field hf =>
      (List.pairwise_append.1 hordered).2.2 field hf _ (List.mem_cons_self ..)
    rw [List.append_cons] at hordered ⊢
    rw [Tree.ofFields, Tree.toFields?, toJson?_ofJson value h.1, Option.bind_eq_bind,
      Option.bind_some, Fields.insert_last hlast]
    exact toFields?_ofFields rest (before ++ [(name, value)]) h.2 hordered

end

end Json

namespace Tree

/-- The trees of fields are those of their values, under their names. -/
theorem ofFields_eq_map (fields : List (String × Json)) :
    ofFields fields = fields.map fun (name, value) => (name, ofJson value) := by
  induction fields with
  | nil => rfl
  | cons field rest ih =>
    obtain ⟨name, value⟩ := field
    rw [ofFields, ih]
    rfl

/-- The trees of items are those of each of them. -/
theorem ofItems_eq_map (items : List Json) : ofItems items = items.map ofJson := by
  induction items with
  | nil => rfl
  | cons item rest ih =>
    rw [ofItems, ih]
    rfl

/-! ## Trees that stand for values -/

mutual

/-- The tree of every value stands for a value, its objects in order or not. -/
theorem isSome_toJson?_ofJson : ∀ v : Json, (ofJson v).toJson?.isSome
  | .null | .bool _ | .number _ | .string _ => rfl
  | .array items => by
    rw [ofJson, toJson?, Option.isSome_map]
    exact isSome_toItems?_ofItems items
  | .object fields => by
    rw [ofJson, toJson?, Option.isSome_map]
    exact isSome_toFields?_ofFields fields []

/-- The trees of items have values. -/
theorem isSome_toItems?_ofItems : ∀ items : List Json, (toItems? (ofItems items)).isSome
  | [] => rfl
  | item :: rest => by
    obtain ⟨v, hv⟩ := Option.isSome_iff_exists.1 (isSome_toJson?_ofJson item)
    obtain ⟨vs, hvs⟩ := Option.isSome_iff_exists.1 (isSome_toItems?_ofItems rest)
    rw [ofItems, toItems?, hv, hvs]
    rfl

/-- The trees of fields have values. -/
theorem isSome_toFields?_ofFields :
    ∀ fields before : List (String × Json), (toFields? (ofFields fields) before).isSome
  | [], _ => rfl
  | (name, value) :: rest, before => by
    obtain ⟨v, hv⟩ := Option.isSome_iff_exists.1 (isSome_toJson?_ofJson value)
    rw [ofFields, toFields?, hv]
    exact isSome_toFields?_ofFields rest (Fields.insert name v before)

end

/-- The value of a tree that stands for one. -/
def value (t : Tree) : Json :=
  t.toJson?.getD .null

/-- The tree of the value that a tree stands for. -/
def normal (t : Tree) : Tree :=
  ofJson t.value

/-- A tree that has a value has the one that is taken for it. -/
theorem toJson?_of_isSome {t : Tree} (h : t.toJson?.isSome) : t.toJson? = some t.value := by
  obtain ⟨v, hv⟩ := Option.isSome_iff_exists.1 h
  rw [value, hv]
  rfl

@[simp] theorem normal_string (s : String) : normal (.string s) = .string s := rfl

@[simp] theorem normal_bool (b : Bool) : normal (.bool b) = .bool b := rfl

@[simp] theorem normal_number (n : Number) : normal (.number n) = .number n := rfl

/-- The tree of a value in order has that value. -/
theorem value_ofJson {v : Json} (h : v.Sorted) : (ofJson v).value = v := by
  rw [value, Json.toJson?_ofJson v h]
  rfl

/-- The tree of a value in order is normal. -/
theorem normal_ofJson {v : Json} (h : v.Sorted) : normal (ofJson v) = ofJson v := by
  rw [normal, value_ofJson h]

/-- A sequence stands for an array of the values of its items. -/
theorem toJson?_sequence {byPosition : Bool} {items : List Tree}
    (h : ∀ t ∈ items, t.toJson?.isSome) :
    (sequence byPosition items).toJson? = some (.array (items.map value)) := by
  have hitems : toItems? items = some (items.map value) := by
    induction items with
    | nil => rfl
    | cons t rest ih =>
      obtain ⟨hfirst, hrest⟩ := List.forall_mem_cons.1 h
      rw [toItems?, toJson?_of_isSome hfirst, ih hrest]
      rfl
  rw [toJson?, hitems]
  rfl

/-- The normal form of a sequence has those of its items. -/
theorem normal_sequence {byPosition : Bool} {items : List Tree}
    (h : ∀ t ∈ items, t.toJson?.isSome) :
    normal (sequence byPosition items) = .sequence true (items.map normal) := by
  rw [normal, value, toJson?_sequence h, Option.getD_some, ofJson, ofItems_eq_map, List.map_map]
  rfl

/-- A mapping stands for an object of the values of its entries, sorted by name. -/
theorem toJson?_mapping {entries : List (String × Tree)}
    (h : ∀ entry ∈ entries, entry.2.toJson?.isSome) :
    (mapping entries).toJson? =
      some (.object (Fields.ofList (entries.map fun (name, t) => (name, t.value)))) := by
  have hfields : ∀ fields : List (String × Json), toFields? entries fields =
      some ((entries.map fun (name, t) => (name, t.value)).foldl
        (fun fields (k, v) => Fields.insert k v fields) fields) := by
    induction entries with
    | nil => exact fun fields => rfl
    | cons entry rest ih =>
      intro fields
      obtain ⟨name, t⟩ := entry
      obtain ⟨hfirst, hrest⟩ := List.forall_mem_cons.1 h
      rw [toFields?, toJson?_of_isSome hfirst]
      exact ih hrest _
  rw [toJson?, hfields]
  rfl

/-- The normal form of a mapping has the normal forms of its entries, sorted by name. -/
theorem normal_mapping {entries : List (String × Tree)}
    (h : ∀ entry ∈ entries, entry.2.toJson?.isSome) :
    normal (mapping entries) = .mapping (ofFields
      (Fields.ofList (entries.map fun (name, t) => (name, t.value)))) := by
  rw [normal, value, toJson?_mapping h, Option.getD_some, ofJson]

/-- The names of the entries of a normal mapping differ, and under each is the normal form of what
was there. -/
theorem exists_normal_mapping {entries : List (String × Tree)}
    (h : ∀ entry ∈ entries, entry.2.toJson?.isSome) (hnames : (entries.map (·.1)).Nodup) :
    ∃ fields, normal (mapping entries) = .mapping fields ∧ (fields.map (·.1)).Nodup ∧
      ∀ name, fields.lookup name = (entries.lookup name).map normal := by
  have hmapped : ((entries.map fun (name, t) => (name, t.value)).map (·.1)).Nodup := by
    rwa [List.map_map]
  refine ⟨_, normal_mapping h, ?_, fun name => ?_⟩
  · rw [ofFields_eq_map, List.map_map]
    exact (Fields.ordered_ofList _).nodup
  · rw [ofFields_eq_map, Fields.lookup_map, Fields.lookup_ofList hmapped, Fields.lookup_map,
      Option.map_map]
    rfl

end Tree

end Automation
