import Automation.Fields

/-!
# Looking fields up

What `List.lookup` finds in fields after a value was put under a name (`Fields.insert`): the value
under that name (`Fields.lookup_insert_self`) and what was there before under every other
(`Fields.lookup_insert_ne`). Both hold whether or not the names ascend. A name that comes after all
others is put at the end (`Fields.insert_last`). A value that is put under a name only if that has
none changes nothing else either (`Fields.lookup_insertNew`), and sorting entries by name does not
change what is found under their names if these differ (`Fields.lookup_ofList`).
-/

namespace Automation.Fields

variable {α : Type}

/-- The value that was put under a name is found there. -/
@[simp] theorem lookup_insert_self (name : String) (value : α) (fields : List (String × α)) :
    (insert name value fields).lookup name = some value := by
  induction fields with
  | nil => simp [insert]
  | cons e rest ih =>
    obtain ⟨k, v⟩ := e
    rw [insert]
    split
    · exact List.lookup_cons_self
    · next hk =>
      split
      · exact List.lookup_cons_self
      · have hne : (name == k) = false := by simpa using hk
        rw [List.lookup_cons, hne]
        exact ih

/-- What is under the other names stays. -/
theorem lookup_insert_ne {name other : String} (h : other ≠ name) (value : α)
    (fields : List (String × α)) :
    (insert name value fields).lookup other = fields.lookup other := by
  have hne : (other == name) = false := by simpa using h
  induction fields with
  | nil => simp [insert, h]
  | cons e rest ih =>
    obtain ⟨k, v⟩ := e
    rw [insert]
    split
    · next hk =>
      subst hk
      simp only [List.lookup_cons, hne]
    · split
      · simp only [List.lookup_cons, hne]
      · rw [List.lookup_cons, List.lookup_cons, ih]

/-- Under its name a new value is found if there was none, and under the other names what was there
before. -/
theorem lookup_insertNew (name other : String) (value : α) (fields : List (String × α)) :
    (insertNew name value fields).lookup other =
      (fields.lookup other).or (if other = name then some value else none) := by
  unfold insertNew
  by_cases hname : other = name
  · subst hname
    cases h : fields.lookup other <;> simp [h]
  · cases h : fields.lookup name <;> simp [lookup_insert_ne hname, hname]

/-- A name under which nothing is found is not a name of the fields. -/
theorem lookup_eq_none_iff {name : String} {fields : List (String × α)} :
    fields.lookup name = none ↔ name ∉ fields.map (·.1) := by
  rw [List.lookup_eq_none_iff]
  constructor
  · intro h hmem
    obtain ⟨field, hfield, rfl⟩ := List.mem_map.1 hmem
    simpa using h field hfield
  · intro h field hfield
    have hne : name ≠ field.1 := fun heq => h (List.mem_map.2 ⟨field, hfield, heq.symm⟩)
    simpa using hne

/-- What is found under a name is one of the fields. -/
theorem mem_of_lookup {name : String} {value : α} {fields : List (String × α)}
    (h : fields.lookup name = some value) : (name, value) ∈ fields := by
  obtain ⟨before, after, rfl, -⟩ := List.lookup_eq_some_iff.1 h
  exact List.mem_append_right before (List.mem_cons_self ..)

/-- Each of some fields with different names is found. -/
theorem lookup_of_mem {name : String} {value : α} {fields : List (String × α)}
    (hnodup : (fields.map (·.1)).Nodup) (h : (name, value) ∈ fields) :
    fields.lookup name = some value := by
  induction fields with
  | nil => cases h
  | cons field rest ih =>
    obtain ⟨hfirst, hrest⟩ := List.nodup_cons.1 hnodup
    rcases List.mem_cons.1 h with rfl | hmem
    · exact List.lookup_cons_self
    · have hne : name ≠ field.1 := fun heq => hfirst (List.mem_map.2 ⟨_, hmem, heq⟩)
      rw [List.lookup_cons, beq_eq_false_iff_ne.2 hne]
      exact ih hrest hmem

/-- What is found among values that have been changed, each in the same way. -/
theorem lookup_map {β : Type} (f : α → β) (fields : List (String × α)) (name : String) :
    (fields.map fun (k, v) => (k, f v)).lookup name = (fields.lookup name).map f := by
  induction fields with
  | nil => rfl
  | cons field rest ih =>
    obtain ⟨k, v⟩ := field
    rw [List.map_cons, List.lookup_cons, List.lookup_cons, ih]
    cases name == k <;> rfl

/-- Sorting entries by name keeps what is found under a name, if the names differ. -/
theorem lookup_ofList {entries : List (String × α)} (h : (entries.map (·.1)).Nodup)
    (name : String) : (ofList entries).lookup name = entries.lookup name := by
  -- What is found are the entries that are still to come, and else what has been sorted in so far.
  have hfold : ∀ sorted : List (String × α),
      (entries.foldl (fun fields (k, v) => insert k v fields) sorted).lookup name =
        (entries.lookup name).or (sorted.lookup name) := by
    induction entries with
    | nil => intro sorted; rfl
    | cons entry rest ih =>
      intro sorted
      obtain ⟨k, v⟩ := entry
      obtain ⟨hfirst, hrest⟩ := List.nodup_cons.1 h
      rw [List.foldl_cons, ih hrest]
      by_cases hname : name = k
      · subst hname
        rw [lookup_eq_none_iff.2 hfirst, lookup_insert_self, List.lookup_cons_self]
        rfl
      · rw [lookup_insert_ne hname, List.lookup_cons, beq_eq_false_iff_ne.2 hname]
  rw [ofList, hfold []]
  exact Option.or_none

/-- A name that comes after all others is put at the end. -/
theorem insert_last {name : String} {fields : List (String × α)}
    (h : ∀ field ∈ fields, Text.before field.1 name = true) (value : α) :
    insert name value fields = fields ++ [(name, value)] := by
  induction fields with
  | nil => rfl
  | cons field rest ih =>
    obtain ⟨other, v⟩ := field
    have hother := h _ (List.mem_cons_self ..)
    have hne : name ≠ other := by
      rintro rfl
      rw [Text.before_irrefl] at hother
      cases hother
    have hafter : ¬Text.before name other = true := by
      intro hbefore
      have hself := Text.before_trans hother hbefore
      rw [Text.before_irrefl] at hself
      cases hself
    rw [insert, if_neg hne, if_neg hafter, ih fun field hf => h field (List.mem_cons_of_mem _ hf)]
    rfl

/-- The value of a name is the one at the first place that has the name. -/
theorem lookup_eq_of_getElem? {name : String} {value : α} {fields : List (String × α)} {i : Nat}
    (hi : fields[i]? = some (name, value))
    (hbefore : ∀ j field, j < i → fields[j]? = some field → field.1 ≠ name) :
    fields.lookup name = some value := by
  induction fields generalizing i with
  | nil => simp at hi
  | cons field rest ih =>
    obtain ⟨other, value'⟩ := field
    cases i with
    | zero =>
      cases hi
      rw [List.lookup_cons, beq_self_eq_true]
    | succ i =>
      have hne : other ≠ name := hbefore 0 _ (Nat.succ_pos i) rfl
      rw [List.lookup_cons, beq_eq_false_iff_ne.2 hne.symm]
      exact ih hi fun j field hj => hbefore (j + 1) field (Nat.succ_lt_succ hj)

end Automation.Fields
