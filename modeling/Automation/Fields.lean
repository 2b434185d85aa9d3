import Automation.Text.Order
/-!
# Named fields in order

Two ways to keep values under names, each name once. `Fields` are sorted by name; `Entries` stay in
the order in which their names first came, and a repeated name replaces the value in place. Both are
lists of pairs, looked up with `List.lookup`.
-/

namespace Automation

namespace Fields

variable {α : Type}

/-- Puts a value under a name, at the name's place in the order. -/
def insert (name : String) (value : α) : List (String × α) → List (String × α)
  | [] => [(name, value)]
  | (k, v) :: rest =>
    if name = k then (name, value) :: rest
    else if Text.before name k then (name, value) :: (k, v) :: rest
    else (k, v) :: insert name value rest

/-- Puts a value under a name that has none yet. -/
def insertNew (name : String) (value : α) (fields : List (String × α)) : List (String × α) :=
  if (fields.lookup name).isSome then fields else insert name value fields

/-- Removes a name. -/
def erase (name : String) (fields : List (String × α)) : List (String × α) :=
  fields.filter (·.1 ≠ name)

/-- Sorts entries by name; of entries with one name the last counts. -/
def ofList (entries : List (String × α)) : List (String × α) :=
  entries.foldl (fun fields (k, v) => insert k v fields) []

/-- The names ascend strictly. -/
def Ordered (fields : List (String × α)) : Prop :=
  fields.Pairwise fun a b => Text.before a.1 b.1 = true

end Fields

/-- Values under names in the order in which the names first came, each name once. -/
structure Entries (α : Type) where
  list : List (String × α)
  nodup : (list.map (·.1)).Nodup
  deriving Repr

namespace Entries

variable {α : Type}

instance : EmptyCollection (Entries α) := ⟨⟨[], List.nodup_nil⟩⟩

instance : Inhabited (Entries α) := ⟨∅⟩

instance : Coe (Entries α) (List (String × α)) := ⟨Entries.list⟩

/-- Entries are the same if they are listed alike. -/
@[ext] theorem ext {a b : Entries α} (h : a.list = b.list) : a = b := by
  cases a
  cases b
  cases h
  rfl

/-- Puts a value under a name: in place of its old value, or at the end. -/
def insert (name : String) (value : α) : List (String × α) → List (String × α)
  | [] => [(name, value)]
  | (k, v) :: rest => if name = k then (k, value) :: rest else (k, v) :: insert name value rest

/-- No other name comes in when a value is put under a name. -/
theorem mem_names_insert {name other : String} {value : α} {list : List (String × α)}
    (h : other ∈ (insert name value list).map (·.1)) : other = name ∨ other ∈ list.map (·.1) := by
  induction list with
  | nil => exact .inl (List.mem_singleton.1 h)
  | cons entry rest ih =>
    obtain ⟨k, v⟩ := entry
    rw [insert] at h
    split at h
    · exact .inr h
    · rcases List.mem_cons.1 h with rfl | hrest
      · exact .inr (List.mem_cons_self ..)
      · exact (ih hrest).imp_right (List.mem_cons_of_mem _)

/-- Putting a value under a name keeps names different. -/
theorem nodup_insert (name : String) (value : α) {list : List (String × α)}
    (h : (list.map (·.1)).Nodup) : ((insert name value list).map (·.1)).Nodup := by
  induction list with
  | nil => exact List.nodup_cons.2 ⟨List.not_mem_nil, List.nodup_nil⟩
  | cons entry rest ih =>
    obtain ⟨k, v⟩ := entry
    obtain ⟨hk, hrest⟩ := List.nodup_cons.1 h
    rw [insert]
    split
    · exact h
    · next hne =>
      refine List.nodup_cons.2 ⟨fun hmem => ?_, ih hrest⟩
      exact (mem_names_insert hmem).elim (fun heq => hne heq.symm) hk

/-- Collecting entries one after the other keeps names different. -/
theorem nodup_foldl_insert (entries kept : List (String × α))
    (h : (kept.map (·.1)).Nodup) :
    ((entries.foldl (fun kept (k, v) => insert k v kept) kept).map (·.1)).Nodup := by
  induction entries generalizing kept with
  | nil => exact h
  | cons entry rest ih => exact ih _ (nodup_insert entry.1 entry.2 h)

/-- Collects entries; of entries with one name the first gives the place and the last the value. -/
def ofList (entries : List (String × α)) : Entries α where
  list := entries.foldl (fun kept (k, v) => insert k v kept) []
  nodup := nodup_foldl_insert entries [] List.nodup_nil

/-- The entries that have a property. -/
def filter (p : String × α → Bool) (entries : Entries α) : Entries α where
  list := entries.list.filter p
  nodup := entries.nodup.sublist (List.filter_sublist.map _)

end Entries

end Automation
