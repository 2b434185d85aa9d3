import Automation.Definition.Layout
import Automation.Proofs.Tree.Normal
import Automation.Proofs.Tree.Record

/-!
# Definitions as values

A definition is well-formed if it is one that can be written down (`Definition.WellFormed`): the
names of the objects in it ascend, and a limit of iterations has 32 bits. The tree of such a
definition may be arranged in another way before it is read (`Arrangement`); only the inputs of the
steps and the filter of the trigger show it (`Definition.ofTree_arranged`). As it was written, the
tree is read to the definition itself (`Definition.ofTree_toTree`). It also stands for a value, and
reading that value gives the definition back with the inputs of each step and the filter of the
trigger sorted by name (`Definition.ofTree_normal`).
-/

namespace Automation

open Text Automation.Tree

/-! ## Entries -/

namespace Entries

variable {α : Type}

/-- The objects in the values of entries are in order. -/
def WellFormed (entries : Entries Json) : Prop :=
  ∀ entry ∈ entries.list, entry.2.Sorted

/-- Entries sorted by name. -/
def sorted (entries : Entries α) : Entries α where
  list := Fields.ofList entries.list
  nodup := (Fields.ordered_ofList entries.list).nodup

/-- Sorting changes no entries exactly if they are in order. -/
theorem sorted_eq_self_iff {entries : Entries α} :
    entries.sorted = entries ↔ Fields.Ordered entries.list :=
  Entries.ext_iff.trans Fields.ofList_eq_self_iff

/-- An entry with a new name is put after the others. -/
theorem insert_new {name : String} {entries : List (String × α)}
    (h : name ∉ entries.map (·.1)) (value : α) :
    insert name value entries = entries ++ [(name, value)] := by
  induction entries with
  | nil => rfl
  | cons entry rest ih =>
    obtain ⟨k, v⟩ := entry
    rw [List.map_cons, List.mem_cons, not_or] at h
    rw [insert, if_neg h.1, ih h.2]
    rfl

/-- Entries with new names are put after the others. -/
theorem foldl_insert_new {kept entries : List (String × α)}
    (h : ((kept ++ entries).map (·.1)).Nodup) :
    entries.foldl (fun kept (k, v) => insert k v kept) kept = kept ++ entries := by
  induction entries generalizing kept with
  | nil => exact (List.append_nil kept).symm
  | cons entry rest ih =>
    obtain ⟨k, v⟩ := entry
    have hnew : k ∉ kept.map (·.1) := by
      rw [List.map_append, List.map_cons, List.nodup_append] at h
      exact fun hmem => h.2.2 k hmem k (List.mem_cons_self ..) rfl
    rw [List.append_cons] at h ⊢
    rw [List.foldl_cons]
    dsimp only
    rw [insert_new hnew, ih h]

/-- Entries are collected as they are. -/
theorem ofList_list (entries : Entries α) : ofList entries.list = entries :=
  ext (foldl_insert_new (List.nil_append entries.list ▸ entries.nodup))

end Entries

namespace Tree

/-- The tree of a value in order is read as the value. -/
theorem asJson_ofJson {v : Json} (h : v.Sorted) : asJson (ofJson v) = .ok v := by
  rw [asJson, Json.toJson?_ofJson v h]

/-- Items that can all be decoded are decoded to the list of what each is decoded to. -/
theorem mapM_eq_ok {α β : Type} {decode : Tree → Except DecodeFault β} {e : α → Tree} {f : α → β}
    {items : List α} (h : ∀ a ∈ items, decode (e a) = .ok (f a)) :
    (items.map e).mapM decode = .ok (items.map f) := by
  induction items with
  | nil => rfl
  | cons a rest ih =>
    obtain ⟨hfirst, hrest⟩ := List.forall_mem_cons.1 h
    rw [List.map_cons, List.mapM_cons, hfirst, ih hrest]
    rfl

/-- The trees of fields in order are read as the fields. -/
theorem asEntries_ofFields {fields : List (String × Json)} (h : ∀ field ∈ fields, field.2.Sorted) :
    asEntries asJson (.mapping (ofFields fields)) = .ok fields := by
  rw [asEntries]
  induction fields with
  | nil => rfl
  | cons field rest ih =>
    obtain ⟨name, value⟩ := field
    obtain ⟨hfirst, hrest⟩ := List.forall_mem_cons.1 h
    rw [ofFields, List.mapM_cons, ih hrest]
    dsimp only
    rw [asJson_ofJson hfirst]
    rfl

/-- The tree of entries has a value. -/
theorem isSome_toJson?_ofEntries (entries : List (String × Json)) :
    (ofEntries entries).toJson?.isSome := by
  rw [ofEntries, ← ofFields_eq_map]
  exact isSome_toJson?_ofJson (.object entries)

/-- The values of the trees of entries in order are the entries. -/
theorem map_value_ofJson {entries : List (String × Json)}
    (h : ∀ entry ∈ entries, entry.2.Sorted) :
    (entries.map fun (name, v) => (name, ofJson v)).map (fun (name, t) => (name, t.value)) =
      entries := by
  rw [List.map_map]
  exact (List.map_congr_left fun entry hentry =>
    congrArg (Prod.mk entry.1) (value_ofJson (h entry hentry))).trans (List.map_id _)

/-- Ordered entries are read back in their order. -/
theorem asOrdered_ofEntries {entries : Entries Json} (h : entries.WellFormed) :
    asOrdered asJson (ofEntries entries.list) = .ok entries := by
  rw [ofEntries, ← ofFields_eq_map, asOrdered, asEntries_ofFields h]
  exact congrArg Except.ok entries.ofList_list

/-- Ordered entries are read back from their value in sorted order. -/
theorem asOrdered_normal {entries : Entries Json} (h : entries.WellFormed) :
    asOrdered asJson (normal (ofEntries entries.list)) = .ok entries.sorted := by
  have hperm := Fields.perm_ofList entries.nodup
  rw [ofEntries, normal_mapping, map_value_ofJson h, asOrdered,
    asEntries_ofFields fun field hfield => h field (hperm.mem_iff.1 hfield)]
  · exact congrArg Except.ok entries.sorted.ofList_list
  · intro entry hentry
    obtain ⟨field, -, rfl⟩ := List.mem_map.1 hentry
    exact isSome_toJson?_ofJson field.2

/-! ## Arrangements -/

/-- A way to arrange the entries of all mappings in a tree, and what it makes of ordered entries
that are read from the tree. Scalars, items in sequences and the values of entries stay where they
are, and so do the trees of values whose objects are in order. -/
structure Arrangement where
  tree : Tree → Tree
  entries : Entries Json → Entries Json
  string (s : String) : tree (.string s) = .string s
  bool (b : Bool) : tree (.bool b) = .bool b
  number (n : Number) : tree (.number n) = .number n
  value {v : Json} (h : v.Sorted) : tree (ofJson v) = ofJson v
  sequence {items : List Tree} (h : ∀ t ∈ items, t.toJson?.isSome) :
    tree (.sequence true items) = .sequence true (items.map tree)
  mapping {entries : List (String × Tree)} (h : ∀ entry ∈ entries, entry.2.toJson?.isSome)
    (hnames : (entries.map (·.1)).Nodup) :
    ∃ fields, tree (.mapping entries) = .mapping fields ∧ (fields.map (·.1)).Nodup ∧
      ∀ name, fields.lookup name = (entries.lookup name).map tree
  empty : entries ∅ = ∅
  ordered {written : Entries Json} (h : written.WellFormed) :
    asOrdered asJson (tree (ofEntries written.list)) = .ok (entries written)

attribute [simp] Arrangement.string Arrangement.bool Arrangement.number

namespace Arrangement

/-- All entries stay in their order. -/
def asWritten : Arrangement where
  tree := id
  entries := id
  string _ := rfl
  bool _ := rfl
  number _ := rfl
  value _ := rfl
  sequence _ := congrArg (Tree.sequence true) (List.map_id _).symm
  mapping _ hnames := ⟨_, rfl, hnames, fun _ => (Option.map_id_apply ..).symm⟩
  empty := rfl
  ordered := asOrdered_ofEntries

/-- All entries are sorted by name. -/
def byName : Arrangement where
  tree := normal
  entries := Entries.sorted
  string := normal_string
  bool := normal_bool
  number := normal_number
  value := normal_ofJson
  sequence := normal_sequence
  mapping := exists_normal_mapping
  empty := rfl
  ordered := asOrdered_normal

@[simp] theorem tree_ofNat (A : Arrangement) (n : Nat) : A.tree (ofNat n) = ofNat n :=
  A.number _

end Arrangement

/-! ## Optional entries -/

section
variable {α : Type} {name : String} {encode : α → Tree} {o : Option α}

/-- An entry that may be absent is found under its own name only. -/
theorem lookup_entry? (other : String) :
    (Tree.entry? name encode o).lookup other = if other = name then o.map encode else none := by
  cases o with
  | none => simp [Tree.entry?]
  | some a =>
    rw [Tree.entry?, List.lookup_cons]
    by_cases h : other = name
    · rw [beq_iff_eq.2 h, if_pos h]
      rfl
    · rw [beq_eq_false_iff_ne.2 h, if_neg h]
      rfl

/-- An entry that may be absent has its own name, if any. -/
theorem names_entry?_sublist : ((Tree.entry? name encode o).map (·.1)).Sublist [name] := by
  cases o with
  | none => exact List.nil_sublist _
  | some a => exact List.Sublist.refl _

/-- What holds of an entry that may be absent holds of its value, if there is one. -/
theorem forall_mem_entry? {p : String × Tree → Prop} :
    (∀ entry ∈ entry? name encode o, p entry) ↔ ∀ a ∈ o, p (name, encode a) := by
  cases o <;> simp [Tree.entry?]

end

end Tree

/-- An optional entry holds its value, absent or not. -/
theorem Record.holdsD_of_lookup {α : Type} {fields : List (String × Tree)} {name : String}
    {decode : Tree → Except DecodeFault α} {o : Option α} (e : α → Tree)
    (h : fields.lookup name = o.map e)
    (hdecode : ∀ a ∈ o, Tree.asOption decode (e a) = .ok (some a)) :
    HoldsD fields name (Tree.asOption decode) none o := by
  rw [HoldsD, h]
  cases o with
  | none => rfl
  | some a => exact hdecode a rfl

/-- A number up to the largest word is read as it is. -/
theorem Tree.asWord32_ofNat {n : Nat} (h : n ≤ maxWord32) : asWord32 (ofNat n) = .ok n := by
  have hrange : (0 : Int) ≤ n ∧ (n : Int) ≤ maxWord32 :=
    ⟨Int.natCast_nonneg n, Int.ofNat_le.2 h⟩
  rw [ofNat, asWord32, asWord, if_pos hrange]
  rfl

/-! ## Loops -/

/-- The loop is one that can be written down. -/
structure Loop.WellFormed (l : Loop) : Prop where
  input : l.input.Sorted
  maxIterations : ∀ n ∈ l.maxIterations, n ≤ maxWord32

section
variable (A : Tree.Arrangement)

open Record in
/-- A loop is read back from its tree in any arrangement. -/
theorem Loop.ofTree_arranged {l : Loop} (h : l.WellFormed) :
    l.toTree.toJson?.isSome ∧
      ∃ fields, A.tree l.toTree = .mapping fields ∧ Loop.ofTree (.mapping fields) = .ok l := by
  unfold Loop.toTree
  generalize hentries : ("input", ofJson l.input) :: _ = entries
  have husable : ∀ entry ∈ entries, entry.2.toJson?.isSome := by
    rw [← hentries]
    simp only [List.forall_mem_cons, List.forall_mem_append, forall_mem_entry?]
    exact ⟨isSome_toJson?_ofJson _, ⟨fun _ _ => rfl, fun _ _ => rfl⟩, fun _ _ => rfl⟩
  have hnames : (entries.map (·.1)).Nodup := by
    have hsub : (entries.map (·.1)).Sublist
        ["input", "separator", "max_iterations", "failure_condition"] := by
      rw [← hentries, List.map_cons, List.map_append, List.map_append]
      exact ((names_entry?_sublist.append names_entry?_sublist).append
        names_entry?_sublist).cons_cons _
    exact List.Nodup.sublist hsub (by decide)
  obtain ⟨fields, hfields, hnodup, hlookup⟩ := A.mapping husable hnames
  have hinput : Holds fields "input" asJson l.input := by
    refine ⟨ofJson l.input, ?_, asJson_ofJson h.input⟩
    rw [hlookup, ← hentries, List.lookup_cons_self, Option.map_some, A.value h.input]
  have hseparator : HoldsD fields "separator" (asOption asString) none l.separator := by
    refine holdsD_of_lookup .string ?_ fun _ _ => rfl
    simp [hlookup, ← hentries, List.lookup_append, List.lookup_cons, lookup_entry?,
      Function.comp_def]
  have hmax : HoldsD fields "max_iterations" (asOption asWord32) none l.maxIterations := by
    refine holdsD_of_lookup ofNat ?_ fun n hn =>
      congrArg (some <$> ·) (asWord32_ofNat (h.maxIterations n hn))
    simp [hlookup, ← hentries, List.lookup_append, List.lookup_cons, lookup_entry?,
      Function.comp_def]
  have hcondition :
      HoldsD fields "failure_condition" (asOption asString) none l.failureCondition := by
    refine holdsD_of_lookup .string ?_ fun _ _ => rfl
    simp [hlookup, ← hentries, List.lookup_append, List.lookup_cons, lookup_entry?,
      Function.comp_def]
  obtain ⟨r, hr, hsame⟩ := (Fits.required hinput (.optional hseparator (.optional hmax
    (.optional hcondition .nil)))).record (by decide) hnodup "LoopSpec"
  refine ⟨by rw [toJson?_mapping husable]; rfl, fields, hfields, ?_⟩
  rw [ofTree, hr]
  dsimp only [bind, Except.bind, Record.get?]
  rw [hinput.get (hsame _ (by simp [FieldShape.required])),
    hseparator.getD (hsame _ (by simp [FieldShape.optional_])),
    hmax.getD (hsame _ (by simp [FieldShape.optional_])),
    hcondition.getD (hsame _ (by simp [FieldShape.optional_]))]
  rfl

/-! ## Steps -/

/-- The step is one that can be written down. -/
structure Step.WellFormed (s : Step) : Prop where
  inputs : s.inputs.WellFormed
  loop : ∀ l ∈ s.loop, l.WellFormed

/-- The step with its inputs arranged. -/
def Step.arranged (s : Step) : Step :=
  { s with inputs := A.entries s.inputs }

/-- The step with its inputs sorted by name. -/
def Step.sorted (s : Step) : Step :=
  { s with inputs := s.inputs.sorted }

/-- A kind is read off its name. -/
theorem StepKind.ofTree_wireName (k : StepKind) : StepKind.ofTree (.string k.wireName) = .ok k := by
  cases k <;> rfl

open Record in
/-- A step is read back from its tree in any arrangement, with its inputs arranged. -/
theorem Step.ofTree_arranged {s : Step} (h : s.WellFormed) :
    s.toTree.toJson?.isSome ∧ Step.ofTree (A.tree s.toTree) = .ok (s.arranged A) := by
  unfold Step.toTree
  generalize hentries : [("id", Tree.string s.id), _, _] ++ _ = entries
  have husable : ∀ entry ∈ entries, entry.2.toJson?.isSome := by
    rw [← hentries]
    simp only [List.forall_mem_cons, List.forall_mem_append, forall_mem_entry?]
    exact ⟨⟨rfl, rfl, isSome_toJson?_ofEntries _, by simp⟩,
      fun l hl => (Loop.ofTree_arranged A (h.loop l hl)).1, fun _ _ => rfl⟩
  have hnames : (entries.map (·.1)).Nodup := by
    have hsub : (entries.map (·.1)).Sublist
        ["id", "step_id", "inputs", "loop", "halt_on_failure"] := by
      rw [← hentries, List.map_append, List.map_append]
      exact (List.Sublist.refl _).append (names_entry?_sublist.append names_entry?_sublist)
    exact List.Nodup.sublist hsub (by decide)
  obtain ⟨fields, hfields, hnodup, hlookup⟩ := A.mapping husable hnames
  have hid : Holds fields "id" asString s.id :=
    ⟨.string s.id, by simp [hlookup, ← hentries], rfl⟩
  have hkind : Holds fields "step_id" StepKind.ofTree s.kind :=
    ⟨.string s.kind.wireName, by simp [hlookup, ← hentries, List.lookup_cons],
      s.kind.ofTree_wireName⟩
  have hinputs : HoldsD fields "inputs" (asOrdered asJson) ∅ (A.entries s.inputs) := by
    have hfound : fields.lookup "inputs" = some (A.tree (ofEntries s.inputs.list)) := by
      simp [hlookup, ← hentries, List.lookup_cons]
    rw [HoldsD, hfound]
    exact A.ordered h.inputs
  have hloop : HoldsD fields "loop" (asOption Loop.ofTree) none s.loop := by
    refine holdsD_of_lookup (A.tree ∘ Loop.toTree) ?_ fun l hl => ?_
    · simp [hlookup, ← hentries, List.lookup_append, List.lookup_cons, lookup_entry?]
    · obtain ⟨-, fields, hfields, hread⟩ := Loop.ofTree_arranged A (h.loop l hl)
      rw [Function.comp_apply, hfields, asOption, hread]
      · rfl
      · intro h
        cases h
      · intro s h
        cases h
  have hhalt : HoldsD fields "halt_on_failure" (asOption asBool) none s.haltOnFailure := by
    refine holdsD_of_lookup .bool ?_ fun _ _ => rfl
    simp [hlookup, ← hentries, List.lookup_append, List.lookup_cons, lookup_entry?,
      Function.comp_def]
  obtain ⟨r, hr, hsame⟩ := (Fits.required hid (.required hkind (.optional hinputs
    (.optional hloop (.optional hhalt .nil))))).record (by decide) hnodup "StepSpec"
  refine ⟨by rw [toJson?_mapping husable]; rfl, ?_⟩
  rw [hfields, ofTree, hr]
  dsimp only [bind, Except.bind, Record.get?]
  rw [hid.get (hsame _ (by simp [FieldShape.required])),
    hkind.get (hsame _ (by simp [FieldShape.required])),
    hinputs.getD (hsame _ (by simp [FieldShape.optional_])),
    hloop.getD (hsame _ (by simp [FieldShape.optional_])),
    hhalt.getD (hsame _ (by simp [FieldShape.optional_]))]
  rfl

/-! ## Triggers -/

/-- The trigger with its filter arranged. -/
def Trigger.arranged (t : Trigger) : Trigger :=
  { t with filter := A.entries t.filter }

/-- The trigger with its filter sorted by name. -/
def Trigger.sorted (t : Trigger) : Trigger :=
  { t with filter := t.filter.sorted }

/-- An event is read off its name. -/
theorem TriggerEvent.ofTree_wireName (e : TriggerEvent) :
    TriggerEvent.ofTree (.string e.wireName) = .ok e := by
  cases e <;> rfl

open Record in
/-- A trigger is read back from its tree in any arrangement, with its filter arranged. -/
theorem Trigger.ofTree_arranged {t : Trigger} (h : t.filter.WellFormed) :
    t.toTree.toJson?.isSome ∧ Trigger.ofTree (A.tree t.toTree) = .ok (t.arranged A) := by
  unfold Trigger.toTree
  generalize hentries : ("event", Tree.string t.event.wireName) :: _ = entries
  have husable : ∀ entry ∈ entries, entry.2.toJson?.isSome := by
    rw [← hentries, List.forall_mem_cons]
    refine ⟨rfl, ?_⟩
    split
    · simp
    · simp [isSome_toJson?_ofEntries]
  have hnames : (entries.map (·.1)).Nodup := by
    rw [← hentries]
    split
    · simp
    · simp
  obtain ⟨fields, hfields, hnodup, hlookup⟩ := A.mapping husable hnames
  have hevent : Holds fields "event" TriggerEvent.ofTree t.event :=
    ⟨.string t.event.wireName, by simp [hlookup, ← hentries], t.event.ofTree_wireName⟩
  have hfilter : HoldsD fields "filter" (asOrdered asJson) ∅ (A.entries t.filter) := by
    rw [HoldsD, hlookup, ← hentries]
    by_cases hempty : t.filter.list = []
    · have hnone : t.filter = ∅ := Entries.ext hempty
      rw [hnone]
      exact A.empty
    · simpa [List.lookup_cons, hempty] using A.ordered h
  obtain ⟨r, hr, hsame⟩ := (Fits.required hevent (.optional hfilter .nil)).record (by decide)
    hnodup "TriggerSpec"
  refine ⟨by rw [toJson?_mapping husable]; rfl, ?_⟩
  rw [hfields, ofTree, hr]
  dsimp only [bind, Except.bind]
  rw [hevent.get (hsame _ (by simp [FieldShape.required])),
    hfilter.getD (hsame _ (by simp [FieldShape.optional_]))]
  rfl

/-! ## Definitions -/

namespace Definition

/-- The definition is one that can be written down. -/
structure WellFormed (d : Definition) : Prop where
  filter : d.trigger.filter.WellFormed
  steps : ∀ s ∈ d.steps, s.WellFormed

/-- The definition with the filter of its trigger and the inputs of its steps arranged. -/
def arranged (d : Definition) : Definition :=
  { d with trigger := d.trigger.arranged A, steps := d.steps.map (Step.arranged A) }

/-- The definition with the filter of its trigger and the inputs of its steps sorted by name. -/
def sorted (d : Definition) : Definition :=
  { d with trigger := d.trigger.sorted, steps := d.steps.map Step.sorted }

/-- The filter of the trigger and the inputs of all steps are in order. -/
structure InOrder (d : Definition) : Prop where
  filter : Fields.Ordered d.trigger.filter.list
  steps : ∀ s ∈ d.steps, Fields.Ordered s.inputs.list

open Record in
/-- A definition is read back from its tree in any arrangement, with its entries arranged. -/
theorem ofTree_arranged {d : Definition} (h : d.WellFormed) :
    d.toTree.toJson?.isSome ∧ ofTree (A.tree d.toTree) = .ok (d.arranged A) := by
  have hitems : ∀ t ∈ d.steps.map Step.toTree, t.toJson?.isSome := by
    intro t ht
    obtain ⟨s, hs, rfl⟩ := List.mem_map.1 ht
    exact (Step.ofTree_arranged A (h.steps s hs)).1
  obtain ⟨htrigger, hreadTrigger⟩ := Trigger.ofTree_arranged A h.filter
  unfold Definition.toTree
  generalize hentries : [("id", Tree.string d.id), _] ++ _ = entries
  have husable : ∀ entry ∈ entries, entry.2.toJson?.isSome := by
    rw [← hentries]
    simp only [List.forall_mem_cons, List.forall_mem_append, forall_mem_entry?]
    refine ⟨⟨rfl, rfl, by simp⟩, fun _ _ => rfl, htrigger, ?_, by simp⟩
    rw [toJson?_sequence hitems]
    rfl
  have hnames : (entries.map (·.1)).Nodup := by
    have hsub : (entries.map (·.1)).Sublist ["id", "tenant_id", "name", "trigger", "steps"] := by
      rw [← hentries, List.map_append, List.map_append]
      exact (List.Sublist.refl _).append (names_entry?_sublist.append (List.Sublist.refl _))
    exact List.Nodup.sublist hsub (by decide)
  obtain ⟨fields, hfields, hnodup, hlookup⟩ := A.mapping husable hnames
  have hid : Holds fields "id" asString d.id :=
    ⟨.string d.id, by simp [hlookup, ← hentries], rfl⟩
  have htenant : Holds fields "tenant_id" Tenant.ofTree d.tenant :=
    ⟨.string d.tenant.name, by simp [hlookup, ← hentries, List.lookup_cons], rfl⟩
  have hname : HoldsD fields "name" (asOption asString) none d.name := by
    refine holdsD_of_lookup .string ?_ fun _ _ => rfl
    simp [hlookup, ← hentries, List.lookup_append, List.lookup_cons, lookup_entry?,
      Function.comp_def]
  have htrigger : Holds fields "trigger" Trigger.ofTree (d.trigger.arranged A) := by
    refine ⟨A.tree d.trigger.toTree, ?_, hreadTrigger⟩
    simp [hlookup, ← hentries, List.lookup_append, List.lookup_cons, lookup_entry?]
  have hsteps : HoldsD fields "steps" (asList Step.ofTree) [] (d.steps.map (Step.arranged A)) := by
    have hfound : fields.lookup "steps" =
        some (A.tree (.sequence true (d.steps.map Step.toTree))) := by
      simp [hlookup, ← hentries, List.lookup_append, List.lookup_cons, lookup_entry?]
    rw [HoldsD, hfound, A.sequence hitems, List.map_map]
    exact mapM_eq_ok fun s hs => (Step.ofTree_arranged A (h.steps s hs)).2
  obtain ⟨r, hr, hsame⟩ := (Fits.required hid (.required htenant (.optional hname
    (.required htrigger (.optional hsteps .nil))))).record (by decide) hnodup
      "AutomationDefinition"
  refine ⟨by rw [toJson?_mapping husable]; rfl, ?_⟩
  rw [hfields, ofTree, hr]
  dsimp only [bind, Except.bind, Record.get?]
  rw [hid.get (hsame _ (by simp [FieldShape.required])),
    htenant.get (hsame _ (by simp [FieldShape.required])),
    hname.getD (hsame _ (by simp [FieldShape.optional_])),
    htrigger.get (hsame _ (by simp [FieldShape.required])),
    hsteps.getD (hsame _ (by simp [FieldShape.optional_]))]
  rfl

/-- A definition is read back from its tree. -/
theorem ofTree_toTree {d : Definition} (h : d.WellFormed) : ofTree d.toTree = .ok d := by
  have hsteps : d.steps.map (Step.arranged .asWritten) = d.steps := List.map_id'' (fun _ => rfl) _
  have hread := (ofTree_arranged .asWritten h).2
  rw [arranged, hsteps] at hread
  exact hread

/-- A definition is read back from its value, sorted. -/
theorem ofTree_normal {d : Definition} (h : d.WellFormed) :
    d.toTree.toJson?.isSome ∧ ofTree (normal d.toTree) = .ok d.sorted :=
  ofTree_arranged .byName h

/-- Sorting changes nothing exactly if the definition is in order. -/
theorem sorted_eq_self_iff {d : Definition} : d.sorted = d ↔ d.InOrder := by
  have hstep (s : Step) : s.sorted = s ↔ Fields.Ordered s.inputs.list := by
    rw [← Entries.sorted_eq_self_iff]
    exact ⟨congrArg Step.inputs, fun h => by rw [Step.sorted, h]⟩
  have hsteps (steps : List Step) : steps.map Step.sorted = steps ↔
      ∀ s ∈ steps, Fields.Ordered s.inputs.list := by
    induction steps with
    | nil => simp
    | cons s rest ih => rw [List.map_cons, List.cons.injEq, hstep, ih, List.forall_mem_cons]
  constructor
  · intro h
    refine ⟨?_, (hsteps d.steps).1 (congrArg Definition.steps h)⟩
    rw [← Entries.sorted_eq_self_iff]
    exact congrArg (fun d : Definition => d.trigger.filter) h
  · intro h
    rw [sorted, (hsteps d.steps).2 h.steps, Trigger.sorted,
      Entries.sorted_eq_self_iff.2 h.filter]

end Definition

end

end Automation
