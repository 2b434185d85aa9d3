import Automation.Proofs.Execution.Sorted
import Automation.Proofs.Row.Interleaving
import Automation.Proofs.Step.Shape

/-!
# Writing rows back

A patch changes no field of a row if each of its own fields either is reserved or is in the row
already, with the same value (`Row.patched_eq_self`). So it is with the row as it is shown, whatever
the names of its fields are (`Row.patched_shown`), and with a patch that has been put over the row
before (`Row.patched_patched`). An update from such inputs leaves the fields of the row in the store
as they are, and raises its revision (`Row.update_harmless`).
-/

namespace Automation

/-! ## Patches that change nothing -/

namespace Row

variable {fields patch : RowFields}

/-- A patch with the values that the fields have anyway changes nothing. -/
theorem patched_eq_self (hfields : Fields.Ordered fields) (hpatch : Fields.Ordered patch)
    (h : ∀ name v, isReserved name = false → patch.lookup name = some v →
      fields.lookup name = some v) : patched fields patch = fields := by
  refine (ordered_patched patch hfields).ext hfields fun name => ?_
  rw [lookup_patched hpatch]
  cases hname : isReserved name with
  | true => rfl
  | false =>
    cases hv : patch.lookup name with
    | none => rfl
    | some v => exact (h name v hname hv).symm

/-- A field that is not reserved is shown as it is. -/
theorem lookup_shown {d : Document} {name : String} (h : isReserved name = false) :
    (shown d).field? name = (fieldsOf d.body).lookup name := by
  simp only [isReserved, Bool.or_eq_false_iff, beq_eq_false_iff_ne, ne_eq] at h
  obtain ⟨⟨hid, hrev⟩, -⟩ := h
  rw [shown, Json.field?, Fields.lookup_insert_ne hrev, Fields.lookup_insert_ne hid]

/-- The row as it is shown changes no field of it, not even one with a name under which the id or
the revision is shown. -/
theorem patched_shown {d : Document} (h : Fields.Ordered (fieldsOf d.body)) :
    patched (fieldsOf d.body) (fieldsOf (shown d)) = fieldsOf d.body := by
  have hshown : Fields.Ordered (fieldsOf (shown d)) :=
    Fields.ordered_insert _ _ (Fields.ordered_insert _ _ h)
  refine patched_eq_self h hshown fun name v hname hv => ?_
  rw [← lookup_shown hname]
  exact hv

/-- A patch that has been put over a row changes nothing more in it. -/
theorem patched_patched (hfields : Fields.Ordered fields) (hpatch : Fields.Ordered patch) :
    patched (patched fields patch) patch = patched fields patch := by
  refine patched_eq_self (ordered_patched patch hfields) hpatch fun name v hname hv => ?_
  rw [lookup_patched hpatch, hname, hv]
  rfl

end Row

/-! ## The task of an update -/

namespace Task

/-- The fields of a row are read from its value. -/
theorem asRow_ofJson {row : RowFields} (h : (Json.object row).Sorted) :
    asRow (.ofJson (.object row)) = .ok row := by
  obtain ⟨hordered, hvalues⟩ := Json.sorted_object_iff.1 h
  have hentries : Tree.asEntries Tree.asJson (.ofJson (.object row)) = .ok row := by
    rw [Tree.ofJson, Tree.asEntries]
    clear h hordered
    induction row with
    | nil => rfl
    | cons field rest ih =>
      obtain ⟨name, v⟩ := field
      obtain ⟨hv, hrest⟩ := List.forall_mem_cons.1 hvalues
      have hfirst : Tree.asJson (.ofJson v) = .ok v := by
        rw [Tree.asJson, Json.toJson?_ofJson v hv]
      rw [Tree.ofFields, List.mapM_cons, ih hrest]
      dsimp only
      rw [hfirst]
      rfl
  rw [asRow, Tree.asSorted, hentries]
  exact congrArg Except.ok (Fields.ofList_of_ordered hordered)

end Task

namespace Row

/-- Resolved inputs have a row's id and a value to update it with, and neither has failed. -/
structure UpdateInputs (inputs : Resolver.ResolvedInputs) (id : String) (row : Json) : Prop where
  sorted : (Json.object inputs.values).Sorted
  sound : ∀ name ∈ StepKind.updateRow.requiredInputs, inputs.failureFor? name = none
  row_id : inputs.values.lookup "row_id" = some (.string id)
  row : inputs.values.lookup "row" = some row

/-- A document has been written, and that is all. -/
structure Wrote (t : Tenant) (s : Services) (d : Document) (s' : Services) : Prop where
  services : s' = { s with store := s'.store }
  document : s'.store.get? t d.id = some d
  others : ∀ owner id, owner ≠ t ∨ id ≠ d.id → s'.store.get? owner id = s.store.get? owner id

section
variable {inputs : Resolver.ResolvedInputs} {id : String} {patch : RowFields} {x : Task.Setting}
  {s : Services} {d : Document}

/-- The inputs of an update are read as its task. -/
theorem UpdateInputs.taskOf_eq (h : UpdateInputs inputs id (.object patch)) :
    Execution.taskOf .updateRow inputs = .ok (.updateRow id patch) := by
  obtain ⟨hordered, hvalues⟩ := Json.sorted_object_iff.1 h.sorted
  have hrequired : Execution.requiredFault? .updateRow inputs = none := by
    refine List.findSome?_eq_none_iff.2 fun name hname => ?_
    rw [Execution.inputFault?, h.sound name hname]
    rcases List.mem_cons.1 hname with rfl | hname
    · rw [h.row_id]
      rfl
    · rw [List.mem_singleton.1 hname, h.row]
      rfl
  rw [Execution.taskOf, hrequired]
  refine (Task.ofInputs_eq_ok_iff hordered).2 (.updateRow ⟨.string id, ?_, rfl⟩
    ⟨.ofJson (.object patch), ?_, Task.asRow_ofJson (hvalues _ (Fields.mem_of_lookup h.row))⟩)
  · rw [Automation.LeavesOut.lookup_ofFields, h.row_id]
    rfl
  · rw [Automation.LeavesOut.lookup_ofFields, h.row]
    rfl

/-- An update of a row that is there writes it with its next revision. -/
theorem UpdateInputs.performed (h : UpdateInputs inputs id (.object patch)) (hid : isId id = true)
    (hserved : Served s) (hrow : s.store.get? x.tenant id = some d) :
    ∃ s', Execution.performWith x .updateRow inputs s =
        (.ok (Task.rowOutputs (overwritten d d patch)), s') ∧
      Wrote x.tenant s (overwritten d d patch) s' := by
  have hput := s.putDocument_of_served x.tenant (patchedDocument d patch) hserved.put
  have hself := s.store.get?_put_self x.tenant (patchedDocument d patch)
  rw [put_patchedDocument hrow (id_of_get? hrow)] at hput hself
  refine ⟨{ s with store := (s.store.put x.tenant (patchedDocument d patch)).2 }, ?_, rfl, hself,
    fun owner other hother => s.store.get?_put_ne x.tenant hother⟩
  rw [Execution.performWith_eq, h.taskOf_eq]
  change Task.performUpdate x id patch s = _
  rw [Task.performUpdate, hid, s.getDocument_of_served x.tenant id hserved.get, hrow]
  change Task.rowResult (s.putDocument x.tenant (patchedDocument d patch)) = _
  rw [hput]
  rfl

/-- A store that has been written to is in service as before. -/
theorem Wrote.served {s' : Services} (h : Wrote x.tenant s d s') (hserved : Served s) :
    Served s' := by
  rw [h.services]
  exact ⟨hserved.get, hserved.put⟩

/-- A row can be written back as it is shown: its fields stay, and its revision is raised by one.
And an update that is made twice leaves the fields that it has left the first time. Whatever the
patch, the table of the row stays, and no other document changes. -/
theorem update_harmless (hid : isId id = true) (hserved : Served s)
    (hrow : s.store.get? x.tenant id = some d) (hsorted : d.body.Sorted) :
    (∀ fields inputs, d.body = .object fields → UpdateInputs inputs id (shown d) →
      ∃ s', Execution.performWith x .updateRow inputs s =
          (.ok (Task.rowOutputs ⟨id, d.revision + 1, .object fields⟩), s') ∧
        Wrote x.tenant s ⟨id, d.revision + 1, .object fields⟩ s') ∧
    ∀ patch inputs y, UpdateInputs inputs id (.object patch) → y.tenant = x.tenant →
      ∃ fields s₁ s₂, fields.lookup tableField = (fieldsOf d.body).lookup tableField ∧
        Execution.performWith x .updateRow inputs s =
          (.ok (Task.rowOutputs ⟨id, d.revision + 1, .object fields⟩), s₁) ∧
        Wrote x.tenant s ⟨id, d.revision + 1, .object fields⟩ s₁ ∧
        Execution.performWith y .updateRow inputs s₁ =
          (.ok (Task.rowOutputs ⟨id, d.revision + 2, .object fields⟩), s₂) ∧
        Wrote x.tenant s₁ ⟨id, d.revision + 2, .object fields⟩ s₂ := by
  have hd : d.id = id := id_of_get? hrow
  have hordered : Fields.Ordered (fieldsOf d.body) := (sorted_fieldsOf hsorted).1
  subst hd
  constructor
  · intro fields inputs hbody hinputs
    have hshown : UpdateInputs inputs d.id (.object (fieldsOf (shown d))) := hinputs
    obtain ⟨s', hperform, hwrote⟩ := hshown.performed hid hserved hrow
    have hsame : overwritten d d (fieldsOf (shown d)) = ⟨d.id, d.revision + 1, .object fields⟩ := by
      rw [overwritten, patched_shown hordered, hbody, fieldsOf]
    rw [hsame] at hperform hwrote
    exact ⟨s', hperform, hwrote⟩
  · intro patch inputs y hinputs hy
    have hpatch : Fields.Ordered patch :=
      ((Json.sorted_object_iff.1 hinputs.sorted).2 _ (Fields.mem_of_lookup hinputs.row)).1
    obtain ⟨s₁, hperform, hwrote⟩ := hinputs.performed hid hserved hrow
    have hrow₁ : s₁.store.get? y.tenant d.id = some (overwritten d d patch) := by
      rw [hy]
      exact hwrote.document
    obtain ⟨s₂, hagain, hwrote₂⟩ := hinputs.performed hid (hwrote.served hserved) hrow₁
    have htwice : overwritten (overwritten d d patch) (overwritten d d patch) patch =
        ⟨d.id, d.revision + 2, .object (patched (fieldsOf d.body) patch)⟩ :=
      congrArg (fun fields => (⟨d.id, d.revision + 2, .object fields⟩ : Document))
        (patched_patched hordered hpatch)
    rw [htwice] at hagain hwrote₂
    rw [hy] at hwrote₂
    refine ⟨_, s₁, s₂, ?_, hperform, hwrote, hagain, hwrote₂⟩
    rw [lookup_patched hpatch]
    rfl

end

/-- A row whose own fields have the names under which its id and its revision are shown. It is
updated with itself, and twice with a patch that would move it to another table. -/
theorem update_harmless_names :
    let body : Json :=
      .object [("_id", .int 7), ("_rev", .string "x"), ("a", .int 1), ("table_id", .string "t")]
    let s : Services :=
      { clock := default, store := ⟨PerTenant.empty.set ⟨"t"⟩ [("ro_t_1", ⟨3, body⟩)]⟩ }
    let x : Task.Setting := ⟨⟨"t"⟩, default, {}, 0, none⟩
    let itself : Resolver.ResolvedInputs :=
      ⟨[("row", shown ⟨"ro_t_1", 3, body⟩), ("row_id", .string "ro_t_1")], []⟩
    let moved : Resolver.ResolvedInputs :=
      ⟨[("row", .object [("a", .int 2), ("table_id", .string "u")]), ("row_id", .string "ro_t_1")],
        []⟩
    (∃ s', Execution.performWith x .updateRow itself s =
        (.ok (Task.rowOutputs ⟨"ro_t_1", 4, body⟩), s') ∧
        s'.store.get? ⟨"t"⟩ "ro_t_1" = some ⟨"ro_t_1", 4, body⟩) ∧
      ∃ fields s₁ s₂, fields.lookup "table_id" = some (.string "t") ∧
        Execution.performWith x .updateRow moved s =
          (.ok (Task.rowOutputs ⟨"ro_t_1", 4, .object fields⟩), s₁) ∧
        Execution.performWith x .updateRow moved s₁ =
          (.ok (Task.rowOutputs ⟨"ro_t_1", 5, .object fields⟩), s₂) ∧
        s₂.store.get? ⟨"t"⟩ "ro_t_1" = some ⟨"ro_t_1", 5, .object fields⟩ := by
  intro body s x itself moved
  have hbody : body.Sorted := by
    simp [body, Json.Sorted, Json.SortedFields, Fields.Ordered, Text.before, Text.charsBefore,
      Json.int]
  have hitself : UpdateInputs itself "ro_t_1" (shown ⟨"ro_t_1", 3, body⟩) := by
    refine ⟨?_, fun _ _ => rfl, rfl, rfl⟩
    simp [itself, body, shown, fieldsOf, Fields.insert, Json.Sorted, Json.SortedFields,
      Fields.Ordered, Text.before, Text.charsBefore, Json.int]
  have hmoved : UpdateInputs moved "ro_t_1"
      (.object [("a", .int 2), ("table_id", .string "u")]) := by
    refine ⟨?_, fun _ _ => rfl, rfl, rfl⟩
    simp [moved, Json.Sorted, Json.SortedFields, Fields.Ordered, Text.before, Text.charsBefore,
      Json.int]
  have hid : isId "ro_t_1" = true := by decide +kernel
  have hrow : s.store.get? x.tenant "ro_t_1" = some ⟨"ro_t_1", 3, body⟩ := rfl
  obtain ⟨hshown, hpatch⟩ := update_harmless hid ⟨rfl, rfl⟩ hrow hbody
  obtain ⟨s', hperform, hwrote⟩ := hshown _ itself rfl hitself
  obtain ⟨fields, s₁, s₂, htable, hfirst, -, hsecond, hwrote₂⟩ := hpatch _ moved x hmoved rfl
  exact ⟨⟨s', hperform, hwrote.document⟩, fields, s₁, s₂, htable, hfirst, hsecond,
    hwrote₂.document⟩

end Row

end Automation
