import Automation.Proofs.Template.Spliced

/-!
# The failures in a value

Resolving a value gathers the faults of all expressions that are evaluated in it, wherever they are,
in the order in which they are evaluated (`Resolver.failures_resolveAt`). All of them belong to the
field that is resolved. The value that comes of it does not depend on the field nor on the place
(`Resolver.value_resolveAt`).
-/

namespace Automation.Resolver

variable (r : Resolver) (ctx : Context)

/-- The faults of the expressions that are evaluated in a value, in order. -/
def faultsIn (v : Json) : List BindingFault :=
  v.evaluated.filterMap (r.fault? ctx)

/-! ## Faults in order -/

/-- The faults of pieces are those of their expressions. -/
theorem join_faults (pieces : List Template.Piece) :
    (r.join ctx pieces).2 =
      (pieces.filterMap Template.Piece.evaluated?).filterMap (r.fault? ctx) := by
  induction pieces with
  | nil => rfl
  | cons piece rest ih =>
    cases piece with
    | literal cs =>
      rw [join]
      exact ih
    | expression cs =>
      have hpiece : Template.Piece.evaluated? (.expression cs) = some (String.ofList cs) := rfl
      rw [join, List.filterMap_cons_some hpiece]
      cases hresult : r.resolve ctx (String.ofList cs) with
      | ok v =>
        rw [List.filterMap_cons_none (by rw [fault?, hresult])]
        exact ih
      | error fault =>
        rw [List.filterMap_cons_some (by rw [fault?, hresult]), ← ih]

/-- The faults in a text are those of its expressions, in order. -/
theorem resolveText_faults (s : String) :
    (r.resolveText ctx s).2 = (Template.evaluated s).filterMap (r.fault? ctx) := by
  unfold resolveText Template.evaluated
  cases Template.single? s with
  | none =>
    dsimp only
    rw [splice_eq]
    exact r.join_faults ctx _
  | some e =>
    dsimp only
    cases hresult : r.resolve ctx e with
    | ok v =>
      rw [List.filterMap_cons_none (by rw [fault?, hresult])]
      rfl
    | error fault =>
      rw [List.filterMap_cons_some (by rw [fault?, hresult])]
      rfl

mutual

/-- The failures in a value are the faults of its expressions, each under the field that is
resolved. -/
theorem failures_resolveAt (field path : String) : ∀ v : Json,
    (r.resolveAt ctx field path v).2.map (fun failure => (failure.field, failure.fault)) =
      (r.faultsIn ctx v).map (field, ·)
  | .string s => by
    rw [faultsIn, Json.evaluated, ← resolveText_faults, resolveAt, List.map_map]
    rfl
  | .array items => by
    rw [faultsIn, Json.evaluated, resolveAt]
    exact failures_resolveItems field path 0 items
  | .object fields => by
    rw [faultsIn, Json.evaluated, resolveAt]
    exact failures_resolveFields field path fields
  | .null | .bool _ | .number _ => rfl

/-- The failures in items are the faults of their expressions, in order. -/
theorem failures_resolveItems (field path : String) (index : Nat) : ∀ items : List Json,
    (r.resolveItems ctx field path index items).2.map
        (fun failure => (failure.field, failure.fault)) =
      ((Json.evaluatedItems items).filterMap (r.fault? ctx)).map (field, ·)
  | [] => rfl
  | item :: rest => by
    rw [resolveItems, Json.evaluatedItems, List.filterMap_append, List.map_append, List.map_append,
      failures_resolveAt field _ item, failures_resolveItems field path (index + 1) rest, faultsIn]

/-- The failures in fields are the faults of their expressions, in order. -/
theorem failures_resolveFields (field path : String) : ∀ fields : List (String × Json),
    (r.resolveFields ctx field path fields).2.map
        (fun failure => (failure.field, failure.fault)) =
      ((Json.evaluatedFields fields).filterMap (r.fault? ctx)).map (field, ·)
  | [] => rfl
  | (name, value) :: rest => by
    rw [resolveFields, Json.evaluatedFields, List.filterMap_append, List.map_append,
      List.map_append, failures_resolveAt field _ value, failures_resolveFields field path rest,
      faultsIn]

end

/-- All failures in a value belong to the field that is resolved. -/
theorem field_of_mem_failures {field path : String} {v : Json} {failure : ResolutionFailure}
    (h : failure ∈ (r.resolveAt ctx field path v).2) : failure.field = field := by
  have hmem := List.mem_map_of_mem (f := fun failure => (failure.field, failure.fault)) h
  rw [failures_resolveAt] at hmem
  obtain ⟨fault, -, hfault⟩ := List.mem_map.1 hmem
  exact (congrArg Prod.fst hfault).symm

/-- The faults in a value do not depend on its place. -/
theorem faults_resolveAt (field path : String) (v : Json) :
    (r.resolveAt ctx field path v).2.map (·.fault) = r.faultsIn ctx v := by
  have hpairs := congrArg (List.map Prod.snd) (r.failures_resolveAt ctx field path v)
  rw [List.map_map, List.map_map] at hpairs
  exact hpairs.trans (List.map_id _)

/-! ## Values -/

mutual

/-- The value of a value is the same for all fields and places. -/
theorem value_resolveAt_congr (field path field' path' : String) : ∀ v : Json,
    (r.resolveAt ctx field path v).1 = (r.resolveAt ctx field' path' v).1
  | .string s => rfl
  | .array items => by
    rw [resolveAt, resolveAt]
    exact congrArg Json.array (values_resolveItems field path field' path' 0 items)
  | .object fields => by
    rw [resolveAt, resolveAt]
    exact congrArg Json.object (values_resolveFields field path field' path' fields)
  | .null | .bool _ | .number _ => rfl

/-- The values of items do not depend on their place. -/
theorem values_resolveItems (field path field' path' : String) (index : Nat) :
    ∀ items : List Json, (r.resolveItems ctx field path index items).1 =
      (r.resolveItems ctx field' path' index items).1
  | [] => rfl
  | item :: rest => by
    rw [resolveItems, resolveItems]
    dsimp only
    rw [values_resolveItems field path field' path' (index + 1) rest,
      value_resolveAt_congr field _ field' (Template.itemPath path' index) item]

/-- The values of fields do not depend on their place. -/
theorem values_resolveFields (field path field' path' : String) :
    ∀ fields : List (String × Json), (r.resolveFields ctx field path fields).1 =
      (r.resolveFields ctx field' path' fields).1
  | [] => rfl
  | (name, value) :: rest => by
    rw [resolveFields, resolveFields]
    dsimp only
    rw [values_resolveFields field path field' path' rest,
      value_resolveAt_congr field _ field' (nestedPath path' name) value]

end

/-- The value of a value does not depend on its place. -/
theorem value_resolveAt (field path : String) (v : Json) :
    (r.resolveAt ctx field path v).1 = r.resolveValue ctx v :=
  r.value_resolveAt_congr ctx field path "" "" v

end Automation.Resolver
