import Mathlib.Data.List.Basic
import Mathlib.Data.List.Flatten
import Automation.Proofs.Execution.Inputs
import Automation.Proofs.Template.Failures

/-!
# The places of failures and references

Two traversals go through the inputs of a step. The check of a definition lists the expressions in
them as references, and resolving them gathers failures. Both go from leaf to leaf, a leaf being a
text with its place (`Json.leaves`): the references of a value are the expressions found in its
leaves (`Template.references_leaves`), and its failures are the faults of its leaves
(`Resolver.failures_leaves`). Only where the place of a value is empty do the two write the places
below it in different ways.

A leaf has no more faults than references (`Resolver.length_faults_le`), although what is evaluated
in it need not be what is found in it. So the places of the failures are among those of the
references, in the same order (`Resolver.failures_places`).
-/

namespace Automation

open Text

/-! ## Leaves -/

namespace Json

/-- A text in a value, and its place. -/
structure Leaf where
  place : String
  text : String
  deriving DecidableEq, Repr

mutual

/-- The texts in a value, in order, if the value stands at some place. -/
def leaves (path : String) : Json → List Leaf
  | .string s => [⟨path, s⟩]
  | .array items => itemLeaves path 0 items
  | .object fields => fieldLeaves path fields
  | _ => []

/-- The texts in the items of an array, counted from `index`. -/
def itemLeaves (path : String) (index : Nat) : List Json → List Leaf
  | [] => []
  | item :: rest => leaves (Template.itemPath path index) item ++ itemLeaves path (index + 1) rest

/-- The texts in the fields of an object. -/
def fieldLeaves (path : String) : List (String × Json) → List Leaf
  | [] => []
  | (name, value) :: rest => leaves (Template.fieldPath path name) value ++ fieldLeaves path rest

end

end Json

namespace Template

/-- The place of an item may be continued from further up. -/
theorem itemPath_append (front path : String) (index : Nat) :
    itemPath (front ++ path) index = front ++ itemPath path index := by
  simp only [itemPath, String.append_assoc]

/-- The place of a field may be continued from further up. -/
theorem fieldPath_append (front path name : String) :
    fieldPath (front ++ path) name = front ++ fieldPath path name := by
  simp only [fieldPath, String.append_assoc]

/-- An item has a place below the top. -/
theorem itemPath_ne {path : String} (h : path ≠ "") (index : Nat) : itemPath path index ≠ "" := by
  simp [itemPath, h]

/-- A field has a place below the top. -/
theorem fieldPath_ne {path : String} (h : path ≠ "") (name : String) :
    fieldPath path name ≠ "" := by
  simp [fieldPath, h]

/-- The references in a leaf, whose place has something in front of it. -/
def leafReferences (front : String) (leaf : Json.Leaf) : List Reference :=
  (expressions leaf.text).map (⟨front ++ leaf.place, ·⟩)

mutual

/-- The references in a value are those in its leaves. -/
theorem references_leaves (front path : String) : ∀ v : Json,
    references (front ++ path) v = (v.leaves path).flatMap (leafReferences front)
  | .string _ => (List.append_nil _).symm
  | .array items => itemReferences_leaves front path 0 items
  | .object fields => fieldReferences_leaves front path fields
  | .null | .bool _ | .number _ => rfl

/-- The references in items are those of their leaves, in order. -/
theorem itemReferences_leaves (front path : String) (index : Nat) : ∀ items : List Json,
    itemReferences (front ++ path) index items =
      (Json.itemLeaves path index items).flatMap (leafReferences front)
  | [] => rfl
  | item :: rest => by
    rw [itemReferences, Json.itemLeaves, List.flatMap_append, itemPath_append,
      references_leaves front _ item, itemReferences_leaves front path (index + 1) rest]

/-- The references in fields are those of their leaves, in order. -/
theorem fieldReferences_leaves (front path : String) : ∀ fields : List (String × Json),
    fieldReferences (front ++ path) fields =
      (Json.fieldLeaves path fields).flatMap (leafReferences front)
  | [] => rfl
  | (name, value) :: rest => by
    rw [fieldReferences, Json.fieldLeaves, List.flatMap_append, fieldPath_append,
      references_leaves front _ value, fieldReferences_leaves front path rest]

end

end Template

namespace Resolver

variable (r : Resolver) (ctx : Context)

/-- The failures in a leaf, under the field that is resolved. -/
def leafFailures (field : String) (leaf : Json.Leaf) : List ResolutionFailure :=
  (r.resolveText ctx leaf.text).2.map (⟨field, leaf.place, ·⟩)

mutual

/-- The failures in a value are those in its leaves, if the value stands at a place that is not
empty. -/
theorem failures_leaves (field path : String) (h : path ≠ "") : ∀ v : Json,
    (r.resolveAt ctx field path v).2 = (v.leaves path).flatMap (r.leafFailures ctx field)
  | .string _ => (List.append_nil _).symm
  | .array items => by
    rw [resolveAt, Json.leaves]
    exact itemFailures_leaves field path h 0 items
  | .object fields => by
    rw [resolveAt, Json.leaves]
    exact fieldFailures_leaves field path h fields
  | .null | .bool _ | .number _ => rfl

/-- The failures in items are those of their leaves, in order. -/
theorem itemFailures_leaves (field path : String) (h : path ≠ "") (index : Nat) :
    ∀ items : List Json, (r.resolveItems ctx field path index items).2 =
      (Json.itemLeaves path index items).flatMap (r.leafFailures ctx field)
  | [] => rfl
  | item :: rest => by
    rw [resolveItems, Json.itemLeaves, List.flatMap_append,
      ← failures_leaves field _ (Template.itemPath_ne h index) item,
      ← itemFailures_leaves field path h (index + 1) rest]

/-- The failures in fields are those of their leaves, in order. -/
theorem fieldFailures_leaves (field path : String) (h : path ≠ "") :
    ∀ fields : List (String × Json), (r.resolveFields ctx field path fields).2 =
      (Json.fieldLeaves path fields).flatMap (r.leafFailures ctx field)
  | [] => rfl
  | (name, value) :: rest => by
    have hnested : nestedPath path name = Template.fieldPath path name :=
      if_neg (by simpa using h)
    rw [resolveFields, hnested, Json.fieldLeaves, List.flatMap_append,
      ← failures_leaves field _ (Template.fieldPath_ne h name) value,
      ← fieldFailures_leaves field path h rest]

end

end Resolver

/-! ## Faults and references -/

/-- Nothing but a script has a fault. -/
theorem Resolver.isScript_of_fault? {r : Resolver} {ctx : Context} {e : String}
    {fault : BindingFault} (h : r.fault? ctx e = some fault) : Template.isScript e = true := by
  rw [Template.isScript]
  cases hscript : Template.scriptLiteral? (trim e.toList) with
  | some literal => rfl
  | none =>
    have hlookup : Binding.ofExpression e = .ok (.lookup (String.ofList (trim e.toList))) := by
      unfold Binding.ofExpression
      dsimp only
      rw [hscript]
    rw [fault?, resolve, hlookup] at h
    cases h

/-- A search finds something in a text that is a template around a script, even if a brace comes
before the closing marker. -/
theorem Template.expressions_ne_nil {s e : String} (hsingle : single? s = some e)
    (hscript : isScript e = true) : expressions s ≠ [] := by
  obtain ⟨inner, hs, hcloser, htrim, hne⟩ := single?_eq_some hsingle
  by_cases hlast : inner.getLast? = some '\x7d'
  · obtain ⟨front, rfl⟩ := List.getLast?_eq_some_iff.1 hlast
    rw [expressions_of_cut ['\x7d'] hs (cut?_overclosed hcloser) (by decide)]
    cases hfront : trim front with
    | cons c cs => exact List.cons_ne_nil _ _
    | nil =>
      -- The expression would be the brace alone.
      obtain ⟨b, d, hb, hd, hblank, -⟩ := exists_around_trim front
      rw [hfront, List.nil_append] at hblank
      have hbrace : Solid ['\x7d'] := solid_of_any (by simp) (by decide)
      have hblanks : Blanks front := hblank ▸ List.forall_mem_append.2 ⟨hb, hd⟩
      rw [trim_after hblanks hbrace] at htrim
      rw [isScript, ← htrim] at hscript
      cases hscript
  · rw [expressions_of_single? hne hs hcloser htrim hlast]
    exact List.cons_ne_nil e []

namespace Resolver

variable (r : Resolver) (ctx : Context)

/-- A text has no more faults than a search finds expressions in it. -/
theorem length_faults_le (s : String) :
    (r.resolveText ctx s).2.length ≤ (Template.expressions s).length := by
  rw [resolveText_faults]
  unfold Template.evaluated
  cases hsingle : Template.single? s with
  | none =>
    -- A search leaves out expressions that are empty, and these have no faults.
    have hempty (e : String) : (if e ≠ "" then r.fault? ctx e else none) = r.fault? ctx e := by
      split
      · rfl
      · next hne =>
        rw [Decidable.not_not.1 hne]
        rfl
    dsimp only
    rw [Template.expressions_eq, ← Template.filter_evaluated]
    generalize (Template.pieces s.toList).filterMap Template.Piece.evaluated? = found
    calc (found.filterMap (r.fault? ctx)).length
        = ((found.filter (· ≠ "")).filterMap (r.fault? ctx)).length := by
          simp [List.filterMap_filter, hempty]
      _ ≤ (found.filter (· ≠ "")).length := List.length_filterMap_le _ _
  | some e =>
    dsimp only
    cases hfault : r.fault? ctx e with
    | none =>
      rw [List.filterMap_cons_none hfault]
      exact Nat.zero_le _
    | some fault =>
      have hfound := Template.expressions_ne_nil hsingle (isScript_of_fault? hfault)
      rw [List.filterMap_cons_some hfault]
      exact List.length_pos_iff.2 hfound

/-- The places of the failures in a leaf are some of those of the references in it. -/
theorem leafFailures_sublist (field front : String) (leaf : Json.Leaf) :
    ((r.leafFailures ctx field leaf).map (front ++ ·.sourcePath)).Sublist
      ((Template.leafReferences front leaf).map (·.sourcePath)) := by
  rw [leafFailures, Template.leafReferences, List.map_map, List.map_map]
  have hfailures : (fun failure : ResolutionFailure => front ++ failure.sourcePath) ∘
      (⟨field, leaf.place, ·⟩) = fun _ => front ++ leaf.place := rfl
  have hreferences : (fun reference : Template.Reference => reference.sourcePath) ∘
      (⟨front ++ leaf.place, ·⟩) = fun _ => front ++ leaf.place := rfl
  rw [hfailures, hreferences, List.map_const', List.map_const',
    List.replicate_sublist_replicate]
  exact r.length_faults_le ctx leaf.text

/-- The places of the failures in a step's inputs, none of which has an empty name, are some of
those of the references in the step, in the same order. The failures are those of the leaves of the
inputs, one after the other, each under the name of the input that its leaf is in. -/
theorem failures_places (s : Step) (h : ∀ input ∈ s.inputs.list, input.1 ≠ "") :
    ((r.resolveInputs ctx s.inputs).failures.map ("inputs." ++ ·.sourcePath)).Sublist
        ((Definition.stepReferences s).map (·.sourcePath)) ∧
      (r.resolveInputs ctx s.inputs).failures =
        s.inputs.list.flatMap fun (field, v) => (v.leaves field).flatMap fun leaf =>
          (r.resolveText ctx leaf.text).2.map (⟨field, leaf.place, ·⟩) := by
  have hleaves : (r.resolveInputs ctx s.inputs).failures =
      s.inputs.list.flatMap fun input => (input.2.leaves input.1).flatMap
        (r.leafFailures ctx input.1) := by
    rw [failures_resolveInputs]
    exact List.flatMap_congr fun input hinput =>
      r.failures_leaves ctx _ _ (h input hinput) input.2
  refine ⟨?_, hleaves⟩
  rw [hleaves, Definition.stepReferences, List.map_append]
  refine List.Sublist.trans ?_ (List.sublist_append_left _ _)
  rw [List.map_flatMap, List.map_flatMap]
  refine List.Sublist.flatMap_right _ fun (field, v) _ => ?_
  dsimp only
  rw [Template.references_leaves, List.map_flatMap, List.map_flatMap]
  exact List.Sublist.flatMap_right _ fun leaf _ => r.leafFailures_sublist ctx _ _ leaf

/-- An array in an object, with two scripts and a lookup in one text, and a script that is closed by
three braces. -/
theorem failures_places_three :
    let text :=
      "$\x7b\x7b script x \x7d\x7d $\x7b\x7b trigger.a \x7d\x7d $\x7b\x7b script y \x7d\x7d"
    let s : Step :=
      { id := "a", kind := .collect
        inputs :=
          ⟨[("slow", .object [("b", .array [.string "c", .string text])]),
            ("plain", .string "$\x7b\x7b script z \x7d\x7d\x7d")], by decide⟩ }
    let ctx : Context := { tenant := ⟨"t"⟩, trigger := .null }
    let r : Resolver := {}
    let failures := (r.resolveInputs ctx s.inputs).failures.map ("inputs." ++ ·.sourcePath)
    let references := (Definition.stepReferences s).map (·.sourcePath)
    (∀ input ∈ s.inputs.list, input.1 ≠ "") ∧
      failures = ["inputs.slow.b[1]", "inputs.slow.b[1]", "inputs.plain"] ∧
      references = ["inputs.slow.b[1]", "inputs.slow.b[1]", "inputs.slow.b[1]", "inputs.plain"] ∧
      failures.Sublist references := by
  intro text s ctx r failures references
  have hnames : ∀ input ∈ s.inputs.list, input.1 ≠ "" := by decide
  have hfailures : failures = ["inputs.slow.b[1]", "inputs.slow.b[1]", "inputs.plain"] := by
    decide +kernel
  have hreferences : references =
      ["inputs.slow.b[1]", "inputs.slow.b[1]", "inputs.slow.b[1]", "inputs.plain"] := by
    decide +kernel
  exact ⟨hnames, hfailures, hreferences, (r.failures_places ctx s hnames).1⟩

/-- Directly below an input without a name, a failure has no dot in its place. -/
example :
    let v : Json := .object [("b", .string "$\x7b\x7b script x \x7d\x7d")]
    let ctx : Context := { tenant := ⟨"t"⟩, trigger := .null }
    (resolveInputs {} ctx [("", v)]).failures.map ("inputs." ++ ·.sourcePath) = ["inputs.b"] ∧
      (Template.references ("inputs." ++ "") v).map (·.sourcePath) = ["inputs..b"] := by
  decide +kernel

end Resolver

end Automation
