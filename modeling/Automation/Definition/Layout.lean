import Automation.Definition.Basic
/-!
# The layout of definitions

Definitions are written as records with their fields in a fixed order and read from such records.
Fields without a value are left out. `Definition.toTree` and `Definition.ofTree` go from definitions
to trees and back.
-/

namespace Automation

open Text

/-- The tree of ordered entries. -/
def Tree.ofEntries (entries : List (String × Json)) : Tree :=
  .mapping (entries.map fun (name, value) => (name, Tree.ofJson value))

/-- The entry of a value that may be absent. -/
def Tree.entry? {α : Type} (name : String) (encode : α → Tree) : Option α → List (String × Tree)
  | some a => [(name, encode a)]
  | none => []

/-- The tree of a whole number. -/
def Tree.ofNat (n : Nat) : Tree :=
  .number (.int n)

/-- A whole number of 32 bits. -/
def Tree.asWord32 (t : Tree) : Except DecodeFault Nat :=
  t.asWord maxWord32 "u32"

/-- A whole number of 64 bits. -/
def Tree.asWord64 (t : Tree) : Except DecodeFault Nat :=
  t.asWord maxWord64 "u64"

namespace Trigger

/-- The tree of a trigger. -/
def toTree (t : Trigger) : Tree :=
  .mapping <|
    ("event", .string t.event.wireName) ::
      (if t.filter.list.isEmpty then [] else [("filter", Tree.ofEntries t.filter.list)])

/-- The trigger that a tree stands for. -/
def ofTree (t : Tree) : Except DecodeFault Trigger := do
  let r ← t.record "TriggerSpec"
    [.required "event" TriggerEvent.ofTree, .optional_ "filter" (Tree.asOrdered Tree.asJson)]
  return {
    event := ← r.get "event" TriggerEvent.ofTree
    filter := ← r.getD "filter" (Tree.asOrdered Tree.asJson) ∅ }

end Trigger

namespace Loop

/-- The tree of a loop. -/
def toTree (l : Loop) : Tree :=
  .mapping <|
    ("input", Tree.ofJson l.input) ::
      (Tree.entry? "separator" .string l.separator ++
        Tree.entry? "max_iterations" Tree.ofNat l.maxIterations ++
        Tree.entry? "failure_condition" .string l.failureCondition)

/-- The loop that a tree stands for. -/
def ofTree (t : Tree) : Except DecodeFault Loop := do
  let r ← t.record "LoopSpec"
    [.required "input" Tree.asJson, .optional_ "separator" (Tree.asOption Tree.asString),
      .optional_ "max_iterations" (Tree.asOption Tree.asWord32),
      .optional_ "failure_condition" (Tree.asOption Tree.asString)]
  return {
    input := ← r.get "input" Tree.asJson
    separator := ← r.get? "separator" Tree.asString
    maxIterations := ← r.get? "max_iterations" Tree.asWord32
    failureCondition := ← r.get? "failure_condition" Tree.asString }

end Loop

namespace Step

/-- The tree of a step. -/
def toTree (s : Step) : Tree :=
  .mapping <|
    [("id", .string s.id), ("step_id", .string s.kind.wireName),
      ("inputs", Tree.ofEntries s.inputs.list)] ++
      (Tree.entry? "loop" Loop.toTree s.loop ++
        Tree.entry? "halt_on_failure" .bool s.haltOnFailure)

/-- The step that a tree stands for. -/
def ofTree (t : Tree) : Except DecodeFault Step := do
  let r ← t.record "StepSpec"
    [.required "id" Tree.asString, .required "step_id" StepKind.ofTree,
      .optional_ "inputs" (Tree.asOrdered Tree.asJson),
      .optional_ "loop" (Tree.asOption Loop.ofTree),
      .optional_ "halt_on_failure" (Tree.asOption Tree.asBool)]
  return {
    id := ← r.get "id" Tree.asString
    kind := ← r.get "step_id" StepKind.ofTree
    inputs := ← r.getD "inputs" (Tree.asOrdered Tree.asJson) ∅
    loop := ← r.get? "loop" Loop.ofTree
    haltOnFailure := ← r.get? "halt_on_failure" Tree.asBool }

end Step

/-- The tenant that a tree names. -/
def Tenant.ofTree (t : Tree) : Except DecodeFault Tenant :=
  Tenant.mk <$> t.asString

namespace Definition

/-- The tree of a definition. -/
def toTree (d : Definition) : Tree :=
  .mapping <|
    [("id", .string d.id), ("tenant_id", .string d.tenant.name)] ++
      (Tree.entry? "name" .string d.name ++
        [("trigger", d.trigger.toTree), ("steps", .sequence true (d.steps.map Step.toTree))])

/-- The definition that a tree stands for. -/
def ofTree (t : Tree) : Except DecodeFault Definition := do
  let r ← t.record "AutomationDefinition"
    [.required "id" Tree.asString, .required "tenant_id" Tenant.ofTree,
      .optional_ "name" (Tree.asOption Tree.asString), .required "trigger" Trigger.ofTree,
      .optional_ "steps" (Tree.asList Step.ofTree)]
  return {
    id := ← r.get "id" Tree.asString
    tenant := ← r.get "tenant_id" Tenant.ofTree
    name := ← r.get? "name" Tree.asString
    trigger := ← r.get "trigger" Trigger.ofTree
    steps := ← r.getD "steps" (Tree.asList Step.ofTree) [] }

end Definition

end Automation
