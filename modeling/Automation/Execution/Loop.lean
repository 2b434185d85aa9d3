import Automation.Definition.Check
import Automation.Execution.Once
import Automation.Text.Search
/-!
# Loops

A loop executes its step once for each item of a collection, in order. Each iteration sees its
frame: the item, its index, and the outputs so far. The loop ends early when an iteration fails,
when the failure condition is true or cannot be evaluated, or when there have been as many
iterations as are allowed, which is no failure. What was gathered until then is part of the outputs.
-/

namespace Automation

open Text

/-- How a loop has ended: the outputs of its iterations, whether it has succeeded, and why its
condition could not be evaluated, if that ended it. -/
structure LoopEnd where
  items : List Json
  success : Bool
  conditionFault : Option BindingFault := none
  deriving Inhabited

namespace LoopEnd

/-- The wording of a condition that cannot be evaluated. -/
def conditionMessage (fault : BindingFault) : String :=
  "loop failure condition could not be evaluated: " ++ fault.message

/-- The outputs of a loop. -/
def outputs (e : LoopEnd) : Json :=
  .object <|
    (match e.conditionFault with
      | some fault => [("error", .string (conditionMessage fault))]
      | none => []) ++
      [("items", .array e.items), ("iterations", .int e.items.length),
        (Outputs.flag, .bool e.success)]

end LoopEnd

namespace Execution

/-- The items of a text: its pieces between separators, trimmed, empty ones left out. An empty
separator separates nothing. -/
def textItems (separator text : String) : List String :=
  let texts :=
    if separator.isEmpty then [text.toList] else pieces separator.toList text.toList
  ((texts.map trim).filter (!·.isEmpty)).map String.ofList

/-- The items of a collection: those of an array or of a text. -/
def collectionItems (collection : Json) (separator : String) : Except StepFault (List Json) :=
  match collection with
  | .array items => .ok items
  | .string text => .ok ((textItems separator text).map .string)
  | v => .error (.invalidLoopInput v.kindName)

/-- The collection of a loop. If the input is a single expression, that has to be resolved. -/
def loopCollection (r : Resolver) (context : Context) (input : Json) : Except StepFault Json :=
  match input.asString?.bind Template.single? with
  | some expression =>
    (r.resolve context expression).mapError (.unresolvedInput "loop.input")
  | none => .ok (r.resolveValue context input)

/-- The time that the condition of a loop takes. -/
def conditionTime (r : Resolver) (context : Context) (condition : String) : Nat :=
  let expression := Condition.normalize condition
  if Template.isScript expression then r.time context expression else 0

/-- A loop that is running: its step, its condition, and how many iterations it may have. -/
structure LoopPlan where
  step : Step
  condition : Option String
  limit : Nat

/-- Executes the step for the items that are left, the first of which has number `index`; `done` are
the outputs of the iterations before. -/
def iterate (c : Config) (tenant : Tenant) (plan : LoopPlan) :
    Nat → List Json → List Json → Progress → LoopEnd × Progress
  | _, done, [], p => (⟨done, true, none⟩, p)
  | index, done, item :: rest, p =>
    if plan.limit ≤ index then (⟨done, true, none⟩, p)
    else
      let p := p.withFrame (some ⟨item, index, done, .null⟩)
      let (result, s) := once c tenant plan.step p.context p.services
      let p := p.withServices s
      let output := Outputs.ofResult result
      let done := done ++ [output]
      if !Outputs.succeeded output then (⟨done, false, none⟩, p)
      else
        match plan.condition with
        | none => iterate c tenant plan (index + 1) done rest p
        | some condition =>
          let p := p.withFrame (some ⟨item, index, done, output⟩)
          let verdict := c.resolver.condition p.context condition
          let p := p.elapse (conditionTime c.resolver p.context condition)
          match verdict with
          | .ok true => (⟨done, false, none⟩, p)
          | .ok false => iterate c tenant plan (index + 1) done rest p
          | .error fault => (⟨done, false, some fault⟩, p)

/-- The items that a loop is over. -/
def loopItems (c : Config) (context : Context) (loop : Loop) : Except StepFault (List Json) := do
  let collection ← loopCollection c.resolver context loop.input
  collectionItems collection (loop.separator.getD c.loopSeparator)

/-- Executes a step in a loop. Afterwards the context is outside of all loops. -/
def looped (c : Config) (tenant : Tenant) (step : Step) (loop : Loop) (p : Progress) :
    Except StepFault Json × Progress :=
  let items := loopItems c p.context loop
  let p := p.elapse (c.resolver.timeOf p.context loop.input)
  match items with
  | .error fault => (.error fault, p)
  | .ok items =>
    let plan := ⟨step, loop.condition?, c.iterations loop.maxIterations⟩
    let (finish, p) := iterate c tenant plan 0 [] items p
    (.ok finish.outputs, p.withFrame none)

end Execution

end Automation
