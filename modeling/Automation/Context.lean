import Automation.Fields
import Automation.Json.Basic
import Automation.Path
import Automation.Tenant
/-!
# Run contexts

The context of a run holds what its expressions may look at: the trigger's payload, the environment
of the tenant, the outputs of the steps that have finished and, inside a loop, the frame of the
iteration. `Context.step?` finds outputs by name or by position, `Context.lookup?` follows a path,
and `Context.toJson` is the view that scripts get.
-/

namespace Automation

open Text

/-- The iteration of a loop: the item it is about, its index, the outputs of the iterations so far
and the output of the latest. -/
structure LoopFrame where
  currentItem : Json
  index : Nat
  items : List Json
  output : Json
  deriving Inhabited

/-- The frame as a value. -/
def LoopFrame.toJson (f : LoopFrame) : Json :=
  .object [("currentItem", f.currentItem), ("index", .int f.index), ("items", .array f.items),
    ("output", f.output)]

/-- What the expressions of a run may look at. Outputs are in the order of the steps. -/
structure Context where
  tenant : Tenant
  trigger : Json
  environment : List (String × String) := []
  outputs : List (String × Json) := []
  frame : Option LoopFrame := none
  deriving Inhabited

namespace Context

/-- The outputs of a step, by its name or else by its position, counted from one. -/
def step? (ctx : Context) (reference : String) : Option Json :=
  match ctx.outputs.lookup reference with
  | some outputs => some outputs
  | none =>
    match Path.index? reference with
    | some (n + 1) => ctx.outputs[n]?.map (·.2)
    | _ => none

/-- The context after a step has finished; nothing if the step has outputs already. -/
def record? (ctx : Context) (step : String) (outputs : Json) : Option Context :=
  if (ctx.outputs.lookup step).isSome then none
  else some { ctx with outputs := ctx.outputs ++ [(step, outputs)] }

/-- The context inside an iteration, or outside of all loops. -/
def withFrame (ctx : Context) (frame : Option LoopFrame) : Context :=
  { ctx with frame := frame }

/-- The steps under their names and, where no step has such a name, under their positions. -/
def stepFields : Nat → List (String × Json) → List (String × Json) → List (String × Json)
  | _, [], fields => fields
  | position, (name, outputs) :: rest, fields =>
    stepFields (position + 1) rest
      (Fields.insertNew (String.ofList (digits position)) outputs
        (Fields.insert name outputs fields))

/-- The whole context as a value. -/
def toJson (ctx : Context) : Json :=
  .object
    [("env", .object (Fields.ofList (ctx.environment.map fun (k, v) => (k, .string v)))),
      ("loop", (ctx.frame.map LoopFrame.toJson).getD .null),
      ("steps", .object (stepFields 1 ctx.outputs [])),
      ("tenantId", .string ctx.tenant.name),
      ("trigger", ctx.trigger)]

/-- The path inside a step's outputs: a leading `output` is skipped unless the outputs have such a
field. -/
def outputPath (outputs : Json) : List String → List String
  | "output" :: rest => if (outputs.field? "output").isSome then "output" :: rest else rest
  | path => path

/-- The value at the end of a path of segments, the first of which names the root. -/
def lookupSegments? (ctx : Context) : List String → Option Json
  | "trigger" :: rest => Path.follow? ctx.trigger rest
  | ["env", name] => (ctx.environment.lookup name).map .string
  | "steps" :: reference :: path =>
    (ctx.step? reference).bind fun outputs => Path.follow? outputs (outputPath outputs path)
  | "loop" :: rest => ctx.frame.bind fun frame => Path.follow? frame.toJson rest
  | _ => none

/-- The value that a path leads to. -/
def lookup? (ctx : Context) (path : String) : Option Json :=
  ctx.lookupSegments? (Path.segments (trim path.toList))

end Context

end Automation
