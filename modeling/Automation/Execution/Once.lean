import Automation.Config.Basic
import Automation.Execution.Outputs
import Automation.Step.Catalogue
import Automation.Step.Task
/-!
# One execution of a step

The inputs are resolved, the required ones among them have to be there, and then the step's task is
done. The time for all of this is limited by the configuration.
-/

namespace Automation

/-- What a run has changed: its context and the services. -/
structure Progress where
  context : Context
  services : Services
  deriving Inhabited

namespace Progress

/-- The progress with other services. -/
def withServices (p : Progress) (s : Services) : Progress :=
  { p with services := s }

/-- The progress inside an iteration, or outside of all loops. -/
def withFrame (p : Progress) (frame : Option LoopFrame) : Progress :=
  { p with context := p.context.withFrame frame }

/-- Time passes. -/
def elapse (p : Progress) (millis : Nat) : Progress :=
  p.withServices (p.services.elapse millis)

end Progress

namespace Config

/-- The resolver under the limits for scripts. -/
def resolver (c : Config) : Resolver :=
  ⟨c.scriptLimits, c.scriptMillis⟩

/-- The resolver for the inputs of a step, whose scripts take no longer than the step may. -/
def stepResolver (c : Config) : Resolver :=
  match c.stepMillis with
  | some millis => c.resolver.within millis
  | none => c.resolver

end Config

namespace Execution

/-- Why an input that is required cannot be used: it has a failure, or it is absent or null. -/
def inputFault? (inputs : Resolver.ResolvedInputs) (field : String) : Option StepFault :=
  match inputs.failureFor? field with
  | some failure => some (.unresolvedInput field failure.fault)
  | none =>
    if (inputs.values.lookup field).all Json.isNull then some (.missingInput field) else none

/-- What is wrong with the first of the required inputs that cannot be used. -/
def requiredFault? (kind : StepKind) (inputs : Resolver.ResolvedInputs) : Option StepFault :=
  kind.requiredInputs.findSome? (inputFault? inputs)

/-- What a step's task is done with. -/
def setting (c : Config) (tenant : Tenant) (context : Context) (started : Nat) : Task.Setting :=
  ⟨tenant, context, c.resolver, c.maxDelayMillis,
    c.stepMillis.map fun millis => (started + millis, millis)⟩

/-- Does the task of a step with resolved inputs. -/
def performWith (x : Task.Setting) (kind : StepKind) (inputs : Resolver.ResolvedInputs)
    (s : Services) : Task.Performed :=
  match requiredFault? kind inputs with
  | some fault => (.error fault, s)
  | none =>
    match Task.ofInputs kind inputs.values with
    | .error fault => (.error fault, s)
    | .ok task => task.perform x s

/-- Executes a step once in a context. -/
def once (c : Config) (tenant : Tenant) (step : Step) (context : Context) (s : Services) :
    Task.Performed :=
  let resolver := c.stepResolver
  let inputs := resolver.resolveInputs context step.inputs
  let x := setting c tenant context s.clock.elapsed
  let s := s.elapse (resolver.timeOfFields context step.inputs)
  match x.overdue? s with
  | some fault => (.error fault, s)
  | none =>
    let (result, s) := performWith x step.kind inputs s
    (result.map Outputs.normalize, s)

end Execution

end Automation
