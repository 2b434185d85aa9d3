import Automation.Execution.Step
/-!
# Running automations

A run is admitted if its tenant owns the definition, the payload of the trigger is an object, the
quota allows it and the definition passes its check. An admitted run executes the steps in order and
records the outputs of each before the next one starts. A failed step stops the run only if it halts
it. `Runner.execute` is a whole run, from admission to the events, the count and the log at its end;
one that a fault ends is reported with the fault.
-/

namespace Automation

open Text

/-- A run that a fault has ended, as far as it had come. -/
structure RunFault where
  fault : EngineFault
  run : RunResult
  deriving Repr

/-- The wording of an aborted run. -/
def RunFault.message (f : RunFault) : String :=
  "run " ++ f.run.runId ++ " aborted by engine fault: " ++ f.fault.message

/-- What all runs have in common: the kinds that may be used, the configuration, and the environment
of each tenant. -/
structure Runner where
  registry : Registry := .all
  config : Config := {}
  environments : PerTenant (List (String × String)) := .empty
  deriving Inhabited

namespace RunResult

/-- The run in another state, if it may go there. -/
def become (r : RunResult) (next : RunStatus) : Except EngineFault RunResult :=
  if r.status.mayBecome next then .ok { r with status := next }
  else .error (.illegalTransition r.status next)

/-- An event of the run. -/
def event (r : RunResult) (kind : EventKind) (now : Moment) : Event where
  kind := kind
  tenant := r.tenant
  automation := r.automation
  runId := r.runId
  timestamp := now

/-- The id of the run's log in the store. -/
def logId (r : RunResult) : String :=
  "log_" ++ r.automation ++ "_" ++ r.runId

/-- The run as a value. -/
def toJson (r : RunResult) : Json :=
  r.toTree.toJson?.getD .null

end RunResult

namespace Runner

/-- What a run comes to, and the services afterwards. -/
abbrev Finished := Except RunFault RunResult × Services

/-- The payload of a trigger as an object; null stands for an empty one. -/
def payload? : Json → Option Json
  | .null => some (.object [])
  | .object fields => some (.object fields)
  | _ => none

/-- A run that has not been admitted yet. -/
def pendingRun (d : Definition) (tenant : Tenant) (trigger : Json) (runId : String)
    (now : Moment) : RunResult where
  runId := runId
  automation := d.id
  tenant := tenant
  status := .pending
  trigger := trigger
  startedAt := now
  finishedAt := now

/-- Ends a run that a fault keeps from being admitted. -/
def refuse (run : RunResult) (fault : EngineFault) (s : Services) : Finished :=
  (.error ⟨fault, { run with status := .failed, error := some fault.message, finishedAt := s.now }⟩,
    s)

/-- Ends a run that is not admitted for a reason, and publishes that. -/
def reject (run : RunResult) (reason : String) (s : Services) : Finished :=
  match run.become .failed with
  | .error fault => refuse run fault s
  | .ok run =>
    let s := s.publish
      ((run.event .runRejected s.now).withProperty "reason" (.string reason))
    (.ok { run with error := some reason, finishedAt := s.now }, s)

/-- The reason for rejecting a run that the quota does not allow. -/
def quotaReason (tenant : Tenant) : String :=
  "quota exceeded for tenant " ++ tenant.name ++ " on AUTOMATION_RUNS"

/-- The reason for rejecting a run if the quota cannot be asked. -/
def quotaFaultReason (fault : QuotaFault) : String :=
  "quota pre-check failed: " ++ fault.message

/-- The reason why the quota does not admit a run, if it does not. -/
def quotaObjection? (tenant : Tenant) (s : Services) : Option String :=
  match s.checkQuota tenant with
  | .ok true => none
  | .ok false => some (quotaReason tenant)
  | .error fault => some (quotaFaultReason fault)

/-- The event of a step that has been executed. -/
def stepEvent (run : RunResult) (position : Nat) (result : StepResult) (millis : Int)
    (now : Moment) : Event :=
  (run.event .stepCompleted now)
    |>.withProperty "step" (.string result.id)
    |>.withProperty "step_id" (.string result.kind.wireName)
    |>.withProperty "position" (.int position)
    |>.withProperty "status" (.string result.status.wireName)
    |>.withProperty "internal" (.bool result.kind.descriptor.isInternal)
    |>.withProperty "duration_ms" (.int millis)

/-- The error of a run that a step has halted. -/
def haltMessage (step : String) : String :=
  "step '" ++ step ++ "' failed and halted the run"

/-- A failure of the step halts the run. -/
def halts (step : Step) : Bool :=
  step.haltOnFailure.getD step.kind.descriptor.haltsOnFailure

/-- How far a run has come. -/
structure Course where
  run : RunResult
  progress : Progress
  deriving Inhabited

/-- Executes the step at a position, records its outputs and publishes its event. -/
def runStep (r : Runner) (position : Nat) (step : Step) (c : Course) :
    Except EngineFault StepStatus × Course :=
  if !r.registry.includes step.kind then (.error (.unregistered step.kind), c)
  else
    let (outcome, p) := Execution.step r.config c.run.tenant step c.progress
    match p.context.record? step.id outcome.outputs with
    | none => (.error (.repeatedOutputs step.id), { c with progress := p })
    | some context =>
      let result := outcome.result (halts step)
      let s := p.services
      let s := s.publish (stepEvent c.run position result outcome.millis s.now)
      (.ok result.status, ⟨{ c.run with steps := c.run.steps ++ [result] }, ⟨context, s⟩⟩)

/-- Executes steps, the first of which has a position, until one of them stops the run. -/
def runSteps (r : Runner) : Nat → List Step → Course → Except EngineFault RunStatus × Course
  | _, [], c => (.ok .success, c)
  | position, step :: rest, c =>
    match r.runStep position step c with
    | (.error fault, c) => (.error fault, c)
    | (.ok .stopped, c) =>
      (.ok .stopped, { c with run := { c.run with error := some (haltMessage step.id) } })
    | (.ok _, c) => runSteps r (position + 1) rest c

/-- The event of a run that is over. -/
def finishEvent (run : RunResult) (now : Moment) : Event :=
  let event := (run.event .runFinished now)
    |>.withProperty "status" (.string run.status.wireName)
    |>.withProperty "steps_completed" (.int run.steps.length)
    |>.withProperty "duration_ms" (.int (run.finishedAt.millisSince run.startedAt))
  match run.error with
  | some error => event.withProperty "error" (.string error)
  | none => event

/-- Writes the log of a run; if that fails, there is none. -/
def persist (run : RunResult) (s : Services) : Services :=
  (s.putDocument run.tenant { id := run.logId, body := run.toJson }).2

/-- What is done at the end of an admitted run: its event, its count and its log. -/
def finish (r : Runner) (run : RunResult) (s : Services) : Services :=
  let s := s.publish (finishEvent run s.now)
  let s := s.countRun run.tenant
  if r.config.persistsRunLogs then persist run s else s

/-- Ends a run with a state or a fault. -/
def conclude (r : Runner) (ending : Except EngineFault RunStatus) (run : RunResult)
    (s : Services) : Finished :=
  let fail (fault : EngineFault) (run : RunResult) : Finished :=
    let run := { run with status := .failed, error := some fault.message, finishedAt := s.now }
    (.error ⟨fault, run⟩, r.finish run s)
  match ending with
  | .error fault => fail fault run
  | .ok status =>
    match run.become status with
    | .error fault => fail fault run
    | .ok run =>
      let run := { run with finishedAt := s.now }
      (.ok run, r.finish run s)

/-- The event of a run that starts. -/
def startEvent (d : Definition) (run : RunResult) (now : Moment) : Event :=
  (run.event .runCreated now)
    |>.withProperty "step_count" (.int d.steps.length)
    |>.withProperty "trigger_event" (.string d.trigger.event.wireName)

/-- The context of a run at its start. -/
def startContext (r : Runner) (run : RunResult) : Context where
  tenant := run.tenant
  trigger := run.trigger
  environment := r.environments.get run.tenant

/-- The course of a run at its start. -/
def startCourse (r : Runner) (d : Definition) (run : RunResult) (s : Services) : Course :=
  ⟨run, r.startContext run, s.publish (startEvent d run s.now)⟩

/-- Runs the steps of an admitted run. -/
def start (r : Runner) (d : Definition) (run : RunResult) (s : Services) : Finished :=
  match run.become .running with
  | .error fault => refuse run fault s
  | .ok run =>
    let (ending, c) := r.runSteps 1 d.steps (r.startCourse d run s)
    r.conclude ending c.run c.progress.services

/-- Runs an automation for a tenant. -/
def execute (r : Runner) (d : Definition) (payload : Json) (tenant : Tenant) (s : Services) :
    Finished :=
  let (runId, s) := s.freshRunId
  let run := pendingRun d tenant payload runId s.now
  if d.tenant ≠ tenant then refuse run (.otherTenant d.id d.tenant tenant) s
  else
    match payload? payload with
    | none => reject run "trigger payload must be a JSON object" s
    | some trigger =>
      let run := { run with trigger := trigger }
      match quotaObjection? tenant s with
      | some reason => reject run reason s
      | none =>
        match d.check r.registry with
        | .error fault => refuse run fault s
        | .ok _ => r.start d run s

end Runner

end Automation
