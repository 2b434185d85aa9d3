import Automation.Proofs.Execution.Requests

/-!
# What the execution of a step leaves alone

The requests of a step may change the store, send webhooks, take time and use suffixes of rows up.
None of them publishes an event or touches the quota: the services before and after a step have the
same books (`Services.SameBooks`), whatever the step is, whether it is looped and how it ends
(`Execution.step_sameBooks`). Nor does a step change the context, but for the frame of a loop, which
is gone at the end (`Execution.step_withFrame`): a context outside of all loops is the same
afterwards (`Execution.step_leaves_context`).
-/

namespace Automation

open Execution

/-- Two states of the services have the same counts of runs, which are in service for the same
requests, and events are dropped in both or in neither. -/
structure Services.SameGates (s t : Services) : Prop where
  dropsEvents : t.dropsEvents = s.dropsEvents
  quota : t.quota = s.quota
  quotaOutages : t.quotaOutages = s.quotaOutages

/-- Two states of the services have the same events and counts of runs. -/
structure Services.SameBooks (s t : Services) : Prop extends s.SameGates t where
  log : t.log = s.log

namespace Services

/-- Services have their own gates. -/
theorem SameGates.refl (s : Services) : SameGates s s :=
  ⟨rfl, rfl, rfl⟩

/-- Gates that are kept twice are kept. -/
theorem SameGates.trans {s t u : Services} (h : SameGates s t) (h' : SameGates t u) :
    SameGates s u :=
  ⟨h'.dropsEvents.trans h.dropsEvents, h'.quota.trans h.quota,
    h'.quotaOutages.trans h.quotaOutages⟩

/-- Services have their own books. -/
theorem SameBooks.refl (s : Services) : SameBooks s s :=
  ⟨.refl s, rfl⟩

/-- Books that are kept twice are kept. -/
theorem SameBooks.trans {s t u : Services} (h : SameBooks s t) (h' : SameBooks t u) :
    SameBooks s u :=
  ⟨h.toSameGates.trans h'.toSameGates, h'.log.trans h.log⟩

/-- Drawing the id of a run opens and closes no gates. -/
theorem freshRunId_sameGates (s : Services) : SameGates s s.freshRunId.2 :=
  ⟨rfl, rfl, rfl⟩

/-- An event that is published leaves the quota alone. -/
theorem publish_sameGates (s : Services) (e : Event) : SameGates s (s.publish e) := by
  unfold publish
  split
  · exact .refl s
  · exact ⟨rfl, rfl, rfl⟩

/-- Writing a document leaves the books alone. -/
theorem putDocument_sameBooks (s : Services) (t : Tenant) (d : Document) :
    SameBooks s (s.putDocument t d).2 := by
  rcases s.putDocument_cases t d with ⟨fault, h⟩ | h
  · rw [h]
    exact .refl s
  · rw [h]
    exact ⟨⟨rfl, rfl, rfl⟩, rfl⟩

/-- Removing a document leaves the books alone. -/
theorem removeDocument_sameBooks (s : Services) (t : Tenant) (id : String) :
    SameBooks s (s.removeDocument t id).2 := by
  rcases s.removeDocument_cases t id with ⟨fault, h⟩ | ⟨d, h⟩
  · rw [h]
    exact .refl s
  · rw [h]
    exact ⟨⟨rfl, rfl, rfl⟩, rfl⟩

/-- No request of a step publishes an event or touches the quota. -/
theorem Request.sameBooks {tenant : Tenant} {s t : Services} (h : Request tenant s t) :
    SameBooks s t := by
  cases h with
  | elapse | suffix | send => exact ⟨⟨rfl, rfl, rfl⟩, rfl⟩
  | put => exact putDocument_sameBooks _ _ _
  | remove => exact removeDocument_sameBooks _ _ _

/-- No request of a step touches the books. -/
theorem keptByRequests_sameBooks (tenant : Tenant) (s : Services) :
    KeptByRequests tenant (SameBooks s) :=
  fun _ _ hrequest hs => hs.trans hrequest.sameBooks

end Services

open Services

namespace Execution

variable (c : Config) (tenant : Tenant)

/-- Executing a step publishes no event and does not touch the quota. -/
theorem step_sameBooks (step : Step) (p : Progress) :
    SameBooks p.services (Execution.step c tenant step p).2.services :=
  step_keeps c tenant (keptByRequests_sameBooks tenant p.services) step (.refl _)

/-! ## The context -/

/-- The frame of a context after a step: a loop over a collection ends outside of all loops, and
every other step leaves the frame that was there. -/
def frameAfter (step : Step) (context : Context) : Option LoopFrame :=
  if step.loop.any fun loop => (loopItems c context loop).isOk then none else context.frame

/-- Outside of all loops there is no frame after a step either. -/
theorem frameAfter_of_none (step : Step) {context : Context} (h : context.frame = none) :
    frameAfter c step context = none := by
  rw [frameAfter, h, ite_self]

/-- A loop over a collection takes its frame out of the context at its end; one that has none ends
before there is a frame. -/
theorem looped_context (step : Step) (loop : Loop) (p : Progress) :
    (looped c tenant step loop p).2.context =
      p.context.withFrame
        (if (loopItems c p.context loop).isOk then none else p.context.frame) := by
  cases hi : loopItems c p.context loop with
  | error fault =>
    rw [looped_of_error c tenant hi]
    rfl
  | ok items =>
    obtain ⟨m, e, -, he⟩ := looped_of_items c tenant step hi
    rw [he]
    rfl

/-- Of a context a step changes no more than the frame. -/
theorem step_withFrame (step : Step) (p : Progress) :
    (Execution.step c tenant step p).2.context =
      p.context.withFrame (frameAfter c step p.context) := by
  rw [step_progress]
  unfold attempt frameAfter
  cases step.loop with
  | none => rfl
  | some loop =>
    rw [Option.any_some]
    exact looped_context c tenant step loop p

/-- A step that is executed outside of all loops leaves the context as it is. -/
theorem step_context (step : Step) (p : Progress) (h : p.context.frame = none) :
    (Execution.step c tenant step p).2.context = p.context := by
  rw [step_withFrame, frameAfter_of_none c step h, Context.withFrame, ← h]

/-- A step changes nothing of the context but the frame: neither the trigger nor the environment nor
the outputs, whatever the step is and however it ends. The frame is gone after a loop over a
collection, and otherwise what it was. So a step that is executed outside of all loops leaves the
context as it is, in every part. -/
theorem step_leaves_context (step : Step) (p : Progress) :
    (Execution.step c tenant step p).2.context =
        p.context.withFrame (frameAfter c step p.context) ∧
      (p.context.frame = none → (Execution.step c tenant step p).2.context = p.context) :=
  ⟨step_withFrame c tenant step p, step_context c tenant step p⟩

/-- A loop that reaches the limit of its iterations, and one whose input is no collection. -/
theorem step_leaves_context_capped :
    let capped : Loop := { input := .array [.int 1, .int 2], maxIterations := some 1 }
    let broken : Loop := { input := .int 1 }
    let inputs : Entries Json :=
      ⟨[("collection", .string "$\x7b\x7b loop.currentItem \x7d\x7d")], by decide⟩
    let step (loop : Loop) : Step := { id := "a", kind := .collect, inputs, loop := some loop }
    let context : Context :=
      { tenant := ⟨"t"⟩, trigger := .object [("n", .int 1)], environment := [("REGION", "eu")],
        outputs := [("b", .object [("success", .bool true)])] }
    let p : Progress := ⟨context, { clock := default }⟩
    context.frame = none ∧ loopItems {} context capped = .ok [.int 1, .int 2] ∧
      loopItems {} context broken = .error (.invalidLoopInput "number") ∧
      (Execution.step {} ⟨"t"⟩ (step capped) p).2.context = context ∧
      (Execution.step {} ⟨"t"⟩ (step broken) p).2.context = context := by
  intro capped broken inputs step context p
  exact ⟨rfl, rfl, rfl, (step_leaves_context {} ⟨"t"⟩ (step capped) p).2 rfl,
    (step_leaves_context {} ⟨"t"⟩ (step broken) p).2 rfl⟩

end Execution

end Automation
