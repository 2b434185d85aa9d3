import Automation.Proofs.Execution.Requests

/-!
# What a failed step leaves

A step that fails has not written anything. Of all that a task does only a single request changes
the store, and what the task gives back then is decided by that request: it fails, and then it has
done nothing (`Services.putDocument_cases`, `Services.removeDocument_cases`), or the task succeeds
(`Task.perform_writes`). Everything that can fail besides, the resolving and decoding of inputs, the
search for the row, scripts, webhooks and the clock, comes before that request or in a task that
makes none. So a failed execution leaves all documents of all tenants as they were, for whatever
reason it fails (`Execution.once_failed`).
-/

namespace Automation

open Services

namespace Task

/-- Only by succeeding has a task changed the store. -/
def WritesBySuccess (s : Services) (done : Performed) : Prop :=
  done.2.store = s.store ∨ ∃ outputs, done.1 = .ok outputs

variable {s earlier : Services}

/-- What leaves the store as it is may come before. -/
theorem WritesBySuccess.after {done : Performed} (h : WritesBySuccess s done)
    (hsame : s.store = earlier.store) : WritesBySuccess earlier done := by
  rcases h with hstore | hok
  · exact .inl (hstore.trans hsame)
  · exact .inr hok

/-- A request to write a row's document decides what its step gives back. -/
theorem rowResult_put_writes (t : Tenant) (d : Document) :
    WritesBySuccess s (rowResult (s.putDocument t d)) := by
  rcases s.putDocument_cases t d with ⟨fault, hput⟩ | hput
  · rw [hput]
    exact .inl rfl
  · rw [hput]
    exact .inr ⟨_, rfl⟩

/-- So does a request to remove it. -/
theorem rowResult_remove_writes (t : Tenant) (id : String) :
    WritesBySuccess s (rowResult (s.removeDocument t id)) := by
  rcases s.removeDocument_cases t id with ⟨fault, hremove⟩ | ⟨d, hremove⟩
  · rw [hremove]
    exact .inl rfl
  · rw [hremove]
    exact .inr ⟨_, rfl⟩

variable (x : Setting)

/-- A new row is written after its suffix has been taken, which is no document. -/
theorem performCreate_writes (table : String) (row : RowFields) (s : Services) :
    WritesBySuccess s (performCreate x table row s) :=
  (rowResult_put_writes x.tenant _).after rfl

/-- A row is looked up before it is written, and the task ends there if it is not found. -/
theorem performUpdate_writes (id : String) (patch : RowFields) (s : Services) :
    WritesBySuccess s (performUpdate x id patch s) := by
  unfold performUpdate
  split
  · exact .inl rfl
  · split
    · exact .inl rfl
    · exact .inl rfl
    · exact rowResult_put_writes x.tenant _

/-- A row is removed by a single request. -/
theorem performDelete_writes (id : String) (s : Services) :
    WritesBySuccess s (performDelete x id s) := by
  unfold performDelete
  split
  · exact .inl rfl
  · exact rowResult_remove_writes x.tenant id

/-- Only a task that succeeds changes the store. -/
theorem perform_writes (task : Task) (s : Services) : WritesBySuccess s (perform x task s) := by
  cases task with
  | createRow table row => exact performCreate_writes x table row s
  | updateRow id patch => exact performUpdate_writes x id patch s
  | deleteRow id => exact performDelete_writes x id s
  | _ => exact .inl (perform_quiet x rfl s).sameRows.store

end Task

namespace Execution

variable (c : Config) (tenant : Tenant)

/-- Inputs that cannot be used keep a step from its task. -/
theorem performWith_writes (x : Task.Setting) (kind : StepKind) (inputs : Resolver.ResolvedInputs)
    (s : Services) : Task.WritesBySuccess s (performWith x kind inputs s) := by
  unfold performWith
  split
  · exact .inl rfl
  · split
    · exact .inl rfl
    · exact Task.perform_writes x _ s

/-- Only an execution that succeeds changes the store. -/
theorem once_writes (step : Step) (context : Context) (s : Services) :
    Task.WritesBySuccess s (once c tenant step context s) := by
  unfold once
  dsimp only
  split
  · exact .inl rfl
  · have hwith := performWith_writes (setting c tenant context s.clock.elapsed) step.kind
      (c.stepResolver.resolveInputs context step.inputs)
      (s.elapse (c.stepResolver.timeOfFields context step.inputs))
    rcases hwith with hstore | ⟨outputs, hok⟩
    · exact .inl hstore
    · refine .inr ⟨Outputs.normalize outputs, ?_⟩
      rw [hok]
      rfl

/-- An execution of a step that fails leaves the store as it was, whatever the step is, wherever it
is executed and why it fails: no document of any tenant has been created, changed or removed. -/
theorem once_failed {step : Step} {context : Context} {s : Services} {fault : StepFault}
    (h : (once c tenant step context s).1 = .error fault) :
    (once c tenant step context s).2.store = s.store := by
  rcases once_writes c tenant step context s with hstore | ⟨outputs, hok⟩
  · exact hstore
  · rw [h] at hok
    cases hok

/-- A row of another tenant is not found, and stays as it is. -/
theorem once_failed_foreign :
    let c : Config := {}
    let step : Step :=
      { id := "a", kind := .updateRow,
        inputs := ⟨[("row", .object [("x", .int 1)]), ("row_id", .string "ro_t_1")], by decide⟩ }
    let context : Context := { tenant := ⟨"t"⟩, trigger := .object [] }
    let s : Services :=
      { clock := default
        store := ⟨PerTenant.empty.set ⟨"u"⟩ [("ro_t_1", ⟨1, .object [("x", .null)]⟩)]⟩ }
    (once c ⟨"t"⟩ step context s).1 = .error (.store (.notFound "ro_t_1")) ∧
      (once c ⟨"t"⟩ step context s).2.store = s.store := by
  intro c step context s
  have hfault : (once c ⟨"t"⟩ step context s).1 = .error (.store (.notFound "ro_t_1")) := by
    dsimp only [c, step, context, s]
    rfl
  exact ⟨hfault, once_failed c ⟨"t"⟩ hfault⟩

end Execution

end Automation
