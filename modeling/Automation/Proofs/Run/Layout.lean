import Automation.Proofs.Definition.Layout
import Automation.Proofs.Moment.Text
import Automation.Runner

/-!
# Runs as values

The result of a run is well-formed if the objects in it are in order and its moments exist
(`RunResult.WellFormed`). If their years have four digits, it is read back from its tree in any
arrangement (`RunResult.ofTree_arranged`), and so from its value (`RunResult.ofTree_toJson`): its
results are in the same order, with the same outputs, and its moments are the same to the
nanosecond.
-/

namespace Automation

open Text Automation.Tree

/-- The status of a step is read off its name. -/
theorem StepStatus.ofTree_wireName (s : StepStatus) :
    StepStatus.ofTree (.string s.wireName) = .ok s := by
  cases s <;> rfl

/-- The status of a run is read off its name. -/
theorem RunStatus.ofTree_wireName (s : RunStatus) :
    RunStatus.ofTree (.string s.wireName) = .ok s := by
  cases s <;> rfl

/-- A moment is read back from its tree. -/
theorem Moment.asMoment_toTree {m : Moment} (h : m.Exists) (hyear : m.FourDigits) :
    asMoment m.toTree = .ok m := by
  rw [Moment.toTree, asMoment, ofRelaxed_text h hyear]
  rfl

section
variable (A : Tree.Arrangement)

@[simp] theorem Tree.Arrangement.tree_moment (m : Moment) : A.tree m.toTree = m.toTree :=
  A.string _

/-! ## Results of steps -/

/-- The moments in a result. -/
def StepResult.moments (s : StepResult) : List Moment :=
  [s.startedAt, s.finishedAt]

/-- The outputs are in order, and the moments exist. -/
structure StepResult.WellFormed (s : StepResult) : Prop where
  outputs : s.outputs.Sorted
  moments : ∀ m ∈ s.moments, m.Exists

open Record in
/-- The result of a step is read back from its tree in any arrangement. -/
theorem StepResult.ofTree_arranged {s : StepResult} (h : s.WellFormed)
    (hyears : ∀ m ∈ s.moments, m.FourDigits) :
    s.toTree.toJson?.isSome ∧ StepResult.ofTree (A.tree s.toTree) = .ok s := by
  have hmoment : ∀ m ∈ s.moments, asMoment m.toTree = .ok m :=
    fun m hm => Moment.asMoment_toTree (h.moments m hm) (hyears m hm)
  unfold StepResult.toTree
  generalize hentries : [("id", Tree.string s.id), _, _, _] ++ _ = entries
  have husable : ∀ entry ∈ entries, entry.2.toJson?.isSome := by
    rw [← hentries]
    simp only [List.forall_mem_cons, List.forall_mem_append, forall_mem_entry?]
    exact ⟨⟨rfl, rfl, rfl, isSome_toJson?_ofJson _, by simp⟩, fun _ _ => rfl, rfl, rfl, by simp⟩
  have hnames : (entries.map (·.1)).Nodup := by
    have hsub : (entries.map (·.1)).Sublist
        ["id", "step_id", "status", "outputs", "error", "started_at", "finished_at"] := by
      rw [← hentries, List.map_append, List.map_append]
      exact (List.Sublist.refl _).append (names_entry?_sublist.append (List.Sublist.refl _))
    exact List.Nodup.sublist hsub (by decide)
  obtain ⟨fields, hfields, hnodup, hlookup⟩ := A.mapping husable hnames
  have hid : Holds fields "id" asString s.id :=
    ⟨.string s.id, by simp [hlookup, ← hentries], rfl⟩
  have hkind : Holds fields "step_id" StepKind.ofTree s.kind :=
    ⟨.string s.kind.wireName, by simp [hlookup, ← hentries, List.lookup_cons],
      s.kind.ofTree_wireName⟩
  have hstatus : Holds fields "status" StepStatus.ofTree s.status :=
    ⟨.string s.status.wireName, by simp [hlookup, ← hentries, List.lookup_cons],
      s.status.ofTree_wireName⟩
  have houtputs : Holds fields "outputs" asJson s.outputs := by
    refine ⟨ofJson s.outputs, ?_, asJson_ofJson h.outputs⟩
    simp [hlookup, ← hentries, List.lookup_cons, A.value h.outputs]
  have herror : HoldsD fields "error" (asOption asString) none s.error := by
    refine holdsD_of_lookup .string ?_ fun _ _ => rfl
    simp [hlookup, ← hentries, List.lookup_append, List.lookup_cons, lookup_entry?,
      Function.comp_def]
  have hstarted : Holds fields "started_at" asMoment s.startedAt := by
    refine ⟨s.startedAt.toTree, ?_, hmoment _ (by simp [StepResult.moments])⟩
    simp [hlookup, ← hentries, List.lookup_append, List.lookup_cons, lookup_entry?]
  have hfinished : Holds fields "finished_at" asMoment s.finishedAt := by
    refine ⟨s.finishedAt.toTree, ?_, hmoment _ (by simp [StepResult.moments])⟩
    simp [hlookup, ← hentries, List.lookup_append, List.lookup_cons, lookup_entry?]
  obtain ⟨r, hr, hsame⟩ := (Fits.required hid (.required hkind (.required hstatus
    (.required houtputs (.optional herror (.required hstarted (.required hfinished
      .nil))))))).record (by decide) hnodup "StepRunResult"
  refine ⟨by rw [toJson?_mapping husable]; rfl, ?_⟩
  rw [hfields, ofTree, hr]
  dsimp only [bind, Except.bind, Record.get?]
  rw [hid.get (hsame _ (by simp [FieldShape.required])),
    hkind.get (hsame _ (by simp [FieldShape.required])),
    hstatus.get (hsame _ (by simp [FieldShape.required])),
    houtputs.get (hsame _ (by simp [FieldShape.required])),
    herror.getD (hsame _ (by simp [FieldShape.optional_])),
    hstarted.get (hsame _ (by simp [FieldShape.required])),
    hfinished.get (hsame _ (by simp [FieldShape.required]))]
  rfl

/-! ## Results of runs -/

namespace RunResult

/-- The moments in a run and in the results of its steps. -/
def moments (r : RunResult) : List Moment :=
  r.startedAt :: r.finishedAt :: r.steps.flatMap StepResult.moments

/-- The trigger and the outputs of all steps are in order, and the moments exist. -/
structure WellFormed (r : RunResult) : Prop where
  trigger : r.trigger.Sorted
  outputs : ∀ s ∈ r.steps, s.outputs.Sorted
  moments : ∀ m ∈ r.moments, m.Exists

variable {r : RunResult}

/-- The moments of a step are moments of its run. -/
theorem moments_of_step {s : StepResult} (hs : s ∈ r.steps) : ∀ m ∈ s.moments, m ∈ r.moments :=
  fun _ hm => List.mem_cons_of_mem _ (List.mem_cons_of_mem _ (List.mem_flatMap.2 ⟨s, hs, hm⟩))

/-- The steps of a well-formed run are well-formed. -/
theorem WellFormed.step (h : r.WellFormed) {s : StepResult} (hs : s ∈ r.steps) : s.WellFormed :=
  ⟨h.outputs s hs, fun m hm => h.moments m (moments_of_step hs m hm)⟩

open Record in
/-- The result of a run is read back from its tree in any arrangement. -/
theorem ofTree_arranged (h : r.WellFormed) (hyears : ∀ m ∈ r.moments, m.FourDigits) :
    ofTree (A.tree r.toTree) = .ok r := by
  have hstep : ∀ s ∈ r.steps,
      s.toTree.toJson?.isSome ∧ StepResult.ofTree (A.tree s.toTree) = .ok s := fun s hs =>
    StepResult.ofTree_arranged A (h.step hs) fun m hm => hyears m (moments_of_step hs m hm)
  have hitems : ∀ t ∈ r.steps.map StepResult.toTree, t.toJson?.isSome := by
    intro t ht
    obtain ⟨s, hs, rfl⟩ := List.mem_map.1 ht
    exact (hstep s hs).1
  have hmoment : ∀ m ∈ r.moments, asMoment m.toTree = .ok m :=
    fun m hm => Moment.asMoment_toTree (h.moments m hm) (hyears m hm)
  unfold toTree
  generalize hentries : [("run_id", Tree.string r.runId), _, _, _, _, _] ++ _ = entries
  have husable : ∀ entry ∈ entries, entry.2.toJson?.isSome := by
    rw [← hentries]
    simp only [List.forall_mem_cons, List.forall_mem_append, forall_mem_entry?]
    refine ⟨⟨rfl, rfl, rfl, rfl, ?_, isSome_toJson?_ofJson _, by simp⟩, fun _ _ => rfl, rfl, rfl,
      by simp⟩
    rw [toJson?_sequence hitems]
    rfl
  have hnames : (entries.map (·.1)).Nodup := by
    have hsub : (entries.map (·.1)).Sublist ["run_id", "automation_id", "tenant_id", "status",
        "steps", "trigger", "error", "started_at", "finished_at"] := by
      rw [← hentries, List.map_append, List.map_append]
      exact (List.Sublist.refl _).append (names_entry?_sublist.append (List.Sublist.refl _))
    exact List.Nodup.sublist hsub (by decide)
  obtain ⟨fields, hfields, hnodup, hlookup⟩ := A.mapping husable hnames
  have hrunId : Holds fields "run_id" asString r.runId :=
    ⟨.string r.runId, by simp [hlookup, ← hentries], rfl⟩
  have hautomation : Holds fields "automation_id" asString r.automation :=
    ⟨.string r.automation, by simp [hlookup, ← hentries, List.lookup_cons], rfl⟩
  have htenant : Holds fields "tenant_id" Tenant.ofTree r.tenant :=
    ⟨.string r.tenant.name, by simp [hlookup, ← hentries, List.lookup_cons], rfl⟩
  have hstatus : Holds fields "status" RunStatus.ofTree r.status :=
    ⟨.string r.status.wireName, by simp [hlookup, ← hentries, List.lookup_cons],
      r.status.ofTree_wireName⟩
  have hsteps : HoldsD fields "steps" (asList StepResult.ofTree) [] r.steps := by
    have hfound : fields.lookup "steps" =
        some (A.tree (.sequence true (r.steps.map StepResult.toTree))) := by
      simp [hlookup, ← hentries, List.lookup_cons]
    have hread := mapM_eq_ok (f := id) fun s hs => (hstep s hs).2
    rw [List.map_id] at hread
    rw [HoldsD, hfound, A.sequence hitems, List.map_map]
    exact hread
  have htrigger : Holds fields "trigger" asJson r.trigger := by
    refine ⟨ofJson r.trigger, ?_, asJson_ofJson h.trigger⟩
    simp [hlookup, ← hentries, List.lookup_cons, A.value h.trigger]
  have herror : HoldsD fields "error" (asOption asString) none r.error := by
    refine holdsD_of_lookup .string ?_ fun _ _ => rfl
    simp [hlookup, ← hentries, List.lookup_append, List.lookup_cons, lookup_entry?,
      Function.comp_def]
  have hstarted : Holds fields "started_at" asMoment r.startedAt := by
    refine ⟨r.startedAt.toTree, ?_, hmoment _ (by simp [moments])⟩
    simp [hlookup, ← hentries, List.lookup_append, List.lookup_cons, lookup_entry?]
  have hfinished : Holds fields "finished_at" asMoment r.finishedAt := by
    refine ⟨r.finishedAt.toTree, ?_, hmoment _ (by simp [moments])⟩
    simp [hlookup, ← hentries, List.lookup_append, List.lookup_cons, lookup_entry?]
  obtain ⟨record, hrecord, hsame⟩ := (Fits.required hrunId (.required hautomation
    (.required htenant (.required hstatus (.optional hsteps (.required htrigger
      (.optional herror (.required hstarted (.required hfinished .nil))))))))).record
        (by decide) hnodup "RunResult"
  rw [hfields, ofTree, hrecord]
  dsimp only [bind, Except.bind, Record.get?]
  rw [hrunId.get (hsame _ (by simp [FieldShape.required])),
    hautomation.get (hsame _ (by simp [FieldShape.required])),
    htenant.get (hsame _ (by simp [FieldShape.required])),
    hstatus.get (hsame _ (by simp [FieldShape.required])),
    hsteps.getD (hsame _ (by simp [FieldShape.optional_])),
    htrigger.get (hsame _ (by simp [FieldShape.required])),
    herror.getD (hsame _ (by simp [FieldShape.optional_])),
    hstarted.get (hsame _ (by simp [FieldShape.required])),
    hfinished.get (hsame _ (by simp [FieldShape.required]))]
  rfl

/-- The result of a run is what its value is read to. -/
theorem ofTree_toJson (h : r.WellFormed) (hyears : ∀ m ∈ r.moments, m.FourDigits) :
    ofTree (ofJson r.toJson) = .ok r :=
  ofTree_arranged .byName h hyears

end RunResult

end

end Automation
