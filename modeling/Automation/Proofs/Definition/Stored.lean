import Automation.Definition.Check
import Automation.Definition.Stored
import Automation.Proofs.Definition.Layout
import Automation.Proofs.Run.Admission
import Automation.Proofs.Store

/-!
# Definitions that have been stored

The body of a document is a value, and the objects in it are sorted by name. A definition that has
been saved is therefore loaded with the filter of its trigger and the inputs of its steps sorted
(`Definition.load_save`), and otherwise as it was. The check accepts both or neither, and warns of
the same references; but as it goes through the inputs of a step in their order, the warnings about
one step may change places. `Definition.load_save_unordered` has a definition of which it does so.
-/

namespace Automation

namespace Definition

/-! ## What the order of the inputs means for the check -/

/-- The check of a definition has the same answer twice, but for the order of the warnings about
one step. -/
inductive SameAnswer : Except EngineFault (List Warning) → Except EngineFault (List Warning) → Prop
  | refused (fault : EngineFault) : SameAnswer (.error fault) (.error fault)
  | accepted {warnings others : List Warning} (perm : warnings.Perm others)
      (steps : warnings.map (·.step) = others.map (·.step)) :
      SameAnswer (.ok warnings) (.ok others)

/-- The check of steps does not look at the order of inputs. -/
theorem checkSteps_sorted (registry : Registry) (seen : List String) (steps : List Step) :
    checkSteps registry seen (steps.map Step.sorted) = checkSteps registry seen steps := by
  induction steps generalizing seen with
  | nil => rfl
  | cons s rest ih =>
    rw [List.map_cons, checkSteps, checkSteps, Step.sorted, ih]
    rfl

variable (d : Definition)

/-- Which step a reference means does not depend on the order of inputs. -/
theorem referred?_sorted (reference : String) :
    d.sorted.referred? reference = d.referred? reference := by
  have hposition : d.sorted.position? reference = d.position? reference := by
    rw [position?, position?, sorted, List.findIdx?_map]
    rfl
  have hlength : d.sorted.steps.length = d.steps.length := List.length_map ..
  rw [referred?, referred?, hposition, hlength]

/-- What is wrong with an expression does not depend on the order of inputs. -/
theorem problem?_sorted (position : Nat) (expression : String) :
    d.sorted.problem? position expression = d.problem? position expression := by
  unfold problem?
  simp only [referred?_sorted]

/-- Sorting the inputs of a step rearranges its references. -/
theorem stepReferences_sorted (s : Step) :
    (stepReferences s).Perm (stepReferences s.sorted) :=
  ((Fields.perm_ofList s.inputs.nodup).symm.flatMap_right _).append_right _

/-- A warning about a step names that step. -/
theorem step_of_mem_stepWarnings {position : Nat} {s : Step} {w : Warning}
    (h : w ∈ d.stepWarnings position s) : w.step = s.id := by
  obtain ⟨r, -, hr⟩ := List.mem_filterMap.1 h
  obtain ⟨message, -, rfl⟩ := Option.map_eq_some_iff.1 hr
  rfl

/-- Sorting the inputs of a step permutes the warnings about it. -/
theorem stepWarnings_sorted (position : Nat) (s : Step) :
    (d.stepWarnings position s).Perm (d.sorted.stepWarnings position s.sorted) := by
  unfold stepWarnings
  simp only [problem?_sorted]
  exact (stepReferences_sorted s).filterMap _

/-- Sorting the inputs of a step does not change how many warnings there are about it. -/
theorem steps_stepWarnings_sorted (position : Nat) (s : Step) :
    (d.stepWarnings position s).map (·.step) =
      (d.sorted.stepWarnings position s.sorted).map (·.step) := by
  have hconst (d : Definition) (s : Step) : (d.stepWarnings position s).map (·.step) =
      List.replicate (d.stepWarnings position s).length s.id := by
    rw [List.eq_replicate_iff]
    refine ⟨List.length_map .., fun name hname => ?_⟩
    obtain ⟨w, hw, rfl⟩ := List.mem_map.1 hname
    exact d.step_of_mem_stepWarnings hw
  rw [hconst, hconst, (d.stepWarnings_sorted position s).length_eq]
  rfl

/-- Sorting the inputs of steps permutes the warnings about each of them. -/
theorem warningsFrom_sorted (position : Nat) (steps : List Step) :
    (d.warningsFrom position steps).Perm
        (d.sorted.warningsFrom position (steps.map Step.sorted)) ∧
      (d.warningsFrom position steps).map (·.step) =
        (d.sorted.warningsFrom position (steps.map Step.sorted)).map (·.step) := by
  induction steps generalizing position with
  | nil => exact ⟨List.Perm.refl _, rfl⟩
  | cons s rest ih =>
    obtain ⟨hperm, hsteps⟩ := ih (position + 1)
    rw [List.map_cons, warningsFrom, warningsFrom, List.map_append, List.map_append]
    exact ⟨(d.stepWarnings_sorted position s).append hperm,
      congr (congrArg _ (d.steps_stepWarnings_sorted position s)) hsteps⟩

/-- Sorting the inputs of the steps changes no more of the check than the order of the warnings
about one step. -/
theorem sameAnswer_sorted (d : Definition) (registry : Registry) :
    SameAnswer (d.check registry) (d.sorted.check registry) := by
  have hsteps : checkSteps registry [] d.sorted.steps = checkSteps registry [] d.steps :=
    checkSteps_sorted registry [] d.steps
  rw [check_eq_map, check_eq_map, hsteps]
  cases checkSteps registry [] d.steps with
  | error fault => exact .refused fault
  | ok =>
    obtain ⟨hperm, hnames⟩ := d.warningsFrom_sorted 1 d.steps
    exact .accepted hperm hnames

/-! ## Saving and loading -/

/-- What is saved of a definition is the value of its tree. -/
theorem toJson_eq_value (d : Definition) : d.toJson = d.toTree.value :=
  rfl

/-- A well-formed definition is found sorted in the document of its value. -/
theorem ofDocument_toJson {d : Definition} (h : d.WellFormed) {document : Document}
    (hbody : document.body = d.toJson) : ofDocument d.tenant document = .ok d.sorted := by
  obtain ⟨-, hread⟩ := ofTree_normal h
  rw [ofDocument, hbody, toJson_eq_value]
  rw [Tree.normal] at hread
  rw [hread]
  change (if d.sorted.tenant ≠ d.tenant then _ else pure d.sorted) = _
  rw [if_neg fun hne => hne rfl]
  rfl

/-- A well-formed definition whose value is stored under an id is loaded from there sorted. -/
theorem load_of_get? {d : Definition} (h : d.WellFormed) {s : Services} {id : String}
    {document : Document} (hget : s.storeOutages.lookup .get = none)
    (hfound : s.store.get? d.tenant id = some document) (hbody : document.body = d.toJson) :
    load d.tenant id s = .ok d.sorted := by
  rw [load, s.getDocument_of_served _ _ hget, hfound]
  exact ofDocument_toJson h hbody

/-- The document of a definition that is saved has the id of the definition, and it is in the store
afterwards. -/
theorem save_of_served (d : Definition) {s : Services} (h : s.storeOutages.lookup .put = none) :
    ∃ document, (d.save s).1 = .ok document ∧ document.id = d.id ∧ document.body = d.toJson ∧
      (d.save s).2.store.get? d.tenant d.id = some document := by
  let draft : Document := { id := d.id, body := d.toJson }
  have heq : d.save s = (.ok (s.store.put d.tenant draft).1, _) :=
    s.putDocument_of_served d.tenant draft h
  refine ⟨_, by rw [heq], rfl, rfl, ?_⟩
  rw [heq]
  exact s.store.get?_put_self d.tenant draft

/-- Saving takes no kind of request out of service. -/
theorem storeOutages_save (d : Definition) (s : Services) :
    (d.save s).2.storeOutages = s.storeOutages :=
  s.storeOutages_putDocument d.tenant _

/-- A definition that has been saved is in the store under its own id, and is loaded from there with
the filter of its trigger and the inputs of its steps sorted, whatever has been done in between that
wrote and removed no document. So it is the same as before exactly if these were in order. The check
accepts both or neither, with the same warnings, though the warnings about one step may stand in
another order. -/
theorem load_save {d : Definition} (hd : d.WellFormed) {s : Services}
    (hput : s.storeOutages.lookup .put = none) :
    (∃ document, (d.save s).1 = .ok document ∧ document.id = d.id) ∧
      (∀ later : Services, later.store = (d.save s).2.store →
        later.storeOutages.lookup .get = none → load d.tenant d.id later = .ok d.sorted) ∧
      (d.sorted = d ↔ d.InOrder) ∧
      ∀ registry, SameAnswer (d.check registry) (d.sorted.check registry) := by
  obtain ⟨document, hsaved, hid, hbody, hfound⟩ := d.save_of_served hput
  refine ⟨⟨document, hsaved, hid⟩, fun later hlater hget => ?_, sorted_eq_self_iff,
    d.sameAnswer_sorted⟩
  exact load_of_get? hd hget (by rw [hlater, hfound]) hbody

/-- A definition with a loop and a filter, whose step has its inputs out of order. -/
theorem load_save_loop :
    let step : Step :=
      { id := "a", kind := .queryRows,
        inputs :=
          ⟨[("table_id", .string "t"), ("filters", .object [("n", .int 1), ("x", .null)])],
            by decide⟩,
        loop := some { input := .array [.string "b"], maxIterations := some 5 } }
    let d : Definition :=
      { id := "au", tenant := ⟨"t"⟩, name := some "n", steps := [step],
        trigger := { event := .rowCreated, filter := ⟨[("table_id", .string "t")], by decide⟩ } }
    let s : Services := { clock := default }
    d.WellFormed ∧ s.storeOutages.lookup .put = none ∧
      (d.save s).1.toOption.map (·.id) = some d.id ∧ (d.save s).2.storeOutages.lookup .get = none ∧
      load d.tenant d.id (d.save s).2 = .ok d.sorted ∧ d.sorted ≠ d ∧
      SameAnswer (d.check .all) (d.sorted.check .all) := by
  intro step d s
  have hinputs : step.inputs.WellFormed := by
    simp [step, Entries.WellFormed, Json.Sorted, Json.SortedFields, Json.int, Fields.Ordered]
    decide
  have hloop : ∀ l ∈ step.loop, l.WellFormed := by
    rintro l ⟨⟩
    exact ⟨⟨trivial, trivial⟩, by simp [Text.maxWord32]⟩
  have hd : d.WellFormed := by
    refine ⟨?_, List.forall_mem_singleton.2 ⟨hinputs, hloop⟩⟩
    exact List.forall_mem_singleton.2 trivial
  obtain ⟨⟨document, hsaved, hid⟩, hload, hsame, hanswer⟩ := load_save hd (s := s) rfl
  have hget : (d.save s).2.storeOutages.lookup .get = none := by
    rw [storeOutages_save]
    rfl
  refine ⟨hd, rfl, by rw [hsaved, ← hid]; rfl, hget, hload _ rfl hget, fun heq => ?_,
    hanswer .all⟩
  · have hordered := (hsame.1 heq).steps step (List.mem_singleton_self _)
    exact absurd ((List.pairwise_cons.1 hordered).1 _ (List.mem_singleton_self _)) (by decide)

/-- A step with its inputs out of order. The check warns of the references in the order in which
they are written; once the definition has been saved and loaded it warns of them in the other
order. -/
theorem load_save_unordered :
    let step : Step :=
      { id := "a", kind := .filter,
        inputs := ⟨[("value", .string "$\x7b\x7b steps.x \x7d\x7d"),
          ("field", .string "$\x7b\x7b steps.y \x7d\x7d")], by decide⟩ }
    let d : Definition :=
      { id := "au", tenant := ⟨"t"⟩, steps := [step], trigger := { event := .cron } }
    let s : Services := { clock := default }
    let first : Warning := ⟨"a", "inputs.value", "references unknown step 'x'"⟩
    let second : Warning := ⟨"a", "inputs.field", "references unknown step 'y'"⟩
    ∃ loaded, (d.save s).1.toOption.map (·.id) = some d.id ∧
      load d.tenant d.id (d.save s).2 = .ok loaded ∧ loaded ≠ d ∧
      d.check .all = .ok [first, second] ∧ loaded.check .all = .ok [second, first] := by
  intro step d s first second
  have hd : d.WellFormed := by
    refine ⟨(fun _ h => nomatch h), List.forall_mem_singleton.2 ⟨?_, ?_⟩⟩
    · simp [step, Entries.WellFormed, Json.Sorted]
    · exact fun _ h => nomatch h
  have hanswer : d.check .all = .ok [first, second] := by
    dsimp only [d, step, first, second]
    rfl
  have hanswer' : d.sorted.check .all = .ok [second, first] := by
    dsimp only [d, step, first, second]
    rfl
  obtain ⟨document, hsaved, hid, hbody, hfound⟩ := d.save_of_served (s := s) rfl
  refine ⟨d.sorted, by rw [hsaved, ← hid]; rfl, ?_, fun heq => ?_, hanswer, hanswer'⟩
  · exact load_of_get? hd (by rw [storeOutages_save]; rfl) hfound hbody
  · rw [heq, hanswer] at hanswer'
    exact absurd (Except.ok.inj hanswer') (by decide)

end Definition

end Automation
