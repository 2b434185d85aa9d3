import Automation.Proofs.Execution.Iteration
import Automation.Proofs.Fields
import Automation.Proofs.Json.Equal

/-!
# Loops

`Execution.looped_run` says what a loop over a collection comes to. It always has outputs. These
hold the outputs of the iterations, which are those of the step executed in the frames of the items
in order, each iteration starting with the services that the one before has left (`LoopRun`). A loop
goes on exactly as long as its iterations pass (`Passed`); it succeeds if all of them have and no
item is left, or no more iterations are allowed; and its outputs hold an error exactly if the
failure condition of the last iteration cannot be evaluated (`Unclear`).
-/

namespace Automation

/-! ## How many iterations are allowed -/

namespace Config

variable (c : Config)

/-- Every loop is allowed at least one iteration. -/
theorem one_le_iterations (requested : Option Nat) : 1 ≤ c.iterations requested :=
  Nat.le_min.2 ⟨Nat.le_max_right _ _, Nat.le_max_right _ _⟩

/-- No loop is allowed more iterations than the ceiling, which is at least one. -/
theorem iterations_le (requested : Option Nat) :
    c.iterations requested ≤ max c.iterationCeiling 1 :=
  Nat.min_le_right _ _

/-- Between one and the ceiling a loop is allowed as many iterations as it asks for, and beyond that
as many as are the nearest to it. -/
theorem iterations_some (n : Nat) :
    (n = 0 → c.iterations (some n) = 1) ∧
      (1 ≤ n → n ≤ max c.iterationCeiling 1 → c.iterations (some n) = n) ∧
      (max c.iterationCeiling 1 < n → c.iterations (some n) = max c.iterationCeiling 1) := by
  have heq : c.iterations (some n) = min (max n 1) (max c.iterationCeiling 1) := rfl
  omega

/-- A loop that asks for nothing is allowed the default, if the configuration is one that passes its
check. -/
theorem iterations_none_of_check (h : c.check = .ok ()) :
    c.iterations none = c.defaultIterations := by
  have hpositive : 1 ≤ c.defaultIterations := by
    refine Nat.pos_of_ne_zero fun hzero => ?_
    have hfield : c.zeroField?.isSome := by
      rw [zeroField?, Option.isSome_map, List.find?_isSome]
      exact ⟨("default_max_iterations", c.defaultIterations), by simp, by simp [hzero]⟩
    obtain ⟨field, hfield⟩ := Option.isSome_iff_exists.1 hfield
    rw [check, hfield] at h
    cases h
  have hceiling : c.defaultIterations ≤ c.iterationCeiling := by
    refine Nat.le_of_not_lt fun habove => ?_
    rw [check] at h
    split at h
    · cases h
    · rw [if_pos habove] at h
      cases h
  exact (c.iterations_some c.defaultIterations).2.1 hpositive
    (Nat.le_trans hceiling (Nat.le_max_left _ _))

end Config

namespace Execution

/-- An iteration with an output has passed: it reports success, and its failure condition, if there
is one, is false in its closing context. -/
def Passed (c : Config) (condition : Option String) (context : Context) (output : Json) : Prop :=
  Outputs.succeeded output = true ∧
    ∀ text ∈ condition, c.resolver.condition context text = .ok false

/-- An iteration with an output reports success, but its failure condition cannot be evaluated in
its closing context. -/
def Unclear (c : Config) (condition : Option String) (context : Context) (output : Json) : Prop :=
  Outputs.succeeded output = true ∧
    ∃ text ∈ condition, ∃ fault, c.resolver.condition context text = .error fault

/-- The iterations of a loop over items that left the outputs `outs`; `σ i` are the services before
the iteration `i`. The step is executed in the frame of its item, with the outputs so far and no
output of its own (`output`). Its services are passed on, together with the time that the failure
condition takes if it is evaluated (`services`). All iterations but the last have passed, in the
frame with their output (`passed`). -/
structure LoopRun (c : Config) (tenant : Tenant) (step : Step) (condition : Option String)
    (context : Context) (items outs : List Json) (σ : Nat → Services) : Prop where
  output : ∀ i item output, items[i]? = some item → outs[i]? = some output →
    output = Outputs.ofResult
      (once c tenant step (context.withFrame (some ⟨item, i, outs.take i, .null⟩)) (σ i)).1
  services : ∀ i item output, items[i]? = some item → outs[i]? = some output →
    σ (i + 1) =
      (once c tenant step (context.withFrame (some ⟨item, i, outs.take i, .null⟩)) (σ i)).2.elapse
        (closingTime c condition
          (context.withFrame (some ⟨item, i, outs.take (i + 1), output⟩)) output)
  passed : ∀ i item output, items[i]? = some item → outs[i]? = some output → i + 1 < outs.length →
    Passed c condition (context.withFrame (some ⟨item, i, outs.take (i + 1), output⟩)) output

section
variable (c : Config) (tenant : Tenant) (plan : LoopPlan) (context : Context)

/-- The loop may go on after an iteration exactly if that has passed. -/
theorem judge_eq_passed_iff (done : List Json) (item output : Json) :
    judge c plan context done item output = .passed ↔
      Passed c plan.condition (context.withFrame (some (closeFrame done item output))) output := by
  unfold judge Passed
  cases Outputs.succeeded output with
  | false => simp
  | true =>
    cases plan.condition with
    | none => simp
    | some condition =>
      simp only [if_true, true_and, Option.mem_some_iff, forall_eq']
      split <;> simp_all

/-- A judgement is unclear exactly if the condition cannot be evaluated. -/
theorem judge_eq_unclear_iff (done : List Json) (item output : Json) :
    (∃ fault, judge c plan context done item output = .unclear fault) ↔
      Unclear c plan.condition (context.withFrame (some (closeFrame done item output))) output := by
  unfold judge Unclear
  cases Outputs.succeeded output with
  | false => simp
  | true =>
    cases plan.condition with
    | none => simp
    | some condition =>
      simp only [if_true, true_and, Option.mem_some_iff, exists_eq_left']
      split <;> simp_all

/-! ## The iterations of a loop that has ended -/

section
variable {c tenant plan context} {items : List Json} {s : Services} {m : Nat} {e : LoopEnd}

/-- A loop that starts without outputs has as many as it had iterations. -/
theorem Ends.length_items (h : Ends c tenant plan context items ([], s) m e) :
    e.items.length = m := by
  rw [h.items_eq, length_stateAt c tenant plan context h.le_length]
  exact Nat.zero_add m

/-- A loop comes to each of its iterations with the outputs of those before. -/
theorem Ends.state_outputs (h : Ends c tenant plan context items ([], s) m e) {i : Nat}
    (hi : i ≤ m) : (stateAt c tenant plan context items ([], s) i).1 = e.items.take i := by
  rw [h.items_eq]
  exact stateAt_eq_take c tenant plan context hi h.le_length rfl

/-- A loop comes to an iteration that has an output. -/
theorem Ends.lt_of_output (h : Ends c tenant plan context items ([], s) m e) {i : Nat}
    {output : Json} (ho : e.items[i]? = some output) : i < m := by
  rw [← h.length_items]
  exact (List.getElem?_eq_some_iff.1 ho).1

/-- The output at an index is that of the iteration at this index. -/
theorem Ends.output_eq (h : Ends c tenant plan context items ([], s) m e) {i : Nat}
    {item output : Json} (hi : items[i]? = some item) (ho : e.items[i]? = some output) :
    output = iterationOutput c tenant plan context (e.items.take i) item
      (stateAt c tenant plan context items ([], s) i).2 := by
  have him : i < m := h.lt_of_output ho
  have hnext := h.state_outputs him
  rw [stateAt_succ c tenant plan context hi, List.take_add_one, ho, Option.toList_some, advance,
    h.state_outputs (Nat.le_of_lt him)] at hnext
  have hlast := List.append_cancel_left hnext
  exact (List.singleton_inj.1 hlast).symm

/-- The frames of an iteration, in terms of its index and all outputs. -/
theorem frames_take {outs : List Json} {i : Nat} {output : Json} (item : Json)
    (ho : outs[i]? = some output) :
    openFrame (outs.take i) item = ⟨item, i, outs.take i, .null⟩ ∧
      closeFrame (outs.take i) item output = ⟨item, i, outs.take (i + 1), output⟩ := by
  have hi : i < outs.length := (List.getElem?_eq_some_iff.1 ho).1
  have hlen : (outs.take i).length = i := List.length_take_of_le (Nat.le_of_lt hi)
  have htake : outs.take (i + 1) = outs.take i ++ [output] := by
    rw [List.take_add_one, ho, Option.toList_some]
  exact ⟨by rw [openFrame, hlen], by rw [closeFrame, hlen, htake]⟩

/-- The judgement about an iteration, in terms of its output. -/
theorem Ends.judgementAt_eq (h : Ends c tenant plan context items ([], s) m e) {i : Nat}
    {item output : Json} (hi : items[i]? = some item) (ho : e.items[i]? = some output) :
    judgementAt c tenant plan context items ([], s) i =
      some (judge c plan context (e.items.take i) item output) := by
  have him : i ≤ m := Nat.le_of_lt (h.lt_of_output ho)
  have hout := h.output_eq hi ho
  unfold judgementAt
  rw [hi, Option.map_some]
  dsimp only
  rw [h.state_outputs him, ← hout]

/-- An iteration has passed, as it is judged. -/
theorem Ends.passed_iff (h : Ends c tenant plan context items ([], s) m e) {i : Nat}
    {item output : Json} (hi : items[i]? = some item) (ho : e.items[i]? = some output) :
    judgementAt c tenant plan context items ([], s) i = some .passed ↔
      Passed c plan.condition
        (context.withFrame (some ⟨item, i, e.items.take (i + 1), output⟩)) output := by
  rw [h.judgementAt_eq hi ho, Option.some_inj, judge_eq_passed_iff,
    (frames_take item ho).2]

/-- The condition of an iteration cannot be evaluated, as it is judged. -/
theorem Ends.unclear_iff (h : Ends c tenant plan context items ([], s) m e) {i : Nat}
    {item output : Json} (hi : items[i]? = some item) (ho : e.items[i]? = some output) :
    (∃ fault, judgementAt c tenant plan context items ([], s) i = some (.unclear fault)) ↔
      Unclear c plan.condition
        (context.withFrame (some ⟨item, i, e.items.take (i + 1), output⟩)) output := by
  rw [h.judgementAt_eq hi ho]
  simp only [Option.some_inj]
  rw [judge_eq_unclear_iff, (frames_take item ho).2]

/-- The iterations of a loop that has ended are those of a run of the loop. -/
theorem Ends.run (h : Ends c tenant plan context items ([], s) m e) :
    LoopRun c tenant plan.step plan.condition context items e.items
      fun i => (stateAt c tenant plan context items ([], s) i).2 where
  output i item output hi ho := by
    have hout := h.output_eq hi ho
    rw [iterationOutput, iteration, (frames_take item ho).1] at hout
    exact hout
  services i item output hi ho := by
    have him : i ≤ m := Nat.le_of_lt (h.lt_of_output ho)
    have hout := h.output_eq hi ho
    obtain ⟨hopen, hclose⟩ := frames_take item ho
    rw [stateAt_succ c tenant plan context hi]
    dsimp only [advance]
    rw [h.state_outputs him, iterationServices, ← hout, iteration, hopen,
      hclose]
  passed i item output hi ho hlast :=
    (h.passed_iff hi ho).1
      (h.passed i (h.length_items ▸ hlast))

/-- An iteration that a loop came to has an item and an output. -/
theorem Ends.exists_output (h : Ends c tenant plan context items ([], s) m e) {i : Nat}
    (hi : i < m) : ∃ item output, items[i]? = some item ∧ e.items[i]? = some output :=
  ⟨_, _, List.getElem?_eq_getElem (Nat.lt_of_lt_of_le hi h.le_length),
    List.getElem?_eq_getElem (h.length_items ▸ hi)⟩

/-- A loop succeeds if it comes to the end of its items, or of the iterations allowed, and its last
iteration has passed. -/
theorem Ends.success_iff (h : Ends c tenant plan context items ([], s) m e) :
    e.success = true ↔ e.items.length = min items.length plan.limit ∧
      ∀ i item output, items[i]? = some item → e.items[i]? = some output →
        i + 1 = e.items.length → Passed c plan.condition
          (context.withFrame (some ⟨item, i, e.items.take (i + 1), output⟩)) output := by
  rw [h.length_items]
  constructor
  · intro he
    obtain ⟨hend, -, hall⟩ := h.success he
    have hlength := h.le_length
    have hlimit := h.le_limit
    rw [List.length_nil, Nat.zero_add] at hend hlimit
    refine ⟨by omega, fun i item output hi ho hlast => ?_⟩
    exact (h.passed_iff hi ho).1 (hall i (by omega))
  · rintro ⟨-, hlast⟩
    cases he : e.success with
    | true => rfl
    | false =>
      obtain ⟨i, rfl, hj⟩ := h.failure he
      obtain ⟨item, output, hi, ho⟩ := h.exists_output (Nat.lt_succ_self i)
      rw [(h.passed_iff hi ho).2 (hlast i item output hi ho rfl)] at hj
      split at hj <;> cases hj

/-- A loop ends with a fault of its condition if that of its last iteration cannot be evaluated. -/
theorem Ends.conditionFault_iff (h : Ends c tenant plan context items ([], s) m e) :
    e.conditionFault.isSome ↔ ∃ i item output, items[i]? = some item ∧ e.items[i]? = some output ∧
      i + 1 = e.items.length ∧ Unclear c plan.condition
        (context.withFrame (some ⟨item, i, e.items.take (i + 1), output⟩)) output := by
  rw [h.length_items]
  constructor
  · intro hfault
    obtain ⟨fault, hfault⟩ := Option.isSome_iff_exists.1 hfault
    cases he : e.success with
    | true => rw [(h.success he).2.1] at hfault; cases hfault
    | false =>
      obtain ⟨i, rfl, hj⟩ := h.failure he
      obtain ⟨item, output, hi, ho⟩ := h.exists_output (Nat.lt_succ_self i)
      rw [hfault] at hj
      exact ⟨i, item, output, hi, ho, rfl,
        (h.unclear_iff hi ho).1 ⟨fault, hj⟩⟩
  · rintro ⟨i, item, output, hi, ho, rfl, hunclear⟩
    obtain ⟨fault, hj⟩ := (h.unclear_iff hi ho).2 hunclear
    cases he : e.success with
    | true =>
      rw [(h.success he).2.2 i (Nat.lt_succ_self i)] at hj
      cases hj
    | false =>
      obtain ⟨i', hm, hj'⟩ := h.failure he
      obtain rfl : i = i' := Nat.succ.inj hm
      rw [hj'] at hj
      split at hj
      · cases hj
      · next hfault => simp [hfault]

end

end

/-! ## The outputs of a loop -/

/-- The outputs of a loop hold those of its iterations. -/
theorem outputs_items (e : LoopEnd) : e.outputs.field? "items" = some (.array e.items) := by
  unfold LoopEnd.outputs
  split <;> rfl

/-- The outputs of a loop hold the number of its iterations. -/
theorem outputs_iterations (e : LoopEnd) :
    e.outputs.field? "iterations" = some (.int e.items.length) := by
  unfold LoopEnd.outputs
  split <;> rfl

/-- The flag in the outputs of a loop is its success. -/
theorem outputs_flag (e : LoopEnd) : e.outputs.field? Outputs.flag = some (.bool e.success) := by
  unfold LoopEnd.outputs
  split <;> rfl

/-- The outputs of a loop hold an error exactly if its condition could not be evaluated. -/
theorem outputs_error (e : LoopEnd) :
    (e.outputs.field? "error").isSome = e.conditionFault.isSome := by
  unfold LoopEnd.outputs
  split <;> simp_all [Json.field?, Outputs.flag]

/-- A loop whose input is a collection has outputs. They hold the outputs of its iterations, no more
than there are items and than are allowed, and their number. The loop succeeds if it comes to the
end of these and its last iteration has passed, and the outputs hold an error if the failure
condition of the last iteration cannot be evaluated. Afterwards the context is outside of all loops,
and the services are those that the last iteration has left. -/
theorem looped_run (c : Config) (tenant : Tenant) (step : Step) (loop : Loop) (p : Progress)
    (items : List Json) (h : loopItems c p.context loop = .ok items) :
    ∃ outputs outs σ success,
      looped c tenant step loop p =
        (.ok outputs, ⟨p.context.withFrame none, σ outs.length⟩) ∧
      σ 0 = p.services.elapse (c.resolver.timeOf p.context loop.input) ∧
      LoopRun c tenant step loop.condition? p.context items outs σ ∧
      outs.length ≤ min items.length (c.iterations loop.maxIterations) ∧
      outputs.field? "items" = some (.array outs) ∧
      outputs.field? "iterations" = some (.int outs.length) ∧
      outputs.field? "success" = some (.bool success) ∧
      (success = true ↔ outs.length = min items.length (c.iterations loop.maxIterations) ∧
        ∀ i item output, items[i]? = some item → outs[i]? = some output → i + 1 = outs.length →
          Passed c loop.condition?
            (p.context.withFrame (some ⟨item, i, outs.take (i + 1), output⟩)) output) ∧
      ((outputs.field? "error").isSome ↔
        ∃ i item output, items[i]? = some item ∧ outs[i]? = some output ∧ i + 1 = outs.length ∧
          Unclear c loop.condition?
            (p.context.withFrame (some ⟨item, i, outs.take (i + 1), output⟩)) output) := by
  obtain ⟨m, e, hends, he⟩ := looped_of_items c tenant step h
  have hlength := hends.length_items
  have hlimit : 0 + m ≤ c.iterations loop.maxIterations := hends.le_limit
  refine ⟨e.outputs, e.items, _, e.success, ?_, rfl, hends.run, ?_, outputs_items e,
    outputs_iterations e, outputs_flag e, hends.success_iff, ?_⟩
  · rw [he, hlength]
  · have := hends.le_length
    omega
  · rw [outputs_error]
    exact hends.conditionFault_iff

/-- A step that is looped over three items and allowed two iterations. Both pass, so that the loop
succeeds with the outputs of two. -/
theorem looped_run_three :
    let loop : Loop := { input := .array [.int 1, .int 2, .int 3], maxIterations := some 2 }
    let step : Step :=
      { id := "a", kind := .collect, loop := some loop,
        inputs := ⟨[("collection", .string "$\x7b\x7b loop.currentItem \x7d\x7d")], by decide⟩ }
    let p : Progress := ⟨{ tenant := ⟨"t"⟩, trigger := .null }, { clock := default }⟩
    let output (n : Int) : Json := .object [("success", .bool true), ("value", .int n)]
    loopItems {} p.context loop = .ok [.int 1, .int 2, .int 3] ∧
      ∃ outputs outs, (looped {} ⟨"t"⟩ step loop p).1 = .ok outputs ∧
        outputs.field? "items" = some (.array outs) ∧ outs = [output 1, output 2] ∧
        outputs.field? "success" = some (.bool true) := by
  intro loop step p output
  have hitems : loopItems {} p.context loop = .ok [.int 1, .int 2, .int 3] := rfl
  obtain ⟨outputs, outs, σ, success, hrun, -, -, -, houts, -, hflag, -⟩ :=
    looped_run {} ⟨"t"⟩ step loop p _ hitems
  have heval : (looped {} ⟨"t"⟩ step loop p).1.toOption = some (.object
      [("items", .array [output 1, output 2]), ("iterations", .int 2),
        ("success", .bool true)]) := by
    decide +kernel
  rw [hrun] at heval
  obtain rfl := Option.some.inj heval
  exact ⟨hitems, _, outs, by rw [hrun], houts, Json.array.inj (Option.some.inj houts).symm, rfl⟩

/-- A loop over a collection has no iterations exactly if there are no items, and never more than
the ceiling. If it does not say how many, it has no more than the default of a configuration that
passes its check. -/
theorem looped_bounded (c : Config) (tenant : Tenant) (step : Step) (loop : Loop) (p : Progress)
    {items : List Json} (h : loopItems c p.context loop = .ok items) :
    ∃ outputs m, (looped c tenant step loop p).1 = .ok outputs ∧
      outputs.field? "iterations" = some (.int (m : Nat)) ∧ (m = 0 ↔ items = []) ∧
      m ≤ max c.iterationCeiling 1 ∧
      (loop.maxIterations = none → c.check = .ok () → m ≤ c.defaultIterations) := by
  obtain ⟨m, e, hends, he⟩ := looped_of_items c tenant step h
  have hlength := hends.length_items
  have hlimit : 0 + m ≤ c.iterations loop.maxIterations := hends.le_limit
  rw [Nat.zero_add] at hlimit
  refine ⟨e.outputs, m, by rw [he], ?_, ⟨fun hm => ?_, fun hitems => ?_⟩,
    Nat.le_trans hlimit (c.iterations_le _), fun hnone hcheck => ?_⟩
  · rw [outputs_iterations, hlength]
  · -- A loop that ends before its first iteration has come to the end of its items, for it is
    -- allowed one.
    have hallowed := c.one_le_iterations loop.maxIterations
    cases hsuccess : e.success with
    | true =>
      rcases (hends.success hsuccess).1 with hend | hend
      · exact List.length_eq_zero_iff.1 (hend.symm.trans hm)
      · have hend : 0 + m = c.iterations loop.maxIterations := hend
        omega
    | false =>
      obtain ⟨i, hi, -⟩ := hends.failure hsuccess
      omega
  · have hle := hends.le_length
    rw [hitems] at hle
    exact Nat.le_zero.1 hle
  · rw [hnone, c.iterations_none_of_check hcheck] at hlimit
    exact hlimit

end Execution

end Automation
