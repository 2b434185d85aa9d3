import Automation.Execution.Step

/-!
# One iteration of a loop

An iteration executes the step in its opening frame, leaves an output, and is judged by that output
and by the failure condition in its closing frame (`Execution.judge`). `Execution.iterate_cons` says
what a loop does with its next item in terms of the judgement alone: it goes on, or it ends.
`Execution.advance` is an iteration without the judgement; folding it over items gives the outputs
and the services that a loop over these items comes to while no iteration ends it.
-/

namespace Automation

/-- Of two frames the later one stays. -/
@[simp] theorem Context.withFrame_withFrame (context : Context) (first second : Option LoopFrame) :
    (context.withFrame first).withFrame second = context.withFrame second := rfl

/-- The outputs that are reported of an execution are what it leaves. -/
theorem Outputs.reported_fst (result : Except StepFault Json) :
    (reported result).1 = ofResult result := by
  cases result <;> rfl

/-- The error that is reported of an execution is the one in the reported outputs, since those of a
failure hold its wording. -/
theorem Outputs.reported_snd (result : Except StepFault Json) :
    (reported result).2 = error? (ofResult result) := by
  cases result <;> rfl

namespace Execution

/-- How an iteration is judged: the loop may go on, the iteration has failed or its failure
condition is true, or the condition cannot be evaluated. -/
inductive Judgement where
  | passed
  | failed
  | unclear (fault : BindingFault)

/-- The frame in which an iteration executes its step. -/
def openFrame (done : List Json) (item : Json) : LoopFrame :=
  ⟨item, done.length, done, .null⟩

/-- The frame in which the failure condition of an iteration is evaluated. -/
def closeFrame (done : List Json) (item output : Json) : LoopFrame :=
  ⟨item, done.length, done ++ [output], output⟩

/-- The time that a failure condition takes in the closing context of an iteration. It is evaluated
only if the iteration reports success. -/
def closingTime (c : Config) (condition : Option String) (context : Context) (output : Json) :
    Nat :=
  match condition with
  | some text => if Outputs.succeeded output then conditionTime c.resolver context text else 0
  | none => 0

section
variable (c : Config) (tenant : Tenant) (plan : LoopPlan) (context : Context)

/-- The step executed for an item, after iterations that left the outputs `done`. -/
def iteration (done : List Json) (item : Json) (s : Services) : Task.Performed :=
  once c tenant plan.step (context.withFrame (some (openFrame done item))) s

/-- The output of an iteration. -/
def iterationOutput (done : List Json) (item : Json) (s : Services) : Json :=
  Outputs.ofResult (iteration c tenant plan context done item s).1

/-- How an iteration with an output is judged. -/
def judge (done : List Json) (item output : Json) : Judgement :=
  if Outputs.succeeded output then
    match plan.condition with
    | none => .passed
    | some condition =>
      match c.resolver.condition (context.withFrame (some (closeFrame done item output)))
          condition with
      | .ok false => .passed
      | .ok true => .failed
      | .error fault => .unclear fault
  else .failed

/-- The services after an iteration. -/
def iterationServices (done : List Json) (item : Json) (s : Services) : Services :=
  let output := iterationOutput c tenant plan context done item s
  (iteration c tenant plan context done item s).2.elapse
    (closingTime c plan.condition (context.withFrame (some (closeFrame done item output))) output)

/-- The outputs gathered so far and the services, after one more iteration. -/
def advance (state : List Json × Services) (item : Json) : List Json × Services :=
  (state.1 ++ [iterationOutput c tenant plan context state.1 item state.2],
    iterationServices c tenant plan context state.1 item state.2)

/-- An iteration without success has failed, whatever the condition. -/
theorem judge_failure {done : List Json} {item output : Json}
    (h : Outputs.succeeded output = false) : judge c plan context done item output = .failed := by
  simp [judge, h]

/-- The condition takes no time after an iteration without success. -/
theorem closingTime_failure {output : Json} (condition : Option String)
    (h : Outputs.succeeded output = false) : closingTime c condition context output = 0 := by
  unfold closingTime
  split <;> simp [h]

/-- What a loop does with its next item: it executes the step, and goes on or ends as the iteration
is judged. The frame that the iteration leaves in the context does not matter, since the next
iteration replaces it. -/
theorem iterate_cons {done : List Json} (item : Json) (rest : List Json) (p : Progress)
    (h : done.length < plan.limit) :
    ∃ frame, iterate c tenant plan done.length done (item :: rest) p =
      let next := advance c tenant plan p.context (done, p.services) item
      let q : Progress := ⟨p.context.withFrame frame, next.2⟩
      match judge c plan p.context done item
          (iterationOutput c tenant plan p.context done item p.services) with
      | .passed => iterate c tenant plan (done.length + 1) next.1 rest q
      | .failed => (⟨next.1, false, none⟩, q)
      | .unclear fault => (⟨next.1, false, some fault⟩, q) := by
  rw [iterate, if_neg (Nat.not_le.2 h)]
  dsimp only [Progress.withFrame, Progress.withServices, Progress.elapse, advance,
    iterationServices, iterationOutput]
  generalize ho : iteration c tenant plan p.context done item p.services = performed
  unfold iteration openFrame at ho
  rw [ho]
  obtain ⟨result, s⟩ := performed
  dsimp only
  generalize Outputs.ofResult result = output
  cases hs : Outputs.succeeded output with
  | false =>
    rw [judge_failure c plan _ hs, closingTime_failure c _ _ hs]
    exact ⟨_, rfl⟩
  | true =>
    cases hc : plan.condition with
    | none =>
      refine ⟨some (openFrame done item), ?_⟩
      simp only [judge, closingTime, hs, hc]
      rfl
    | some condition =>
      refine ⟨some (closeFrame done item output), ?_⟩
      simp only [judge, closingTime, hs, hc, Bool.not_true, Bool.false_eq_true, if_false, if_true,
        Context.withFrame_withFrame]
      unfold closeFrame
      cases c.resolver.condition (p.context.withFrame
        (some ⟨item, done.length, done ++ [output], output⟩)) condition with
      | error fault => rfl
      | ok verdict => cases verdict <;> rfl

/-! ## All iterations -/

section
variable (items : List Json) (start : List Json × Services)

/-- The outputs and the services with which a loop over items comes to the item at an index, if no
iteration before that ends it. -/
def stateAt (index : Nat) : List Json × Services :=
  (items.take index).foldl (advance c tenant plan context) start

/-- How the iteration at an index is judged, if the loop comes to it. -/
def judgementAt (index : Nat) : Option Judgement :=
  items[index]?.map fun item =>
    let state := stateAt c tenant plan context items start index
    judge c plan context state.1 item
      (iterationOutput c tenant plan context state.1 item state.2)

end

section
variable {items : List Json} {start : List Json × Services}

/-- An iteration that a loop comes to advances the state. -/
theorem stateAt_succ {i : Nat} {item : Json} (h : items[i]? = some item) :
    stateAt c tenant plan context items start (i + 1) =
      advance c tenant plan context (stateAt c tenant plan context items start i) item := by
  unfold stateAt
  rw [List.take_add_one, h, Option.toList_some, List.foldl_append]
  rfl

/-- Every iteration adds one output to those gathered before. -/
theorem length_stateAt {i : Nat} (h : i ≤ items.length) :
    (stateAt c tenant plan context items start i).1.length = start.1.length + i := by
  induction i with
  | zero => rfl
  | succ i ih =>
    rw [stateAt_succ c tenant plan context (List.getElem?_eq_getElem h)]
    simp only [advance, List.length_append, List.length_singleton, ih (Nat.le_of_succ_le h)]
    omega

/-- The outputs of some iterations are the first of those of more iterations. -/
theorem stateAt_prefix {i j : Nat} (hij : i ≤ j) (hj : j ≤ items.length) :
    (stateAt c tenant plan context items start i).1 <+:
      (stateAt c tenant plan context items start j).1 := by
  induction j with
  | zero =>
    obtain rfl : i = 0 := Nat.le_zero.1 hij
    exact List.prefix_refl _
  | succ j ih =>
    rcases Nat.lt_or_ge i (j + 1) with hlt | hge
    · rw [stateAt_succ c tenant plan context (List.getElem?_eq_getElem hj)]
      exact (ih (Nat.le_of_lt_succ hlt) (Nat.le_of_succ_le hj)).trans (List.prefix_append _ _)
    · obtain rfl : i = j + 1 := Nat.le_antisymm hij hge
      exact List.prefix_refl _

/-- The outputs gathered before an iteration, in terms of all that are gathered in the end. -/
theorem stateAt_eq_take {i m : Nat} (him : i ≤ m) (hm : m ≤ items.length) (hs : start.1 = []) :
    (stateAt c tenant plan context items start i).1 =
      (stateAt c tenant plan context items start m).1.take i := by
  have hprefix : (stateAt c tenant plan context items start i).1 <+:
      (stateAt c tenant plan context items start m).1 := stateAt_prefix c tenant plan context him hm
  have h := List.prefix_iff_eq_take.1 hprefix
  rwa [length_stateAt c tenant plan context (Nat.le_trans him hm), hs, List.length_nil,
    Nat.zero_add] at h

end

/-- A loop that ends after `m` iterations. All before the last have passed. It succeeds if the last
one has passed too, and then there were no more items or no more iterations allowed; otherwise it
ends as the last one is judged. -/
structure Ends (items : List Json) (start : List Json × Services) (m : Nat) (e : LoopEnd) :
    Prop where
  items_eq : e.items = (stateAt c tenant plan context items start m).1
  le_length : m ≤ items.length
  le_limit : start.1.length + m ≤ plan.limit
  passed : ∀ i, i + 1 < m → judgementAt c tenant plan context items start i = some .passed
  success : e.success = true → (m = items.length ∨ start.1.length + m = plan.limit) ∧
    e.conditionFault = none ∧
    ∀ i < m, judgementAt c tenant plan context items start i = some .passed
  failure : e.success = false → ∃ i, m = i + 1 ∧
    judgementAt c tenant plan context items start i = some (match e.conditionFault with
      | none => .failed
      | some fault => .unclear fault)

/-- A loop that has no items or no iterations left ends at once. -/
theorem Ends.now {items : List Json} {start : List Json × Services}
    (h : start.1.length ≤ plan.limit) (hend : items = [] ∨ start.1.length = plan.limit) :
    Ends c tenant plan context items start 0 ⟨start.1, true, none⟩ where
  items_eq := rfl
  le_length := Nat.zero_le _
  le_limit := h
  passed := by simp
  success _ := ⟨hend.imp (fun h => by simp [h]) id, rfl, by simp⟩
  failure := by simp

/-- A loop ends with an iteration that has not passed. -/
theorem Ends.first {item : Json} {rest : List Json} {start : List Json × Services}
    (hlimit : start.1.length < plan.limit) (fault : Option BindingFault)
    (hj : judgementAt c tenant plan context (item :: rest) start 0 = some (match fault with
      | none => .failed
      | some fault => .unclear fault)) :
    Ends c tenant plan context (item :: rest) start 1
      ⟨(advance c tenant plan context start item).1, false, fault⟩ where
  items_eq := rfl
  le_length := Nat.succ_le_succ (Nat.zero_le _)
  le_limit := hlimit
  passed i hi := by omega
  success := by simp
  failure _ := ⟨0, rfl, hj⟩

/-- A loop whose first iteration has passed ends as it does with the items after that. -/
theorem Ends.next {item : Json} {rest : List Json} {start : List Json × Services}
    (hj : judgementAt c tenant plan context (item :: rest) start 0 = some .passed) {m : Nat}
    {e : LoopEnd}
    (h : Ends c tenant plan context rest (advance c tenant plan context start item) m e) :
    Ends c tenant plan context (item :: rest) start (m + 1) e := by
  have hlen : (advance c tenant plan context start item).1.length = start.1.length + 1 := by
    simp [advance]
  have hlimit := h.le_limit
  refine ⟨h.items_eq, Nat.succ_le_succ h.le_length, by omega, fun i hi => ?_, fun he => ?_,
    fun he => ?_⟩
  · cases i with
    | zero => exact hj
    | succ i => exact h.passed i (by omega)
  · obtain ⟨hend, hfault, hall⟩ := h.success he
    refine ⟨hend.imp (congrArg (· + 1)) (fun hm => by omega), hfault, fun i hi => ?_⟩
    cases i with
    | zero => exact hj
    | succ i => exact hall i (by omega)
  · obtain ⟨i, hm, hi⟩ := h.failure he
    exact ⟨i + 1, by omega, hi⟩

section
variable (frame : Option LoopFrame) (items : List Json) (start : List Json × Services)

/-- An iteration does not depend on the frame before it. -/
theorem iterationOutput_withFrame :
    iterationOutput c tenant plan (context.withFrame frame) =
      iterationOutput c tenant plan context := rfl

/-- A judgement does not depend on the frame before the iteration. -/
theorem judge_withFrame : judge c plan (context.withFrame frame) = judge c plan context := by
  funext done item output
  simp only [judge, Context.withFrame_withFrame]

/-- What an iteration does does not depend on the frame before it. -/
theorem advance_withFrame :
    advance c tenant plan (context.withFrame frame) = advance c tenant plan context := rfl

/-- What iterations come to does not depend on the frame before them. -/
theorem stateAt_withFrame :
    stateAt c tenant plan (context.withFrame frame) items start =
      stateAt c tenant plan context items start := by
  funext i
  unfold stateAt
  rw [advance_withFrame]

/-- How iterations are judged does not depend on the frame before them. -/
theorem judgementAt_withFrame :
    judgementAt c tenant plan (context.withFrame frame) items start =
      judgementAt c tenant plan context items start := by
  funext i
  unfold judgementAt
  rw [stateAt_withFrame, judge_withFrame, iterationOutput_withFrame]

end

/-- How a loop ends does not depend on the frame in which it starts. -/
theorem Ends.of_withFrame {frame : Option LoopFrame} {items : List Json}
    {start : List Json × Services} {m : Nat} {e : LoopEnd}
    (h : Ends c tenant plan (context.withFrame frame) items start m e) :
    Ends c tenant plan context items start m e := by
  obtain ⟨hitems, hlength, hlimit, hpassed, hsuccess, hfailure⟩ := h
  rw [stateAt_withFrame] at hitems
  rw [judgementAt_withFrame] at hpassed hsuccess hfailure
  exact ⟨hitems, hlength, hlimit, hpassed, hsuccess, hfailure⟩

/-- Every loop ends after some number of iterations, with the services as these leave them. -/
theorem iterate_ends (items done : List Json) (p : Progress) (h : done.length ≤ plan.limit) :
    ∃ m e frame, Ends c tenant plan p.context items (done, p.services) m e ∧
      iterate c tenant plan done.length done items p = (e, ⟨p.context.withFrame frame,
        (stateAt c tenant plan p.context items (done, p.services) m).2⟩) := by
  induction items generalizing done p with
  | nil => exact ⟨0, _, p.context.frame, .now c tenant plan p.context h (.inl rfl), rfl⟩
  | cons item rest ih =>
    rcases Nat.lt_or_ge done.length plan.limit with hlt | hge
    · obtain ⟨frame, hi⟩ := iterate_cons c tenant plan item rest p hlt
      rw [hi]
      generalize hj : judge c plan p.context done item
        (iterationOutput c tenant plan p.context done item p.services) = j
      have hfirst : judgementAt c tenant plan p.context (item :: rest) (done, p.services) 0 =
          some j := congrArg some hj
      cases j with
      | failed =>
        exact ⟨1, _, frame, .first c tenant plan p.context hlt none hfirst, rfl⟩
      | unclear fault =>
        exact ⟨1, _, frame, .first c tenant plan p.context hlt (some fault) hfirst, rfl⟩
      | passed =>
        have hlen : (advance c tenant plan p.context (done, p.services) item).1.length =
            done.length + 1 := by simp [advance]
        obtain ⟨m, e, frame', hends, he⟩ :=
          ih (advance c tenant plan p.context (done, p.services) item).1
            ⟨p.context.withFrame frame, (advance c tenant plan p.context (done, p.services) item).2⟩
            (by omega)
        rw [hlen] at he
        exact ⟨m + 1, e, frame', .next c tenant plan p.context hfirst hends.of_withFrame, he⟩
    · refine ⟨0, _, p.context.frame,
        .now c tenant plan p.context h (.inr (Nat.le_antisymm h hge)), ?_⟩
      rw [iterate, if_pos hge]
      rfl

/-! ## Loops and steps -/

/-- A loop whose input is no collection takes the time of its input and has failed. -/
theorem looped_of_error {step : Step} {loop : Loop} {p : Progress} {fault : StepFault}
    (h : loopItems c p.context loop = .error fault) :
    looped c tenant step loop p =
      (.error fault, p.elapse (c.resolver.timeOf p.context loop.input)) := by
  unfold looped
  rw [h]

/-- A loop over items has the outputs of an end, and leaves the context outside of all loops. -/
theorem looped_of_items (step : Step) {loop : Loop} {p : Progress} {items : List Json}
    (h : loopItems c p.context loop = .ok items) :
    let plan : LoopPlan := ⟨step, loop.condition?, c.iterations loop.maxIterations⟩
    let start := ([], p.services.elapse (c.resolver.timeOf p.context loop.input))
    ∃ m e, Ends c tenant plan p.context items start m e ∧
      looped c tenant step loop p = (.ok e.outputs, ⟨p.context.withFrame none,
        (stateAt c tenant plan p.context items start m).2⟩) := by
  obtain ⟨m, e, frame, hends, he⟩ := iterate_ends c tenant
    ⟨step, loop.condition?, c.iterations loop.maxIterations⟩ items []
    (p.elapse (c.resolver.timeOf p.context loop.input)) (Nat.zero_le _)
  refine ⟨m, e, hends, ?_⟩
  unfold looped
  rw [h]
  dsimp only [List.length_nil] at he ⊢
  rw [he]
  rfl

/-- The outputs of a step are those of the attempt, or of its failure. -/
theorem step_outputs (step : Step) (p : Progress) :
    (Execution.step c tenant step p).1.outputs =
      Outputs.ofResult (attempt c tenant step p).1 :=
  Outputs.reported_fst _

/-- The error of a step is the one in its outputs, whether they are those of the attempt or of its
failure. -/
theorem step_error (step : Step) (p : Progress) :
    (Execution.step c tenant step p).1.error =
      Outputs.error? (Execution.step c tenant step p).1.outputs := by
  rw [step_outputs]
  exact Outputs.reported_snd _

/-- A step changes what the attempt changes. -/
theorem step_progress (step : Step) (p : Progress) :
    (Execution.step c tenant step p).2 = (attempt c tenant step p).2 := rfl

end

end Execution

end Automation
