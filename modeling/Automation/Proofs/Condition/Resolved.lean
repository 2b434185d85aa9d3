import Automation.Proofs.Condition.Normal
import Automation.Proofs.Context.Lookup
import Automation.Proofs.Run.Admission

/-!
# The operands that are checked and resolved

Evaluating a condition resolves operands, from the left and only as far as they are needed.
`Condition.nodeHoldsBy` evaluates a text with any way of resolving them; with their values in a
context that are also written down it gives the truth of the text's tree and the operands that were
resolved, which are some of the tree's (`Condition.logs_nodeHoldsBy`). The check looks at all of
them (`Condition.operands_of_check`), and accepts an operand only if it is a literal that can be
read or a path whose segments start in a context (`Condition.resolves_of_check`). So a failure
condition of a definition that passes its check is evaluated as it was checked
(`Definition.condition_evaluated`).
-/

namespace Automation

open Text

/-! ## Paths -/

/-- The segments of a path that starts in a context: at the trigger, at a variable of the
environment, at a step, or at the loop. -/
inductive Context.Rooted : List String → Prop
  | trigger (rest : List String) : Rooted ("trigger" :: rest)
  | env (name : String) : Rooted ["env", name]
  | steps (reference : String) (rest : List String) : Rooted ("steps" :: reference :: rest)
  | loop (rest : List String) : Rooted ("loop" :: rest)

namespace Path

/-- Nothing but a dot or a bracket ends a segment. -/
theorem segmentsFrom_plain {current cs : List Char} (hne : current ++ cs ≠ [])
    (h : ∀ c ∈ cs, c ≠ '.' ∧ c ≠ '[') : segmentsFrom current cs = [current ++ cs] := by
  rw [← List.append_nil cs, segmentsFrom_append h, List.append_nil]
  exact push_of_ne_nil hne []

end Path

namespace Condition

/-- The characters of names are neither dots nor brackets. -/
theorem Form.isNameChar_plain {c : Char} (h : isNameChar c = true) : c ≠ '.' ∧ c ≠ '[' := by
  constructor
  · rintro rfl
    cases h
  · rintro rfl
    cases h

/-- A segment starts with a character of a name. -/
theorem Form.Segment.head {cs : List Char} (h : Form.Segment cs) :
    ∃ c rest, cs = c :: rest ∧ isNameChar c = true := by
  cases h with
  | @mk name indexes hne hname _ =>
    cases name with
    | nil => exact absurd rfl hne
    | cons c name => exact ⟨c, name ++ indexes, rfl, hname c (List.mem_cons_self ..)⟩

/-- What starts with a segment has a first segment. -/
theorem Form.exists_segments {cs : List Char} (h : Form.Listed ['.'] Form.Segment cs) :
    ∃ reference rest, Path.segments cs = reference :: rest := by
  have hhead : ∃ c rest, cs = c :: rest ∧ isNameChar c = true := by
    cases h with
    | one hfirst => exact hfirst.head
    | cons hfirst =>
      obtain ⟨c, rest, rfl, hc⟩ := hfirst.head
      exact ⟨c, _, rfl, hc⟩
  obtain ⟨c, rest, rfl, hc⟩ := hhead
  obtain ⟨hdot, hbracket⟩ := isNameChar_plain hc
  obtain ⟨more, others, hmore⟩ := Path.exists_segmentsFrom [c] (by simp) rest
  have hgo : Path.segmentsFrom [] (c :: rest) = Path.segmentsFrom [c] rest :=
    Path.segmentsFrom_cons hdot hbracket [] rest
  exact ⟨_, others.map String.ofList, by rw [Path.segments, hgo, hmore]; rfl⟩

/-- The segments of an accepted path start in a context. -/
theorem Form.Path.rooted {cs : List Char} (h : Form.Path cs) :
    Context.Rooted (Automation.Path.segments cs) := by
  cases h with
  | trigger => exact .trigger []
  | loop => exact .loop []
  | @env name hne hname =>
    have hsegments : Automation.Path.segments ("env".toList ++ '.' :: name) =
        "env" :: Automation.Path.segments name := rfl
    have hplain : Automation.Path.segmentsFrom [] name = [name] :=
      Path.segmentsFrom_plain hne fun c hc => isNameChar_plain (hname c hc)
    rw [hsegments, Automation.Path.segments, hplain]
    exact .env _
  | @below root rest hroot hrest =>
    simp only [List.mem_cons, List.not_mem_nil, or_false] at hroot
    rcases hroot with rfl | rfl | rfl
    · exact .trigger (Automation.Path.segments rest)
    · obtain ⟨reference, others, hsegments⟩ := Form.exists_segments hrest
      have hsteps : Automation.Path.segments ("steps".toList ++ '.' :: rest) =
          "steps" :: Automation.Path.segments rest := rfl
      rw [hsteps, hsegments]
      exact .steps reference others
    · exact .loop (Automation.Path.segments rest)

/-! ## Operands -/

/-- What an operand that is a literal or a path resolves to in a context: the value of the JSON
text, or what the path leads to from its root, and null if that is nothing. -/
inductive Resolves (ctx : Context) (operand : List Char) : Json → Prop
  | literal {v : Json} (h : Json.ofChars? (trim operand) = some v) : Resolves ctx operand v
  | path (h : isPath (trim operand) = true)
      (hroot : Context.Rooted (Path.segments (trim operand))) :
      Resolves ctx operand ((ctx.lookupSegments? (Path.segments (trim operand))).getD .null)

/-- An operand that is accepted resolves as the literal or the path that it is. -/
theorem resolves_of_check (ctx : Context) {operand : List Char}
    (h : checkOperand operand = .ok ()) : Resolves ctx operand (operandValue ctx operand) := by
  unfold checkOperand at h
  dsimp only at h
  split at h
  · cases h
  · split at h
    · next haccepted =>
      cases hliteral : literal? (trim operand) with
      | some v =>
        have hvalue : operandValue ctx operand = v := by rw [operandValue, hliteral]
        unfold literal? at hliteral
        split at hliteral
        · rw [hvalue]
          exact .literal hliteral
        · cases hliteral
      | none =>
        have hpath : isPath (trim operand) = true := by simpa [hliteral] using haccepted
        have hvalue := (Operand.path (trim operand) hpath).value_text ctx
        rw [Operand.text, Operand.value, operandValue_trim, Context.lookup?,
          String.toList_ofList, trim_trim] at hvalue
        rw [hvalue]
        exact .path hpath (Form.path_of_isPath hpath).rooted
    · cases h

/-! ## The operands of a tree -/

/-- The operands of a comparison, from the left. -/
def comparisonOperands : Comparison → List (List Char)
  | .includes left right | .unequal left right | .equal left right => [left, right]
  | .operand text => [text]

mutual

/-- The operands of a condition, from the left. -/
def operands : Condition → List (List Char)
  | .any parts | .all parts => operandsOf parts
  | .atom _ comparison => comparisonOperands comparison

/-- The operands of conditions one after the other. -/
def operandsOf : List Condition → List (List Char)
  | [] => []
  | part :: rest => operands part ++ operandsOf rest

end

/-- The check of a comparison looks at all its operands. -/
theorem comparisonOperands_of_check {comparison : Comparison}
    (h : checkComparison comparison = .ok ()) :
    ∀ operand ∈ comparisonOperands comparison, checkOperand operand = .ok () := by
  have hboth {left right : List Char}
      (h : checkOperand left = .ok () ∧ checkOperand right = .ok ()) :
      ∀ operand ∈ [left, right], checkOperand operand = .ok () :=
    List.forall_mem_cons.2 ⟨h.1, List.forall_mem_singleton.2 h.2⟩
  have hsides {left right : List Char} (h : checkSides left right = .ok ()) :
      checkOperand left = .ok () ∧ checkOperand right = .ok () := by
    unfold checkSides at h
    split at h
    · cases h
    · exact both_of_bind h
  cases comparison with
  | includes left right =>
    rw [checkComparison] at h
    split at h
    · cases h
    · exact hboth (both_of_bind h)
  | unequal left right => exact hboth (hsides h)
  | equal left right => exact hboth (hsides h)
  | operand text =>
    cases text with
    | nil => cases h
    | cons c text => exact List.forall_mem_singleton.2 h

mutual

/-- The check of a tree looks at all its operands. -/
theorem operands_of_check : ∀ (tree : Condition), checkTree tree = .ok () →
    ∀ operand ∈ tree.operands, checkOperand operand = .ok ()
  | .any parts, h | .all parts, h => operandsOf_of_check parts h
  | .atom _ _, h => comparisonOperands_of_check h

/-- The check of trees looks at all their operands. -/
theorem operandsOf_of_check : ∀ (parts : List Condition), checkParts parts = .ok () →
    ∀ operand ∈ operandsOf parts, checkOperand operand = .ok ()
  | [], _ => by simp [operandsOf]
  | part :: rest, h => by
    obtain ⟨hpart, hrest⟩ := both_of_bind h
    exact List.forall_mem_append.2 ⟨operands_of_check part hpart, operandsOf_of_check rest hrest⟩

end

/-! ## Evaluating with a log -/

section
variable {m : Type → Type} [Monad m] (value : List Char → m Json)

/-- `atomHolds` with any way of resolving operands, from the left. -/
def atomHoldsBy (cs : List Char) : m Bool :=
  match splitIncludes? cs with
  | some (left, right) => do return Json.includes (← value left) (← value right)
  | none =>
    match cutOuter? unequalMark cs with
    | some (left, right) => do return !Json.alike (← value left) (← value right)
    | none =>
      match cutOuter? equalMark cs with
      | some (left, right) => do return Json.alike (← value left) (← value right)
      | none => do return (← value cs).isTruthy

/-- `nodeHolds` with any way of resolving operands, which are resolved as far as they are needed. -/
def nodeHoldsBy : Nat → List Char → m Bool
  | 0, cs => atomHoldsBy value cs
  | fuel + 1, cs =>
    match split? orMark cs with
    | some found => found.anyM (nodeHoldsBy fuel)
    | none =>
      match split? andMark cs with
      | some found => found.allM (nodeHoldsBy fuel)
      | none => do
        let (negations, inner) := dropNegations cs.length (trimStart cs)
        return (negations % 2 == 1) != (← atomHoldsBy value (trim inner))

end

variable (ctx : Context)

/-- Writes an operand, without the blanks around it, down at the end of a log and resolves it. -/
def logged (operand : List Char) : StateM (List (List Char)) Json := do
  modify (· ++ [trim operand])
  return operandValue ctx operand

/-- Evaluates the text of a condition that is no script: its truth, and the operands that are
resolved for it, in order. -/
def evaluation (raw : String) : Bool × List (List Char) :=
  let expression := (normalize raw).toList
  (nodeHoldsBy (logged ctx) (expression.length + 1) expression).run []

/-- An evaluation with a log gives a truth, whatever has been logged before, and logs some of
certain operands, in order. -/
def Logs (evaluated : StateM (List (List Char)) Bool) (truth : Bool)
    (operands : List (List Char)) : Prop :=
  ∀ log, ∃ found, found.Sublist operands ∧ evaluated.run log = (truth, log ++ found)

/-- The operands of an inclusion have no blanks around them. -/
theorem trim_of_splitIncludes? {cs left right : List Char}
    (h : splitIncludes? cs = some (left, right)) : trim left = left ∧ trim right = right := by
  obtain ⟨⟨before, rest⟩, -, hsides⟩ := Option.map_eq_some_iff.1 h
  obtain ⟨rfl, rfl⟩ := Prod.mk.inj hsides
  exact ⟨trim_trim _, trim_trim _⟩

/-- A comparison logs all its operands. -/
theorem run_atomHoldsBy {cs : List Char} (hcs : trim cs = cs) (log : List (List Char)) :
    (atomHoldsBy (logged ctx) cs).run log =
      (comparisonHolds ctx (comparisonOf cs), log ++ comparisonOperands (comparisonOf cs)) := by
  rw [← atomHolds_eq, atomHolds, atomHoldsBy, comparisonOf]
  cases hincludes : splitIncludes? cs with
  | some sides =>
    obtain ⟨hleft, hright⟩ := trim_of_splitIncludes? hincludes
    simp only [logged, hleft, hright]
    rw [comparisonOperands, List.append_cons]
    rfl
  | none =>
    cases cutOuter? unequalMark cs with
    | some sides =>
      dsimp only
      rw [comparisonOperands, List.append_cons]
      rfl
    | none =>
      cases cutOuter? equalMark cs with
      | some sides =>
        dsimp only
        rw [comparisonOperands, List.append_cons]
        rfl
      | none =>
        simp only [logged, hcs]
        rfl

namespace Logs
variable {evaluated : StateM (List (List Char)) Bool} {truth : Bool} {operands : List (List Char)}

/-- Without an evaluation nothing is logged. -/
theorem pure (truth : Bool) (operands : List (List Char)) :
    Logs (Pure.pure truth) truth operands :=
  fun log => ⟨[], List.nil_sublist _, by rw [List.append_nil]; rfl⟩

/-- What is evaluated next logs after what has been logged. -/
theorem bind {next : Bool → StateM (List (List Char)) Bool} {last : Bool}
    {others : List (List Char)} (h : Logs evaluated truth operands)
    (hnext : Logs (next truth) last others) :
    Logs (evaluated >>= next) last (operands ++ others) := by
  intro log
  obtain ⟨first, hfirst, hrun⟩ := h log
  obtain ⟨second, hsecond, hrest⟩ := hnext (log ++ first)
  refine ⟨first ++ second, hfirst.append hsecond, ?_⟩
  rw [StateT.run_bind, hrun, ← List.append_assoc]
  exact hrest

section
variable {ctx} {holdsBy : List Char → StateM (List (List Char)) Bool}
  {tree : List Char → Condition} {found : List (List Char)}
  (h : ∀ part ∈ found, Logs (holdsBy part) ((tree part).holds ctx) (tree part).operands)
include h

/-- Alternatives are evaluated up to the first that holds. -/
theorem anyM : Logs (found.anyM holdsBy) (anyHolds ctx (found.map tree))
    (operandsOf (found.map tree)) := by
  induction found with
  | nil => exact .pure false []
  | cons part rest ih =>
    obtain ⟨hhere, hrest⟩ := List.forall_mem_cons.1 h
    rw [List.map_cons, anyHolds, operandsOf]
    refine hhere.bind ?_
    cases (tree part).holds ctx with
    | true => exact .pure true _
    | false => exact ih hrest

/-- Parts that all have to hold are evaluated up to the first that does not. -/
theorem allM : Logs (found.allM holdsBy) (allHold ctx (found.map tree))
    (operandsOf (found.map tree)) := by
  induction found with
  | nil => exact .pure true []
  | cons part rest ih =>
    obtain ⟨hhere, hrest⟩ := List.forall_mem_cons.1 h
    rw [List.map_cons, allHold, operandsOf]
    refine hhere.bind ?_
    cases (tree part).holds ctx with
    | true => exact ih hrest
    | false => exact .pure false _

end

end Logs

/-- The parts of a text that is split have no blanks around them. -/
theorem trim_of_split? {op cs : List Char} (hop : Plain op) {found : List (List Char)}
    (h : split? op cs = some found) : ∀ part ∈ found, trim part = part := by
  intro part hpart
  rw [(split?_eq_some hop.startsPlain h).1] at hpart
  exact trim_element hop (List.mem_filter.1 hpart).1

/-- Evaluating a text with a log gives the truth of its tree, and logs some of the tree's
operands. -/
theorem logs_nodeHoldsBy (fuel : Nat) {cs : List Char} (hcs : trim cs = cs) :
    Logs (nodeHoldsBy (logged ctx) fuel cs) ((ofCharsWithin fuel cs).holds ctx)
      (ofCharsWithin fuel cs).operands := by
  induction fuel generalizing cs with
  | zero =>
    intro log
    refine ⟨comparisonOperands (comparisonOf cs), List.Sublist.refl _, ?_⟩
    rw [nodeHoldsBy, run_atomHoldsBy ctx hcs, ofCharsWithin, holds]
    rw [show ((0 % 2 == 1) : Bool) = false from rfl, Bool.false_bne]
  | succ fuel ih =>
    rw [nodeHoldsBy, ofCharsWithin]
    cases hor : split? orMark cs with
    | some found =>
      have htrim := trim_of_split? plain_orMark hor
      exact .anyM fun part hpart => ih (htrim part hpart)
    | none =>
      cases hand : split? andMark cs with
      | some found =>
        have htrim := trim_of_split? plain_andMark hand
        exact .allM fun part hpart => ih (htrim part hpart)
      | none =>
        intro log
        refine ⟨_, List.Sublist.refl _, ?_⟩
        dsimp only
        rw [StateT.run_bind, run_atomHoldsBy ctx (trim_trim _)]
        rfl

/-- A condition that is neither empty nor a script is evaluated as with a log. -/
theorem condition_eq_evaluation (r : Resolver) {raw : String} (hne : normalize raw ≠ "")
    (hscript : Template.isScript (normalize raw) = false) :
    r.condition ctx raw = .ok (evaluation ctx raw).1 ∧
      (evaluation ctx raw).2.Sublist (ofChars (normalize raw).toList).operands := by
  have hlogs := logs_nodeHoldsBy ctx ((normalize raw).toList.length + 1) (trim_normalize raw)
  obtain ⟨found, hfound, hrun⟩ := hlogs []
  rw [condition_eq_holds ctx r hne hscript, ofChars, evaluation, hrun, List.nil_append]
  dsimp only
  exact ⟨rfl, hfound⟩

end Condition

namespace Definition

/-- A failure condition of a definition that passes its check is evaluated as it was checked, unless
it is empty or a script. The loop hands the normalized text on, which is accepted, and which
normalizing again does not change. In every context the operands that are resolved are some of those
of that text, which all are accepted: each is a literal that can be read or a path from a root of
the context, and resolves as such. -/
theorem condition_evaluated {d : Definition} {registry : Registry} {warnings : List Warning}
    {step : Step} {loop : Loop} {text : String} (hcheck : d.check registry = .ok warnings)
    (hstep : step ∈ d.steps) (hloop : step.loop = some loop)
    (htext : loop.failureCondition = some text) (hne : Condition.normalize text ≠ "")
    (hscript : Template.isScript (Condition.normalize text) = false) :
    let condition := Condition.normalize text
    let tree := Condition.ofChars condition.toList
    loop.condition? = some condition ∧ Condition.check condition = .ok () ∧
    Condition.normalize condition = condition ∧
    (∀ operand ∈ tree.operands, Condition.checkOperand operand = .ok ()) ∧
    ∀ (r : Resolver) (ctx : Context),
      let evaluated := Condition.evaluation ctx condition
      r.condition ctx condition = .ok evaluated.1 ∧
      evaluated.2.Sublist tree.operands ∧
      ∀ operand ∈ evaluated.2,
        Condition.Resolves ctx operand (Condition.operandValue ctx operand) := by
  intro condition tree
  obtain ⟨seen, hstep⟩ := checkSteps_step (check_eq_ok_iff.1 hcheck).1 hstep
  obtain ⟨-, -, -, hloops⟩ := Step.check_eq_ok_iff.1 hstep
  have hcondition : loop.condition? = some condition := by
    rw [Loop.condition?, htext, Condition.normalize?, Option.map_some, Option.filter_some]
    simp [condition, hne]
  have haccepted := Loop.condition_of_check (hloops loop hloop) hcondition
  have hsame := Condition.normalize_accepted haccepted hscript
  have htree := Condition.tree_of_check haccepted hscript
  rw [Condition.trim_normalize] at htree
  have hoperands := Condition.operands_of_check tree htree
  refine ⟨hcondition, haccepted, hsame, hoperands, fun r ctx => ?_⟩
  -- The evaluator normalizes once more, so what is known of the text is read off its second form.
  rw [← hsame] at hne hscript
  obtain ⟨hholds, hfound⟩ := Condition.condition_eq_evaluation ctx r hne hscript
  rw [hsame] at hfound
  exact ⟨hholds, hfound, fun operand hoperand =>
    Condition.resolves_of_check ctx (hoperands operand (hfound.subset hoperand))⟩

/-- A loop that ends when an output is not the item, or when there have been two. -/
theorem condition_evaluated_two :
    let text := "$\x7b\x7b loop.output.value != loop.currentItem || loop.index == 1 \x7d\x7d"
    let loop : Loop := { input := .string "a,b,c", failureCondition := some text }
    let step : Step := { id := "x", kind := .collect, loop := some loop }
    let d : Definition :=
      { id := "a", tenant := ⟨"t"⟩, trigger := { event := .cron }, steps := [step] }
    (∃ warnings, d.check .all = .ok warnings) ∧ Condition.normalize text ≠ "" ∧
      Template.isScript (Condition.normalize text) = false ∧
      ∀ (r : Resolver) (ctx : Context), r.condition ctx (Condition.normalize text) =
        .ok (Condition.evaluation ctx (Condition.normalize text)).1 := by
  intro text loop step d
  have hcheck : ∃ warnings, d.check .all = .ok warnings := by
    have hok : (d.check .all).isOk = true := by decide +kernel
    cases h : d.check .all with
    | ok warnings => exact ⟨warnings, rfl⟩
    | error fault => rw [h] at hok; cases hok
  have hne : Condition.normalize text ≠ "" := by decide +kernel
  have hscript : Template.isScript (Condition.normalize text) = false := by decide +kernel
  obtain ⟨warnings, hd⟩ := hcheck
  have hevaluated := condition_evaluated hd (List.mem_singleton_self step) rfl rfl hne hscript
  exact ⟨⟨warnings, hd⟩, hne, hscript, fun r ctx => (hevaluated.2.2.2.2 r ctx).1⟩

end Definition

end Automation
