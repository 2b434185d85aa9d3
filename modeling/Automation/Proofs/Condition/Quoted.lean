import Automation.Proofs.Condition.Meaning

/-!
# Texts in single quotes

Evaluating a condition, an operand may also be a text in single quotes (`Condition.Term`). The scans
of conditions know such quotes, and any two terms with `==` or `!=` between them are compared by
their values. The check knows nothing of single quotes: it accepts a comparison only if neither of
its terms is quoted, and refuses the first one that is (`Condition.condition_terms`).
-/

namespace Automation.Condition

open Text

/-- What may stand for a value where a condition is evaluated: an operand, or a text without single
quotes between two of them. -/
inductive Term where
  | plain (operand : Operand)
  | quoted (body : List Char) (bare : '\'' ∉ body)

namespace Term

/-- The text of a term. -/
def text : Term → List Char
  | plain o => o.text
  | quoted body _ => '\'' :: (body ++ ['\''])

/-- The value of a term. -/
def value (ctx : Context) : Term → Json
  | plain o => o.value ctx
  | quoted body _ => .string (String.ofList body)

/-- The term is in single quotes. -/
def isQuoted : Term → Bool
  | plain _ => false
  | quoted .. => true

/-- What is in single quotes is sealed, whatever stands between them. -/
theorem isSealed (t : Term) : Sealed t.text := by
  cases t with
  | plain o => exact o.isSealed
  | quoted body bare =>
    have hquote : Solid ['\''] := solid_of_any (by simp) (by decide)
    exact
      { solid := hquote.append body hquote
        passes := fun _ _ => passes_quoted _ (.inl rfl) bare _
        avoids := fun v => .cons (by decide) _
        not_script := fun _ => rfl }

/-- A text in single quotes is no literal. -/
theorem not_literal_quoted (cs : List Char) : literal? ('\'' :: cs) = none := by
  have hlooks : looksLikeLiteral ('\'' :: cs) = false := by
    refine Bool.eq_false_iff.2 fun h => ?_
    obtain ⟨c, rest, heq, hc⟩ := looksLikeLiteral_head h
    cases heq
    exact absurd hc (by decide)
  rw [literal?, hlooks]
  rfl

/-- A text in single quotes is no path. -/
theorem not_path_quoted (cs : List Char) : isPath ('\'' :: cs) = false := by
  refine Bool.eq_false_iff.2 fun h => ?_
  have hchar := (isPath_shape h).2.2 '\'' (List.mem_cons_self ..)
  exact absurd hchar (by decide)

/-- The text of a term has its value. -/
theorem value_text (t : Term) (ctx : Context) : operandValue ctx t.text = t.value ctx := by
  cases t with
  | plain o => exact o.value_text ctx
  | quoted body bare =>
    have hopen : stripStart? ['\''] ('\'' :: (body ++ ['\''])) = some (body ++ ['\'']) := rfl
    unfold operandValue
    rw [(quoted body bare).isSealed.solid.trim_eq, text]
    dsimp only
    rw [not_literal_quoted, hopen, Option.bind_some, stripEnd?_append]
    rfl

/-- The check refuses the text of a term if it is in single quotes. -/
theorem check_text (t : Term) :
    checkOperand t.text =
      if t.isQuoted then .error (.unsupported (String.ofList t.text)) else .ok () := by
  cases t with
  | plain o => exact o.check_text
  | quoted body bare =>
    unfold checkOperand
    rw [(quoted body bare).isSealed.solid.trim_eq, text]
    dsimp only
    rw [not_literal_quoted, not_path_quoted]
    rfl

end Term

namespace Relation

variable (relation : Relation)

/-- The relation holds of two values. -/
def holds : Relation → Json → Json → Bool
  | unequal, v, w => !v.alike w
  | equal, v, w => v.alike w

/-- A comparison of terms has the meaning of their values. -/
theorem holds_comparison (ctx : Context) (left right : Term) :
    comparisonHolds ctx (relation.comparison left.text right.text) =
      relation.holds (left.value ctx) (right.value ctx) := by
  cases relation with
  | unequal | equal => rw [comparison, comparisonHolds, left.value_text, right.value_text, holds]

/-- A comparison of terms is refused for the first one in single quotes. -/
theorem check_comparison (left right : Term) :
    checkComparison (relation.comparison left.text right.text) =
      if left.isQuoted then .error (.unsupported (String.ofList left.text))
      else if right.isQuoted then .error (.unsupported (String.ofList right.text))
      else .ok () := by
  have hsides : checkComparison (relation.comparison left.text right.text) =
      checkSides left.text right.text := by
    cases relation with
    | unequal | equal => rfl
  have hleft := left.isSealed.solid.ne_nil
  have hright := right.isSealed.solid.ne_nil
  rw [hsides, checkSides, if_neg (by simp [hleft, hright]), left.check_text, right.check_text]
  cases left.isQuoted with
  | true => rfl
  | false => rfl

/-- Two terms with `!=` or `==` between them are read as a comparison without negations. -/
theorem ofChars_sides (left right : Term) (before after : Space) :
    ofChars (sidesOf relation.mark left.text before after right.text) =
      .atom 0 (relation.comparison left.text right.text) := by
  have hsolid := solid_sidesOf relation.mark left.isSealed.solid before after right.isSealed.solid
  have hpasses : ∀ op ∈ [orMark, andMark],
      Passes op (sidesOf relation.mark left.text before after right.text) [] := by
    have hsub : ∀ op ∈ [orMark, andMark], op ∈ includesMarker :: outerMarks := by decide
    exact fun op hop => relation.passes_sides left.isSealed before after right.isSealed
      (hsub op hop) ends_nil
  have havoids : Avoids ['!'] (sidesOf relation.mark left.text before after right.text) :=
    (left.isSealed.avoids _).mono (by simp)
  have hdrop := dropNegations_of_avoids havoids
    (sidesOf relation.mark left.text before after right.text).length
  rw [ofChars, ofCharsWithin_atom hsolid hpasses hdrop hsolid,
    relation.comparisonOf_sides left.isSealed before after right.isSealed]

end Relation

/-- Two terms are compared by their values, with whatever blanks the comparison is written and
whether or not it is written as a template. The check accepts the comparison if neither of the terms
is in single quotes, and else refuses the first one that is. -/
theorem condition_terms (r : Resolver) (ctx : Context) (w : Wrapping) (relation : Relation)
    (left right : Term) (before after : Space) :
    let text := sidesOf relation.mark left.text before after right.text
    r.condition ctx (String.ofList text) =
        .ok (relation.holds (left.value ctx) (right.value ctx)) ∧
      r.condition ctx (String.ofList (w.print text)) =
        .ok (relation.holds (left.value ctx) (right.value ctx)) ∧
      check (String.ofList text) =
        if left.isQuoted then .error (.unsupported (String.ofList left.text))
        else if right.isQuoted then .error (.unsupported (String.ofList right.text))
        else .ok () := by
  intro text
  have hsolid : Solid text :=
    solid_sidesOf relation.mark left.isSealed.solid before after right.isSealed.solid
  have hopener : Avoids ['$'] text := (left.isSealed.avoids _).mono (by simp)
  have hscript : stripStart? Template.scriptMarker text = none := left.isSealed.not_script _
  have htree : ofChars text = .atom 0 (relation.comparison left.text right.text) :=
    relation.ofChars_sides left right before after
  have hholds : (ofChars text).holds ctx =
      relation.holds (left.value ctx) (right.value ctx) := by
    rw [htree, Condition.holds, relation.holds_comparison]
    exact Bool.false_bne _
  have hforeign : ∀ op ∈ foreignMarks, Passes op text [] := by
    have hsub : ∀ op ∈ foreignMarks, op ∈ includesMarker :: outerMarks := by decide
    exact fun op hop => relation.passes_sides left.isSealed before after right.isSealed
      (hsub op hop) ends_nil
  refine ⟨?_, ?_, ?_⟩
  · rw [condition_of_normalize r ctx hsolid hscript (normalize_ofList hsolid hopener), hholds]
  · rw [condition_of_normalize r ctx hsolid hscript (normalize_print w hsolid hopener), hholds]
  · rw [check_ofList hsolid hscript hforeign, htree, checkTree]
    exact relation.check_comparison left right

/-- A comparison with a text in single quotes is refused, and it is true where it is evaluated. -/
theorem condition_terms_quoted :
    let ctx : Context := { tenant := ⟨"t"⟩, trigger := .object [("a", .string "x")] }
    check "trigger.a == 'x'" = .error (.unsupported "'x'") ∧
      ({} : Resolver).condition ctx "trigger.a == 'x'" = .ok true := by
  intro ctx
  have hholds : (({} : Resolver).condition ctx "trigger.a == 'x'").toOption = some true := by
    decide +kernel
  refine ⟨by decide +kernel, ?_⟩
  cases h : ({} : Resolver).condition ctx "trigger.a == 'x'" with
  | error fault =>
    rw [h] at hholds
    cases hholds
  | ok holds =>
    rw [h] at hholds
    exact congrArg Except.ok (Option.some.inj hholds)

end Automation.Condition
