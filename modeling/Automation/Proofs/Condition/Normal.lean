import Automation.Proofs.Condition.Accepted

/-!
# Normalizing a condition twice

A failure condition is normalized when a loop is checked or starts, and once more when it is
evaluated. In general the second time may drop another template, but not if the condition was
accepted: a template starts with a dollar sign, while no operand, operator or negation does
(`Condition.checkTree_dollar`). So what is evaluated is the text that was checked
(`Condition.normalize_accepted`).
-/

namespace Automation.Condition

open Text

/-! ## Texts that start with a dollar sign -/

variable {op cs : List Char}

/-- What starts with a dollar sign still does when it is trimmed. -/
theorem trim_dollar (h : cs.head? = some '$') : (trim cs).head? = some '$' :=
  head?_trim h (by decide)

/-- No literal and no path starts with a dollar sign. -/
theorem checkOperand_dollar (h : cs.head? = some '$') : checkOperand cs ≠ .ok () := by
  have hhead := trim_dollar h
  intro hok
  unfold checkOperand at hok
  dsimp only at hok
  split at hok
  · cases hok
  · split at hok
    · next haccepted =>
      rcases Bool.or_eq_true_iff.1 haccepted with hliteral | hpath
      · have hlooks : looksLikeLiteral (trim cs) = true := by
          unfold literal? at hliteral
          split at hliteral
          · assumption
          · cases hliteral
        obtain ⟨c, rest, heq, hc⟩ := looksLikeLiteral_head hlooks
        rw [heq] at hhead
        cases hhead
        revert hc
        decide
      · obtain ⟨⟨root, hroot, rest, heq⟩, -, -⟩ := isPath_shape hpath
        rw [heq] at hhead
        simp only [roots, List.mem_cons, List.not_mem_nil, or_false] at hroot
        rcases hroot with rfl | rfl | rfl | rfl <;> cases hhead
    · cases hok

/-- What stands before an operator starts as the whole text does. -/
theorem head?_before (hop : startsPlain op = true) (hmark : op.head? ≠ some '$')
    {before rest : List Char} (hcut : cutOuter? op cs = some (before, rest))
    (h : cs.head? = some '$') : before.head? = some '$' := by
  obtain ⟨rfl, -, -⟩ := cutOuter?_eq_some hop hcut
  cases before with
  | nil =>
    rw [List.nil_append, head?_append_of_ne (ne_nil_of_startsPlain hop)] at h
    exact absurd h hmark
  | cons c before => exact h

/-- One of the elements of a text that starts with a dollar sign does so too. -/
theorem exists_element_dollar (hop : startsPlain op = true) (hmark : op.head? ≠ some '$')
    (h : cs.head? = some '$') : ∃ e ∈ elements op cs, e.head? = some '$' := by
  unfold elements
  cases cs.length with
  | zero => exact ⟨trim cs, List.mem_singleton_self _, trim_dollar h⟩
  | succ fuel =>
    rw [elementsWithin]
    split
    · next before rest hcut =>
      exact ⟨trim before, List.mem_cons_self .., trim_dollar (head?_before hop hmark hcut h)⟩
    · exact ⟨trim cs, List.mem_singleton_self _, trim_dollar h⟩

/-- One of the parts into which a text that starts with a dollar sign is split does so too. -/
theorem exists_part_dollar (hop : startsPlain op = true) (hmark : op.head? ≠ some '$')
    (h : cs.head? = some '$') {found : List (List Char)} (hsplit : split? op cs = some found) :
    ∃ e ∈ found, e.head? = some '$' := by
  obtain ⟨rfl, -⟩ := split?_eq_some hop hsplit
  obtain ⟨e, he, hhead⟩ := exists_element_dollar hop hmark h
  refine ⟨e, List.mem_filter.2 ⟨he, ?_⟩, hhead⟩
  cases e with
  | nil => cases hhead
  | cons c e => rfl

/-! ## They are not accepted -/

/-- No comparison is accepted whose left side starts with a dollar sign. -/
theorem checkSides_dollar {left right : List Char} (h : left.head? = some '$') :
    checkSides left right ≠ .ok () := by
  intro hok
  unfold checkSides at hok
  split at hok
  · cases hok
  · exact checkOperand_dollar h (both_of_bind hok).1

/-- No comparison is accepted that starts with a dollar sign. -/
theorem checkComparison_dollar (h : cs.head? = some '$') :
    checkComparison (comparisonOf cs) ≠ .ok () := by
  unfold comparisonOf
  split
  · next left right hsplit =>
    obtain ⟨⟨l, rest⟩, hcut, heq⟩ := Option.map_eq_some_iff.1 hsplit
    obtain ⟨rfl, rfl⟩ := Prod.mk.inj heq
    have hleft := trim_dollar (head?_before rfl (by decide) hcut h)
    intro hok
    rw [checkComparison] at hok
    split at hok
    · cases hok
    · exact checkOperand_dollar hleft (both_of_bind hok).1
  · split
    · next l r hcut =>
      exact checkSides_dollar (trim_dollar (head?_before rfl (by decide) hcut h))
    · split
      · next l r hcut =>
        exact checkSides_dollar (trim_dollar (head?_before rfl (by decide) hcut h))
      · cases cs with
        | nil => cases h
        | cons c cs => exact checkOperand_dollar h

/-- What starts with a dollar sign has no negations in front. -/
theorem dropNegations_dollar (fuel : Nat) (h : cs.head? = some '$') :
    dropNegations fuel cs = (0, cs) := by
  cases cs with
  | nil => cases h
  | cons c cs =>
    cases h
    cases fuel <;> rfl

/-- The tree of a text that starts with a dollar sign is not accepted: its first operand starts with
one. -/
theorem checkTree_dollar (fuel : Nat) (h : cs.head? = some '$') :
    checkTree (ofCharsWithin fuel cs) ≠ .ok () := by
  induction fuel generalizing cs with
  | zero => exact checkComparison_dollar h
  | succ fuel ih =>
    rw [ofCharsWithin]
    split
    · next found hsplit =>
      obtain ⟨e, he, hhead⟩ := exists_part_dollar rfl (by decide) h hsplit
      exact fun hok => ih hhead (checkParts_eq_ok hok _ (List.mem_map_of_mem he))
    · split
      · next found hsplit =>
        obtain ⟨e, he, hhead⟩ := exists_part_dollar rfl (by decide) h hsplit
        exact fun hok => ih hhead (checkParts_eq_ok hok _ (List.mem_map_of_mem he))
      · have hstart : trimStart cs = cs := by
          refine trimStart_append blanks_nil fun c hc => ?_
          rw [h] at hc
          cases hc
          decide
        rw [hstart, dropNegations_dollar _ h]
        exact checkComparison_dollar (trim_dollar h)

/-! ## Normalizing -/

/-- What has been unwrapped has no blanks around it. -/
theorem trim_unwrap (cs : List Char) : trim (unwrap cs) = unwrap cs := by
  unfold unwrap
  dsimp only
  split
  · exact trim_trim _
  · exact trim_trim _

/-- A normalized condition has no blanks around it. -/
theorem trim_normalize (s : String) : trim (normalize s).toList = (normalize s).toList := by
  rw [normalize, String.toList_ofList, trim_unwrap]

/-- Normalizing a condition a second time changes nothing if the first time has given one that is
accepted and no script. -/
theorem normalize_accepted {s : String} (h : check (normalize s) = .ok ())
    (hscript : Template.isScript (normalize s) = false) :
    normalize (normalize s) = normalize s := by
  have htree := tree_of_check h hscript
  rw [trim_normalize] at htree
  have hplain : stripStart? Template.opener (normalize s).toList = none := by
    refine Option.eq_none_iff_forall_ne_some.2 fun rest hrest => ?_
    refine checkTree_dollar _ ?_ htree
    rw [stripStart?_eq_some_iff.1 hrest]
    rfl
  have hunwrap : unwrap (normalize s).toList = (normalize s).toList := by
    unfold unwrap
    dsimp only
    rw [trim_normalize, hplain]
  rw [normalize, hunwrap, String.ofList_toList]

/-- Of a template inside a template each time drops one. -/
example : normalize "$\x7b\x7b $\x7b\x7bx\x7d\x7d \x7d\x7d" = "$\x7b\x7bx\x7d\x7d" ∧
    normalize "$\x7b\x7bx\x7d\x7d" = "x" := by
  decide +kernel

end Automation.Condition
