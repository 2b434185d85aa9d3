import Automation.Proofs.Condition.Form

/-!
# What the check of conditions accepts

The check of conditions splits a text at the operators that count, and drops what is empty. It also
takes an inclusion without its closing parenthesis, or with its marker repeated. A text is complete
if nothing is dropped and no inclusion is so written (`Condition.isComplete`). A complete text that
the check accepts has the form of a condition (`Condition.check_form`), and there are others which
it accepts too and which do not (`Condition.check_incomplete`).
-/

namespace Automation.Condition

open Text

/-- An inclusion has its marker once and closes its parenthesis. -/
def isClosed (cs : List Char) : Bool :=
  match cutOuter? includesMarker cs with
  | none => true
  | some (_, rest) => !startsWith includesMarker rest && (trim rest).getLast? == some ')'

/-- No disjunct and no conjunct of a text is empty, and its inclusions are closed. -/
def isComplete (cs : List Char) : Bool :=
  (elements orMark cs).all fun disjunct =>
    (elements andMark disjunct).all fun conjunct => !conjunct.isEmpty && isClosed conjunct

/-! ## Comparisons -/

/-- Two checks succeed one after the other if both do. -/
theorem both_of_bind {first second : Except Fault Unit}
    (h : (first >>= fun _ => second) = .ok ()) : first = .ok () ∧ second = .ok () := by
  cases first with
  | error fault => cases h
  | ok => exact ⟨rfl, h⟩

/-- Both sides of an accepted comparison are operands, perhaps between blanks. -/
theorem sides_of_check {left right : List Char} (h : checkSides left right = .ok ()) :
    Form.Spaced Form.Operand left ∧ Form.Spaced Form.Operand right := by
  unfold checkSides at h
  split at h
  · cases h
  · exact (both_of_bind h).imp Form.operand_of_check Form.operand_of_check

/-- Blanks around an operand do not count. -/
theorem spaced_of_trim {cs : List Char} (h : Form.Spaced Form.Operand (trim cs)) :
    Form.Spaced Form.Operand cs := by
  rwa [Form.Spaced, trim_trim] at h

/-- The argument of a closed inclusion is what stands before the closing parenthesis. -/
theorem splitIncludes?_closed {cs left right : List Char} (hclosed : isClosed cs = true)
    (hsolid : Solid cs) (h : splitIncludes? cs = some (left, right)) :
    ∃ l r, cs = l ++ (includesMarker ++ (r ++ [')'])) ∧ left = trim l ∧ right = trim r := by
  obtain ⟨⟨l, rest⟩, hcut, heq⟩ := Option.map_eq_some_iff.1 h
  obtain ⟨rfl, rfl⟩ := Prod.mk.inj heq
  obtain ⟨hcs, -, -⟩ := cutOuter?_eq_some rfl hcut
  rw [isClosed, hcut] at hclosed
  obtain ⟨hmarker, hlast⟩ := Bool.and_eq_true_iff.1 hclosed
  obtain ⟨argument, hargument⟩ := List.getLast?_eq_some_iff.1 (beq_iff_eq.1 hlast)
  obtain ⟨b, d, hb, hd, hrest, -⟩ := exists_around_trim rest
  have hsplit : cs = l ++ (includesMarker ++ (b ++ trim rest)) ++ d := by
    simp only [List.append_assoc, ← hrest]
    exact hcs
  have hnone : d = [] := hsolid.eq_nil_of_blanks hsplit hd
  refine ⟨l, b ++ argument, ?_, rfl, ?_⟩
  · rw [hsplit, hnone, hargument, List.append_nil, List.append_assoc]
  · have hnone : stripStart? includesMarker rest = none := by simpa [startsWith] using hmarker
    rw [stripStartAll_of_none hnone, hargument, stripEnd?_append, Option.getD_some, trim_append hb]

/-- An accepted operand alone is a test. -/
theorem test_of_operand {cs : List Char} (hsolid : Solid cs)
    (h : checkComparison (.operand cs) = .ok ()) : Form.Test cs := by
  have hoperand : checkOperand cs = .ok () := by
    cases cs with
    | nil => cases h
    | cons c cs => exact h
  have hform := Form.operand_of_check hoperand
  rw [Form.Spaced, hsolid.trim_eq] at hform
  exact .operand hform

/-- A text whose comparison is accepted is a test. -/
theorem test_of_check {cs : List Char} (hclosed : isClosed cs = true) (hsolid : Solid cs)
    (h : checkComparison (comparisonOf cs) = .ok ()) : Form.Test cs := by
  unfold comparisonOf at h
  split at h
  · next left right hsplit =>
    obtain ⟨l, r, rfl, rfl, rfl⟩ := splitIncludes?_closed hclosed hsolid hsplit
    rw [checkComparison] at h
    split at h
    · cases h
    · obtain ⟨hleft, hright⟩ := both_of_bind h
      exact .includes (spaced_of_trim (Form.operand_of_check hleft))
        (spaced_of_trim (Form.operand_of_check hright))
  · split at h
    · next left right hcut =>
      obtain ⟨rfl, -, -⟩ := cutOuter?_eq_some rfl hcut
      obtain ⟨hleft, hright⟩ := sides_of_check h
      exact .unequal (spaced_of_trim hleft) (spaced_of_trim hright)
    · split at h
      · next left right hcut =>
        obtain ⟨rfl, -, -⟩ := cutOuter?_eq_some rfl hcut
        obtain ⟨hleft, hright⟩ := sides_of_check h
        exact .equal (spaced_of_trim hleft) (spaced_of_trim hright)
      · exact test_of_operand hsolid h

/-! ## Negations -/

/-- What is below a negation has its inclusions closed if the whole has. -/
theorem isClosed_negation {cs : List Char} (h : isClosed ('!' :: cs) = true) :
    isClosed (trimStart cs) = true := by
  obtain ⟨b, hblanks, hcs⟩ := exists_trimStart cs
  have hcut : cutOuter? includesMarker ('!' :: cs) =
      (cutOuter? includesMarker (trimStart cs)).map (prepend ('!' :: b)) := by
    have hpasses : Passes includesMarker ('!' :: b) (trimStart cs) :=
      .cons rfl rfl (blanks_passes hblanks (by decide) _)
    have hscan := hpasses 0
    rwa [List.cons_append, ← hcs] at hscan
  unfold isClosed at h ⊢
  rw [hcut] at h
  cases hrest : cutOuter? includesMarker (trimStart cs) with
  | none => rfl
  | some cut =>
    rw [hrest] at h
    exact h

/-- A text whose comparison is accepted below its negations is an atom. -/
theorem atom_of_check (fuel : Nat) {cs : List Char} (hclosed : isClosed cs = true)
    (hsolid : Solid cs)
    (h : checkComparison (comparisonOf (trim (dropNegations fuel cs).2)) = .ok ()) :
    Form.Atom cs := by
  induction fuel generalizing cs with
  | zero =>
    rw [dropNegations, hsolid.trim_eq] at h
    exact .test (test_of_check hclosed hsolid h)
  | succ fuel ih =>
    unfold dropNegations at h
    split at h
    · next rest =>
      split at h
      · rw [hsolid.trim_eq] at h
        exact .test (test_of_check hclosed hsolid h)
      · have hlast : ∀ c ∈ rest.getLast?, isBlank c = false := by
          intro c hc
          refine hsolid.last c ?_
          cases rest with
          | nil => cases hc
          | cons d rest => rwa [List.getLast?_cons_cons]
        dsimp only at h
        by_cases hempty : trimStart rest = []
        · rw [hempty] at h
          cases fuel <;> cases h
        · have hsolid' : Solid (trimStart rest) := by
            rw [← trim_eq_trimStart hlast] at hempty ⊢
            exact solid_trim hempty
          exact .not (ih (isClosed_negation hclosed) hsolid' h)
    · rw [hsolid.trim_eq] at h
      exact .test (test_of_check hclosed hsolid h)

/-! ## Lists -/

/-- Trees that are accepted one after the other are all accepted. -/
theorem checkParts_eq_ok {trees : List Condition} (h : checkParts trees = .ok ()) :
    ∀ tree ∈ trees, checkTree tree = .ok () := by
  induction trees with
  | nil => simp
  | cons tree rest ih =>
    obtain ⟨htree, hrest⟩ := both_of_bind h
    exact List.forall_mem_cons.2 ⟨htree, ih hrest⟩

/-- A text is the list of its elements. -/
theorem listed_of_elements {op cs : List Char} {P : List Char → Prop}
    (hop : startsPlain op = true) (h : ∀ e ∈ elements op cs, P e) :
    Form.Listed op (Form.Spaced P) cs := by
  unfold elements at h
  generalize cs.length = fuel at h
  induction fuel generalizing cs with
  | zero => exact .one (h _ (List.mem_singleton_self _))
  | succ fuel ih =>
    rw [elementsWithin] at h
    split at h
    · next before rest hcut =>
      obtain ⟨rfl, -, -⟩ := cutOuter?_eq_some hop hcut
      obtain ⟨hbefore, hrest⟩ := List.forall_mem_cons.1 h
      exact .cons hbefore (ih hrest)
    · exact .one (h _ (List.mem_singleton_self _))

/-- A text without outer `||` and `&&` is an atom if it is accepted. -/
theorem conjunct_of_check (fuel : Nat) {cs : List Char} (hor : cutOuter? orMark cs = none)
    (hand : cutOuter? andMark cs = none) (hclosed : isClosed cs = true) (hsolid : Solid cs)
    (h : checkTree (ofCharsWithin fuel cs) = .ok ()) : Form.Atom cs := by
  cases fuel with
  | zero => exact .test (test_of_check hclosed hsolid h)
  | succ fuel =>
    have hstart : trimStart cs = cs := trimStart_append blanks_nil hsolid.head
    rw [ofCharsWithin, split?_of_none rfl hor, split?_of_none rfl hand,
      hstart] at h
    exact atom_of_check cs.length hclosed hsolid h

/-- A text without outer `||` and with complete conjuncts is a list of these if it is accepted. -/
theorem disjunct_of_check (fuel : Nat) {cs : List Char} (hor : cutOuter? orMark cs = none)
    (hcomplete : ∀ e ∈ elements andMark cs, e ≠ [] ∧ isClosed e = true) (hsolid : Solid cs)
    (h : checkTree (ofCharsWithin (fuel + 1) cs) = .ok ()) : Form.AllOf cs := by
  cases hsplit : split? andMark cs with
  | none =>
    have hand := cutOuter?_of_split?_none rfl hsplit fun e he => (hcomplete e he).1
    have hclosed : isClosed cs = true := by
      refine (hcomplete cs ?_).2
      rw [elements_of_none hand, hsolid.trim_eq]
      exact List.mem_singleton_self _
    refine .one ?_
    rw [Form.Spaced, hsolid.trim_eq]
    exact conjunct_of_check (fuel + 1) hor hand hclosed hsolid h
  | some found =>
    rw [ofCharsWithin, split?_of_none rfl hor, hsplit] at h
    obtain ⟨rfl, -⟩ := split?_eq_some rfl hsplit
    refine listed_of_elements rfl fun e he => ?_
    obtain ⟨hne, hclosed⟩ := hcomplete e he
    have htree := checkParts_eq_ok h (ofCharsWithin fuel e) (List.mem_map_of_mem
      (List.mem_filter.2 ⟨he, by simpa using hne⟩))
    have hor' := cutOuter?_element_other plain_andMark he rfl hor
    have hsolid' := solid_of_trim_eq (trim_element plain_andMark he) hne
    exact conjunct_of_check fuel hor' (cutOuter?_element plain_andMark he) hclosed hsolid' htree

/-- A complete text is a list of disjuncts if it is accepted. -/
theorem condition_of_check {cs : List Char} (hcomplete : isComplete cs = true) (hsolid : Solid cs)
    (h : checkTree (ofChars cs) = .ok ()) : Form.AnyOf cs := by
  have hconjuncts : ∀ e ∈ elements orMark cs,
      ∀ e' ∈ elements andMark e, e' ≠ [] ∧ isClosed e' = true := by
    simpa [isComplete, List.all_eq_true] using hcomplete
  have hne : ∀ e ∈ elements orMark cs, e ≠ [] := by
    rintro e he rfl
    exact (hconjuncts [] he [] (List.mem_singleton_self _)).1 rfl
  cases hsplit : split? orMark cs with
  | none =>
    have hor := cutOuter?_of_split?_none rfl hsplit hne
    refine .one ?_
    rw [Form.Spaced, hsolid.trim_eq]
    refine disjunct_of_check _ hor (hconjuncts cs ?_) hsolid h
    rw [elements_of_none hor, hsolid.trim_eq]
    exact List.mem_singleton_self _
  | some found =>
    obtain ⟨fuel, hfuel⟩ :=
      Nat.exists_eq_succ_of_ne_zero (mt List.length_eq_zero_iff.1 hsolid.ne_nil)
    rw [ofChars, ofCharsWithin, hsplit, hfuel] at h
    obtain ⟨rfl, -⟩ := split?_eq_some rfl hsplit
    refine listed_of_elements rfl fun e he => ?_
    have htree := checkParts_eq_ok h (ofCharsWithin (fuel + 1) e) (List.mem_map_of_mem
      (List.mem_filter.2 ⟨he, by simpa using hne e he⟩))
    exact disjunct_of_check fuel (cutOuter?_element plain_orMark he) (hconjuncts e he)
      (solid_of_trim_eq (trim_element plain_orMark he) (hne e he)) htree

/-! ## Conditions -/

/-- A text that is no script and that the check accepts has the form of a condition, if none of its
disjuncts and conjuncts is empty and its inclusions are closed. -/
theorem check_form {s : String} (h : check s = .ok ()) (hscript : Template.isScript s = false)
    (hcomplete : isComplete (trim s.toList) = true) : Form.AnyOf (trim s.toList) := by
  have hne : trim s.toList ≠ [] := by
    intro hempty
    rw [check, hempty] at h
    cases h
  exact condition_of_check hcomplete (solid_trim hne) (tree_of_check h hscript)

/-- A check without a fault has accepted. -/
theorem eq_ok_of_isOk {ε : Type} {result : Except ε Unit} (h : result.isOk = true) :
    result = .ok () := by
  cases result with
  | error fault => cases h
  | ok => rfl

/-- A negated test, an inclusion and a comparison in two disjuncts. -/
theorem check_form_two :
    let s := "!trigger.a && steps.b.c.includes(\"|| )\") || env.d == 1"
    check s = .ok () ∧ Template.isScript s = false ∧ isComplete (trim s.toList) = true ∧
      Form.AnyOf (trim s.toList) := by
  intro s
  have hcheck : check s = .ok () := eq_ok_of_isOk (by decide +kernel)
  have hscript : Template.isScript s = false := by decide +kernel
  have hcomplete : isComplete (trim s.toList) = true := by decide +kernel
  exact ⟨hcheck, hscript, hcomplete, check_form hcheck hscript hcomplete⟩

/-- A condition with an empty disjunct and one with an open parenthesis, both of which are accepted
and neither of which has the form of a condition. -/
theorem check_incomplete :
    (check "trigger.a || trigger.b ||" = .ok () ∧
        Template.isScript "trigger.a || trigger.b ||" = false ∧
        ¬Form.AnyOf "trigger.a || trigger.b ||".toList) ∧
      check "trigger.a.includes(\"x\"" = .ok () ∧
        Template.isScript "trigger.a.includes(\"x\"" = false ∧
        ¬Form.AnyOf "trigger.a.includes(\"x\"".toList := by
  refine ⟨⟨eq_ok_of_isOk (by decide +kernel), by decide, fun h => ?_⟩,
    eq_ok_of_isOk (by decide +kernel), by decide, fun h => ?_⟩
  · exact (h.tidy (by decide)).last (by decide)
  · exact absurd ((h.tidy (by decide)).past 0) (by decide)

end Automation.Condition
