import Automation.Proofs.Condition.Grammar

/-!
# Reading what is written

The text of a condition is read as the tree that it was written from, whatever the blanks
(`Condition.AnyOf.ofChars_print`). At each level the scan for an operator passes over the operands
and over the operators of the levels below, which is what `Test.passes`, `Atom.passes` and
`Joined.passes` say; no scan finds an operator that conditions may not have. Of the operands of
`!=` and `==` all that counts is that they are sealed (`Condition.Relation.comparisonOf_sides`).
-/

namespace Automation.Condition

open Text

/-! ## Scans over operators -/

/-- A marker is not at the start of what avoids its first character. -/
theorem stripStart?_avoids {m : Char} (marker : List Char) {v : List Char} (hv : Avoids [m] v) :
    stripStart? (m :: marker) v = none := by
  cases v with
  | nil => rfl
  | cons c v =>
    have hne : m ≠ c := fun h => hv c rfl (by simp [h])
    rw [stripStart?, if_neg hne]

/-- The operators between comparisons, and those that no condition may have. -/
def outerMarks : List (List Char) :=
  [orMark, andMark] ++ foreignMarks

/-- The operators around comparisons are operators. -/
theorem mem_marks_of_outer {op : List Char} (hop : op ∈ outerMarks) : op ∈ marks := by
  have hsub : ∀ op ∈ outerMarks, op ∈ marks := by decide
  exact hsub op hop

/-- A scan passes over two characters that change nothing if the operator does not start at either
of them. -/
theorem passes_two {op v : List Char} {c d : Char} (hc : isShield c = false)
    (hd : isShield d = false) (hfirst : stripStart? op (c :: d :: v) = none)
    (hsecond : stripStart? op (d :: v) = none) : Passes op [c, d] v :=
  .cons hc hfirst (.cons hd hsecond (passes_nil op v))

/-- A doubled character is passed over by a scan for an operator that starts with another one. -/
theorem passes_doubled {op : List Char} {m : Char} (hshield : isShield m = false)
    (hhead : op.head?.any (· != m) = true) (v : List Char) : Passes op [m, m] v :=
  passes_two hshield hshield (stripStart?_ne hhead _) (stripStart?_ne hhead _)

/-- Of the operators only `===` goes on like `==`. -/
theorem passes_equalMark {op v : List Char}
    (hop : op ∈ includesMarker :: unequalMark :: outerMarks) (hv : Avoids ['='] v) :
    Passes op equalMark v := by
  have hheads : ∀ op ∈ includesMarker :: unequalMark :: outerMarks,
      op = ['=', '=', '='] ∨ op.head?.any (· != '=') = true := by decide
  rcases hheads op hop with rfl | hhead
  · exact passes_two rfl rfl (stripStart?_avoids [] hv) (stripStart?_avoids ['='] hv)
  · exact passes_doubled rfl hhead v

/-- Of the operators only `!==` goes on like `!=`, and only `===` could start with its end. -/
theorem passes_unequalMark {op v : List Char} (hop : op ∈ includesMarker :: outerMarks)
    (hv : Avoids ['='] v) : Passes op unequalMark v := by
  have hheads : ∀ op ∈ includesMarker :: outerMarks,
      op = ['!', '=', '='] ∨ op = ['=', '=', '='] ∨
        (op.head?.any (· != '!') = true ∧ op.head?.any (· != '=') = true) := by decide
  rcases hheads op hop with rfl | rfl | ⟨hfirst, hsecond⟩
  · exact passes_two rfl rfl (stripStart?_avoids [] hv) rfl
  · exact passes_two rfl rfl rfl (stripStart?_avoids ['='] hv)
  · exact passes_two rfl rfl (stripStart?_ne hfirst _) (stripStart?_ne hsecond _)

/-- A negation is passed over if no equality comes after it. -/
theorem passes_negation {op u v : List Char} (hop : op ∈ outerMarks) (hv : Avoids ['='] (u ++ v))
    (hu : Passes op u v) : Passes op ('!' :: u) v := by
  have hheads : ∀ op ∈ outerMarks,
      op = ['!', '=', '='] ∨ op.head?.any (· != '!') = true := by decide
  rcases hheads op hop with rfl | hhead
  · exact .cons rfl (stripStart?_avoids ['='] hv) hu
  · exact .cons rfl (stripStart?_ne hhead _) hu

/-- The marker of an inclusion up to the closing parenthesis is passed over if the argument is. -/
theorem passes_includesMarker {op u v : List Char} (hop : op ∈ outerMarks)
    (hu : Passes op u (')' :: v)) : Passes op (includesMarker ++ (u ++ [')'])) v := by
  have hheads : ∀ op ∈ outerMarks, op.head?.any (· != '.') = true := by decide
  have hword : Inert ['i', 'n', 'c', 'l', 'u', 'd', 'e', 's'] :=
    .of_all (List.all_eq_true.1 (by decide))
  have hcall : Passes op (['i', 'n', 'c', 'l', 'u', 'd', 'e', 's'] ++ ('(' :: (u ++ [')']))) v :=
    .append (hword.passes (mem_marks_of_outer hop) _) (passes_parens hu)
  exact .cons rfl (stripStart?_ne (hheads op hop) _) hcall

/-! ## Scans over comparisons -/

/-- Two sealed texts with a mark between them are passed over if the mark is. -/
theorem passes_sidesOf {op mark v left right : List Char} (hleft : Sealed left)
    (before after : Space) (hright : Sealed right) (hop : op ∈ marks)
    (hends : ∀ w, Ends (mark ++ w)) (hmark : ∀ w, Avoids ['='] w → Passes op mark w)
    (hv : Ends v) : Passes op (sidesOf mark left before after right) v := by
  refine .append (hleft.passes hop ?_) (.append (blanks_passes before.blank hop _)
    (.append (hmark _ ?_) (.append (blanks_passes after.blank hop _) (hright.passes hop hv))))
  · rw [List.append_assoc, List.append_assoc]
    exact before.ends (hends _)
  · rw [List.append_assoc]
    exact after.avoids_equals (hright.avoids_equals v)

/-- The end of a text may come after an operand. -/
theorem ends_nil : Ends [] := by
  intro c hc
  cases hc

/-- A relation between two operands. -/
inductive Relation where
  | unequal
  | equal

namespace Relation

/-- The operator of a relation. -/
def mark : Relation → List Char
  | unequal => unequalMark
  | equal => equalMark

/-- The comparison of two texts. -/
def comparison : Relation → List Char → List Char → Comparison
  | unequal => .unequal
  | equal => .equal

variable (relation : Relation)

/-- The mark of a relation may come after an operand. -/
theorem ends_mark (w : List Char) : Ends (relation.mark ++ w) := by
  cases relation with
  | unequal | equal => exact .cons (by decide) ('=' :: w)

/-- A scan passes over the mark of a relation. -/
theorem passes_mark {op v : List Char} (hop : op ∈ includesMarker :: outerMarks)
    (hv : Avoids ['='] v) : Passes op relation.mark v := by
  have hsub : ∀ op ∈ includesMarker :: outerMarks,
      op ∈ includesMarker :: unequalMark :: outerMarks := by decide
  cases relation with
  | unequal => exact passes_unequalMark hop hv
  | equal => exact passes_equalMark (hsub op hop) hv

/-- Only scans for `!=` and `==` stop in a comparison of sealed texts. -/
theorem passes_sides {op v left right : List Char} (hleft : Sealed left) (before after : Space)
    (hright : Sealed right) (hop : op ∈ includesMarker :: outerMarks) (hv : Ends v) :
    Passes op (sidesOf relation.mark left before after right) v := by
  have hsub : ∀ op ∈ includesMarker :: outerMarks, op ∈ marks := by decide
  exact passes_sidesOf hleft before after hright (hsub op hop) relation.ends_mark
    (fun w hw => relation.passes_mark hop hw) hv

end Relation

/-- A scan for an operator around comparisons passes over a comparison. -/
theorem Test.passes (t : Test) {op v : List Char} (hop : op ∈ outerMarks) (hv : Follows v) :
    Passes op t.print v := by
  have hmarks := mem_marks_of_outer hop
  cases t with
  | includes left before inside right after =>
    have hargument : Passes op (inside.chars ++ (right.text ++ after.chars)) (')' :: v) := by
      refine .append (blanks_passes inside.blank hmarks _) (.append (right.passes hmarks ?_)
        (blanks_passes after.blank hmarks _))
      exact after.ends (.cons (by decide) v)
    have hcall := passes_includesMarker hop hargument
    rw [List.append_assoc, List.append_assoc] at hcall
    refine .append (left.passes hmarks ?_) (.append (blanks_passes before.blank hmarks _) hcall)
    rw [List.append_assoc, List.append_assoc]
    exact before.ends (.cons (by decide) _)
  | unequal left before after right =>
    exact Relation.passes_sides .unequal left.isSealed before after right.isSealed
      (List.mem_cons_of_mem _ hop) hv.ends
  | equal left before after right =>
    exact Relation.passes_sides .equal left.isSealed before after right.isSealed
      (List.mem_cons_of_mem _ hop) hv.ends
  | operand o => exact o.passes hmarks hv.ends

/-- The mark `&&` may come after a comparison. -/
theorem follows_andMark (w : List Char) : Follows (andMark ++ w) :=
  .cons (by decide) ('&' :: w)

/-- The mark `||` may come after a comparison. -/
theorem follows_orMark (w : List Char) : Follows (orMark ++ w) :=
  .cons (by decide) ('|' :: w)

/-- A scan for an operator around comparisons passes over one below negations. -/
theorem Atom.passes (a : Atom) {op v : List Char} (hop : op ∈ outerMarks) (hv : Follows v) :
    Passes op a.print v := by
  obtain ⟨negations, test⟩ := a
  unfold Atom.print
  induction negations with
  | nil => exact test.passes hop hv
  | cons space rest ih =>
    have hrest : Begins (negated rest test.print) := Atom.begins ⟨rest, test⟩
    refine passes_negation hop ?_
      (.append (blanks_passes space.blank (mem_marks_of_outer hop) _) ih)
    rw [List.append_assoc]
    exact space.avoids_equals (hrest.append v).avoids_equals

namespace Joined

variable {α : Type} {mark : List Char} {print : α → List Char}

/-- Joined texts are passed over if each of them and the mark between them are. -/
theorem passes {op v : List Char} (hop : op ∈ marks) (hmark : ∀ w, Passes op mark w)
    (hfollows : ∀ w, Follows (mark ++ w)) (hprint : ∀ x w, Follows w → Passes op (print x) w)
    (hv : Follows v) (j : Joined α) : Passes op (j.print mark print) v := by
  obtain ⟨first, rest⟩ := j
  unfold Joined.print
  dsimp only
  induction rest generalizing first with
  | nil =>
    rw [printRest, List.append_nil]
    exact hprint first v hv
  | cons e rest ih =>
    obtain ⟨before, after, item⟩ := e
    refine .append (hprint first _ ?_) (.append (blanks_passes before.blank hop _)
      (.append (hmark _) (.append (blanks_passes after.blank hop _) (ih item))))
    rw [printRest, List.append_assoc, List.append_assoc]
    exact before.follows (hfollows _)

end Joined

/-- No scan but that for `&&` stops in comparisons that all have to hold. -/
theorem AllOf.passes (j : AllOf) {op v : List Char} (hop : op ∈ orMark :: foreignMarks)
    (hv : Follows v) : Passes op j.print v := by
  have hsub : ∀ op ∈ orMark :: foreignMarks, op ∈ outerMarks := by decide
  have hheads : ∀ op ∈ orMark :: foreignMarks, op.head?.any (· != '&') = true := by decide
  exact Joined.passes (mem_marks_of_outer (hsub op hop)) (passes_doubled rfl (hheads op hop))
    follows_andMark (fun a w hw => a.passes (hsub op hop) hw) hv j

/-- No scan finds an operator that conditions may not have. -/
theorem AnyOf.passes (j : AnyOf) {op v : List Char} (hop : op ∈ foreignMarks) (hv : Follows v) :
    Passes op j.print v := by
  have hsub : ∀ op ∈ foreignMarks, op ∈ marks := by decide
  have hheads : ∀ op ∈ foreignMarks, op.head?.any (· != '|') = true := by decide
  exact Joined.passes (hsub op hop) (passes_doubled rfl (hheads op hop)) follows_orMark
    (fun a w hw => AllOf.passes a (List.mem_cons_of_mem _ hop) hw) hv j

/-! ## Parts -/

/-- A text over which a scan passes is a single part. -/
theorem split?_none {op u : List Char} (h : Passes op u []) : split? op u = none := by
  have hparts : (parts op u.length u).length ≤ 1 := by
    cases u with
    | nil => exact Nat.zero_le _
    | cons c u =>
      rw [List.length_cons, parts_succ (List.cons_ne_nil c u), cutOuter?_none h]
      dsimp only
      split <;> simp
  unfold split?
  exact if_neg (Nat.not_lt.2 hparts)

namespace Joined

variable {α : Type} {mark : List Char} {print : α → List Char}

/-- The parts of joined texts are the texts, also with blanks in front. -/
theorem parts_print {m : Char} (hhead : mark.head? = some m) (hshield : isShield m = false)
    (hmark : mark ∈ marks) (hfollows : ∀ w, Follows (mark ++ w))
    (hsolid : ∀ x, Solid (print x)) (hprint : ∀ x w, Follows w → Passes mark (print x) w)
    (j : Joined α) (space : Space) (fuel : Nat)
    (hfuel : (space.chars ++ j.print mark print).length ≤ fuel) :
    parts mark fuel (space.chars ++ j.print mark print) = j.items.map print := by
  obtain ⟨first, rest⟩ := j
  unfold Joined.print at hfuel ⊢
  dsimp only at hfuel ⊢
  have hne (x : α) : (print x).isEmpty = false := by simpa using (hsolid x).ne_nil
  have hnil : Follows [] := fun c hc => by cases hc
  -- What is left after a mark starts with the blanks after it, hence the blanks in front.
  induction rest generalizing first space fuel with
  | nil =>
    rw [printRest, List.append_nil] at hfuel ⊢
    have hcs : space.chars ++ print first ≠ [] := fun h =>
      (hsolid first).ne_nil (List.append_eq_nil_iff.1 h).2
    have hscan : Passes mark (space.chars ++ print first) [] :=
      .append (blanks_passes space.blank hmark _) (hprint first [] hnil)
    cases fuel with
    | zero => exact absurd (List.length_eq_zero_iff.1 (Nat.le_zero.1 hfuel)) hcs
    | succ fuel =>
      rw [parts_succ hcs, cutOuter?_none hscan]
      dsimp only
      rw [trim_after space.blank (hsolid first), hne]
      rfl
  | cons e rest ih =>
    obtain ⟨before, after, item⟩ := e
    rw [printRest] at hfuel ⊢
    generalize htail : after.chars ++ (print item ++ printRest mark print rest) = tail at hfuel ⊢
    have hassoc : space.chars ++ (print first ++ (before.chars ++ (mark ++ tail))) =
        (space.chars ++ (print first ++ before.chars)) ++ (mark ++ tail) := by simp
    rw [hassoc] at hfuel ⊢
    have hcs : (space.chars ++ (print first ++ before.chars)) ++ (mark ++ tail) ≠ [] := by
      have hfirst := (hsolid first).ne_nil
      simp [hfirst]
    have hscan : Passes mark (space.chars ++ (print first ++ before.chars)) (mark ++ tail) :=
      .append (blanks_passes space.blank hmark _) (.append
        (hprint first _ (before.follows (hfollows tail))) (blanks_passes before.blank hmark _))
    have hlength : 0 < mark.length := by
      cases mark with
      | nil => cases hhead
      | cons => exact Nat.succ_pos _
    cases fuel with
    | zero => exact absurd (List.length_eq_zero_iff.1 (Nat.le_zero.1 hfuel)) hcs
    | succ fuel =>
      rw [parts_succ hcs, cutOuter?_passes hhead hshield hscan]
      dsimp only
      rw [trim_around space.blank (hsolid first) before.blank, hne, ← htail]
      rw [← htail] at hfuel
      rw [ih after fuel item (by simp only [List.length_append] at hfuel ⊢; omega)]
      rfl

/-- Joined texts of which there is more than one are split into the texts. -/
theorem split?_print {m : Char} (hhead : mark.head? = some m) (hshield : isShield m = false)
    (hmark : mark ∈ marks) (hfollows : ∀ w, Follows (mark ++ w))
    (hsolid : ∀ x, Solid (print x)) (hprint : ∀ x w, Follows w → Passes mark (print x) w)
    (j : Joined α) :
    split? mark (j.print mark print) =
      if j.rest.isEmpty then none else some (j.items.map print) := by
  have hparts := parts_print hhead hshield hmark hfollows hsolid hprint j ⟨[], blanks_nil⟩
    (j.print mark print).length (Nat.le_refl _)
  rw [List.nil_append] at hparts
  unfold split?
  rw [hparts]
  obtain ⟨first, rest⟩ := j
  cases rest <;> simp [items]

end Joined

/-! ## Comparisons -/

/-- The comparison that the texts of the operands make. -/
def Test.comparison : Test → Comparison
  | includes left _ _ right _ => .includes left.text right.text
  | unequal left _ _ right => .unequal left.text right.text
  | equal left _ _ right => .equal left.text right.text
  | operand o => .operand o.text

/-- The argument of an inclusion, with the blanks around it and the closing parenthesis. -/
theorem splitIncludes?_print (left right : Operand) (before inside after : Space) :
    splitIncludes? (Test.includes left before inside right after).print =
      some (left.text, right.text) := by
  have hmark : includesMarker ∈ marks := by decide
  have hscan : Passes includesMarker (left.text ++ before.chars)
      (includesMarker ++ (inside.chars ++ (right.text ++ (after.chars ++ [')'])))) :=
    .append (left.passes hmark (before.ends (.cons (by decide) _)))
      (blanks_passes before.blank hmark _)
  have hcut := cutOuter?_passes (m := '.') rfl rfl hscan
  have hdot : Avoids ['.'] (inside.chars ++ (right.text ++ (after.chars ++ [')']))) :=
    .blanks (by decide) inside ((right.avoids _).mono (by simp))
  have hnone : stripStart? includesMarker (inside.chars ++ (right.text ++ (after.chars ++ [')']))) =
      none := stripStart?_avoids includesMarker.tail hdot
  have hclose : Solid (right.text ++ (after.chars ++ [')'])) :=
    right.solid.append after.chars (solid_of_any (by simp) (by decide))
  have hprint : (Test.includes left before inside right after).print =
      (left.text ++ before.chars) ++
        (includesMarker ++ (inside.chars ++ (right.text ++ (after.chars ++ [')'])))) :=
    (List.append_assoc ..).symm
  rw [splitIncludes?, hprint, hcut, Option.map_some]
  dsimp only
  rw [stripStartAll_of_none hnone, trim_after inside.blank hclose, ← List.append_assoc,
    stripEnd?_append, Option.getD_some, trim_before left.solid before.blank,
    trim_before right.solid after.blank]

/-- A comparison is cut at its operator, and what is cut are its operands. -/
theorem Relation.cutOuter?_sides (relation : Relation) {left right : List Char}
    (hleft : Sealed left) (before after : Space) (hright : Sealed right) :
    ∃ u w, cutOuter? relation.mark (sidesOf relation.mark left before after right) = some (u, w) ∧
      trim u = left ∧ trim w = right := by
  obtain ⟨m, hhead, hshield, hmark⟩ :
      ∃ m, relation.mark.head? = some m ∧ isShield m = false ∧ relation.mark ∈ marks := by
    cases relation with
    | unequal | equal => exact ⟨_, rfl, rfl, by decide⟩
  have hscan : Passes relation.mark (left ++ before.chars)
      (relation.mark ++ (after.chars ++ right)) :=
    .append (hleft.passes hmark (before.ends (relation.ends_mark _)))
      (blanks_passes before.blank hmark _)
  refine ⟨left ++ before.chars, after.chars ++ right, ?_,
    trim_before hleft.solid before.blank, trim_after after.blank hright.solid⟩
  rw [sidesOf, ← List.append_assoc]
  exact cutOuter?_passes hhead hshield hscan

/-- Two sealed texts with `!=` or `==` between them are read as their comparison. -/
theorem Relation.comparisonOf_sides (relation : Relation) {left right : List Char}
    (hleft : Sealed left) (before after : Space) (hright : Sealed right) :
    comparisonOf (sidesOf relation.mark left before after right) =
      relation.comparison left right := by
  have hincludes := cutOuter?_none
    (relation.passes_sides hleft before after hright (List.mem_cons_self ..) ends_nil)
  obtain ⟨u, w, hcut, hu, hw⟩ := relation.cutOuter?_sides hleft before after hright
  unfold comparisonOf splitIncludes?
  rw [hincludes, Option.map_none]
  dsimp only
  cases relation with
  | unequal =>
    rw [Relation.mark] at hcut ⊢
    rw [hcut]
    dsimp only
    rw [hu, hw]
    rfl
  | equal =>
    -- The scan for `!=` comes first, and goes through.
    have hunequal : Passes unequalMark (sidesOf equalMark left before after right) [] :=
      passes_sidesOf hleft before after hright (by decide) (Relation.ends_mark .equal)
        (fun w hw => passes_equalMark (by decide) hw) ends_nil
    rw [Relation.mark] at hcut ⊢
    rw [cutOuter?_none hunequal, hcut]
    dsimp only
    rw [hu, hw]
    rfl

/-- Three scans decide what a comparison is: for the marker of an inclusion, for `!=` and for
`==`. -/
theorem comparisonOf_print (t : Test) : comparisonOf t.print = t.comparison := by
  cases t with
  | includes left before inside right after =>
    unfold comparisonOf
    rw [splitIncludes?_print]
    rfl
  | unequal left before after right =>
    exact Relation.comparisonOf_sides .unequal left.isSealed before after right.isSealed
  | equal left before after right =>
    exact Relation.comparisonOf_sides .equal left.isSealed before after right.isSealed
  | operand o =>
    have hnone {op : List Char} (hop : op ∈ marks) : cutOuter? op o.text = none :=
      cutOuter?_none (o.passes hop ends_nil)
    unfold comparisonOf splitIncludes?
    rw [Test.print, hnone (by decide), hnone (by decide), hnone (by decide)]
    rfl

/-! ## Negations -/

/-- A text that does not start with a negation is left as it is. -/
theorem dropNegations_of_avoids {cs : List Char} (h : Avoids ['!'] cs) (fuel : Nat) :
    dropNegations fuel cs = (0, cs) := by
  cases fuel with
  | zero => rfl
  | succ fuel =>
    unfold dropNegations
    split
    · exact absurd (List.mem_singleton_self _) (h '!' rfl)
    · rfl

/-- Dropping the negations of a text leaves the comparison, and counts them. -/
theorem dropNegations_negated (spaces : List Space) (t : Test) (fuel : Nat)
    (h : (negated spaces t.print).length ≤ fuel) :
    dropNegations fuel (negated spaces t.print) = (spaces.length, t.print) := by
  induction spaces generalizing fuel with
  | nil =>
    obtain ⟨o, v, ho⟩ := t.starts
    rw [negated, ho]
    exact dropNegations_of_avoids ((o.avoids v).mono (by simp)) fuel
  | cons space rest ih =>
    rw [negated] at h ⊢
    cases fuel with
    | zero => cases h
    | succ fuel =>
      have hbegins : Begins (negated rest t.print) := Atom.begins ⟨rest, t⟩
      have hequal : (space.chars ++ negated rest t.print).head? ≠ some '=' := fun heq =>
        space.avoids_equals hbegins.avoids_equals '=' heq (List.mem_singleton_self _)
      have htrim : trimStart (space.chars ++ negated rest t.print) = negated rest t.print :=
        trimStart_append space.blank (negated_solid rest t.solid).head
      rw [dropNegations, if_neg hequal, htrim,
        ih fuel (by simp only [List.length_cons, List.length_append] at h; omega)]
      rfl

/-! ## Trees -/

/-- The tree of a comparison below negations. -/
def Atom.tree (a : Atom) : Condition :=
  .atom a.negations.length a.test.comparison

/-- The tree of comparisons joined by `&&`; one alone needs no join. -/
def AllOf.tree (j : AllOf) : Condition :=
  if j.rest.isEmpty then j.first.tree else .all (j.items.map Atom.tree)

/-- The tree of a condition. -/
def AnyOf.tree (j : AnyOf) : Condition :=
  if j.rest.isEmpty then AllOf.tree j.first else .any (j.items.map AllOf.tree)

/-- The end of a text may come after a comparison. -/
theorem follows_nil : Follows [] := by
  intro c hc
  cases hc

/-- A text that scans for `||` and `&&` pass over is a comparison below its negations. -/
theorem ofCharsWithin_atom {cs inner : List Char} {count : Nat} (hsolid : Solid cs)
    (hpasses : ∀ op ∈ [orMark, andMark], Passes op cs [])
    (hdrop : dropNegations cs.length cs = (count, inner)) (hinner : Solid inner) (fuel : Nat) :
    ofCharsWithin (fuel + 1) cs = .atom count (comparisonOf inner) := by
  have hstart : trimStart cs = cs := trimStart_append blanks_nil hsolid.head
  rw [ofCharsWithin, split?_none (hpasses orMark (by simp)),
    split?_none (hpasses andMark (by simp))]
  dsimp only
  rw [hstart, hdrop]
  dsimp only
  rw [hinner.trim_eq]

/-- A comparison below negations is printed with its tree. -/
theorem Atom.ofChars_print (a : Atom) (fuel : Nat) :
    ofCharsWithin (fuel + 1) a.print = a.tree := by
  have hsub : ∀ op ∈ [orMark, andMark], op ∈ outerMarks := by decide
  have hdrop : dropNegations a.print.length a.print = (a.negations.length, a.test.print) :=
    dropNegations_negated a.negations a.test a.print.length (Nat.le_refl _)
  rw [ofCharsWithin_atom a.solid (fun op hop => a.passes (hsub op hop) follows_nil) hdrop
    a.test.solid, comparisonOf_print]
  rfl

/-- Comparisons that all have to hold are split into them again, unless there is only one. -/
theorem AllOf.split?_print (j : AllOf) :
    split? andMark j.print = if j.rest.isEmpty then none else some (j.items.map Atom.print) :=
  Joined.split?_print rfl rfl (by decide) follows_andMark Atom.solid
    (fun a w hw => a.passes (by decide) hw) j

/-- Alternatives are split into them again, unless there is only one. -/
theorem AnyOf.split?_print (j : AnyOf) :
    split? orMark j.print = if j.rest.isEmpty then none else some (j.items.map AllOf.print) :=
  Joined.split?_print rfl rfl (by decide) follows_orMark AllOf.solid
    (fun a w hw => AllOf.passes a (by decide) hw) j

/-- Two units of fuel are enough for a text without `||`, and one if it has no `&&` either. -/
theorem AllOf.ofChars_print (j : AllOf) (fuel : Nat) (h : j.rest.isEmpty = false → 0 < fuel) :
    ofCharsWithin (fuel + 1) j.print = j.tree := by
  have hor : split? orMark j.print = none := split?_none (j.passes (by decide) follows_nil)
  unfold AllOf.tree
  cases hrest : j.rest.isEmpty with
  | true =>
    have hprint : j.print = j.first.print := by
      rw [AllOf.print, Joined.print, List.isEmpty_iff.1 hrest]
      exact List.append_nil _
    rw [hprint]
    exact j.first.ofChars_print fuel
  | false =>
    obtain ⟨fuel, rfl⟩ := Nat.exists_eq_succ_of_ne_zero (Nat.pos_iff_ne_zero.1 (h hrest))
    have htrees : (j.items.map Atom.print).map (ofCharsWithin (fuel + 1)) =
        j.items.map Atom.tree := by
      rw [List.map_map]
      exact List.map_congr_left fun a _ => a.ofChars_print fuel
    rw [ofCharsWithin, hor, j.split?_print, hrest, if_neg Bool.false_ne_true,
      if_neg Bool.false_ne_true]
    exact congrArg Condition.all htrees

/-- Items with a mark of two characters between them have a text of at least two characters. -/
theorem Joined.two_le_length {α : Type} {mark : List Char} {print : α → List Char} (j : Joined α)
    (hmark : mark.length = 2) (h : j.rest.isEmpty = false) :
    2 ≤ (j.print mark print).length := by
  obtain ⟨first, rest⟩ := j
  cases rest with
  | nil => cases h
  | cons e rest =>
    simp only [Joined.print, Joined.printRest, List.length_append, hmark]
    omega

/-- The text of a condition is read as its tree. -/
theorem AnyOf.ofChars_print (j : AnyOf) : ofChars j.print = j.tree := by
  unfold AnyOf.tree
  cases hrest : j.rest.isEmpty with
  | true =>
    have hprint : j.print = AllOf.print j.first := by
      rw [AnyOf.print, Joined.print, List.isEmpty_iff.1 hrest]
      exact List.append_nil _
    rw [ofChars, hprint]
    exact AllOf.ofChars_print j.first _ fun h =>
      Nat.lt_of_lt_of_le (by decide) (Joined.two_le_length j.first rfl h)
  | false =>
    have hlength : 2 ≤ j.print.length := Joined.two_le_length j rfl hrest
    obtain ⟨fuel, hfuel⟩ := Nat.exists_eq_add_of_le hlength
    have htrees : (j.items.map AllOf.print).map (ofCharsWithin j.print.length) =
        j.items.map AllOf.tree := by
      rw [List.map_map]
      refine List.map_congr_left fun a _ => ?_
      have hfuel' : j.print.length = (fuel + 1) + 1 := by omega
      rw [Function.comp_apply, hfuel']
      exact AllOf.ofChars_print a (fuel + 1) fun _ => Nat.succ_pos fuel
    rw [ofChars, ofCharsWithin, j.split?_print, hrest, if_neg Bool.false_ne_true,
      if_neg Bool.false_ne_true]
    exact congrArg Condition.any htrees

end Automation.Condition
