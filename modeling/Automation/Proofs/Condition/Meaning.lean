import Automation.Proofs.Condition.Printed

/-!
# What conditions mean

A condition of the grammar is accepted and has its meaning, with whatever blanks it is written and
whether or not it is written as a template (`Condition.condition_print`). The tree that its text is
read as passes the check and holds exactly if the condition does (`Condition.AnyOf.checkTree_tree`,
`Condition.AnyOf.holds_tree`).
-/

namespace Automation.Condition

open Text

/-! ## Trees of the grammar -/

/-- Two operands are acceptable sides of a comparison. -/
theorem checkSides_text (left right : Operand) : checkSides left.text right.text = .ok () := by
  have hleft := left.solid.ne_nil
  have hright := right.solid.ne_nil
  unfold checkSides
  rw [left.check_text, right.check_text]
  simp [hleft, hright]
  rfl

/-- The comparison that is printed is acceptable. -/
theorem Test.check_comparison (t : Test) : checkComparison t.comparison = .ok () := by
  cases t with
  | includes left before inside right after =>
    have hright := right.solid.ne_nil
    rw [Test.comparison, checkComparison, left.check_text, right.check_text]
    simp [hright]
    rfl
  | unequal left before after right => exact checkSides_text left right
  | equal left before after right => exact checkSides_text left right
  | operand o =>
    have hcheck := o.check_text
    have hne := o.solid.ne_nil
    rw [Test.comparison]
    cases htext : o.text with
    | nil => exact absurd htext hne
    | cons c cs =>
      rw [htext] at hcheck
      exact hcheck

/-- The comparison that is printed has the meaning of its operands. -/
theorem Test.holds_comparison (ctx : Context) (t : Test) :
    comparisonHolds ctx t.comparison = t.holds ctx := by
  cases t with
  | includes left before inside right after =>
    rw [Test.comparison, comparisonHolds, left.value_text, right.value_text, Test.holds]
  | unequal left before after right =>
    rw [Test.comparison, comparisonHolds, left.value_text, right.value_text, Test.holds]
  | equal left before after right =>
    rw [Test.comparison, comparisonHolds, left.value_text, right.value_text, Test.holds]
  | operand o => rw [Test.comparison, comparisonHolds, o.value_text, Test.holds]

/-- An odd number of negations turns a truth around. -/
theorem foldr_negations (spaces : List Space) (b : Bool) :
    spaces.foldr (fun _ holds => !holds) b = ((spaces.length % 2 == 1) != b) := by
  induction spaces with
  | nil => cases b <;> rfl
  | cons space rest ih =>
    rw [List.foldr_cons, ih, List.length_cons]
    rcases Nat.mod_two_eq_zero_or_one rest.length with h | h
    · have h' : (rest.length + 1) % 2 = 1 := by omega
      rw [h, h']
      cases b <;> rfl
    · have h' : (rest.length + 1) % 2 = 0 := by omega
      rw [h, h']
      cases b <;> rfl

/-- The tree of a comparison below negations is accepted. -/
theorem Atom.checkTree_tree (a : Atom) : checkTree a.tree = .ok () := by
  rw [Atom.tree, checkTree]
  exact a.test.check_comparison

/-- The tree of a comparison below negations has its meaning. -/
theorem Atom.holds_tree (ctx : Context) (a : Atom) : a.tree.holds ctx = a.holds ctx := by
  rw [Atom.tree, Condition.holds, Atom.holds, Test.holds_comparison, foldr_negations]

/-- Trees that pass the check one by one pass it together. -/
theorem checkParts_map {α : Type} {tree : α → Condition} (h : ∀ x, checkTree (tree x) = .ok ())
    (items : List α) : checkParts (items.map tree) = .ok () := by
  induction items with
  | nil => rfl
  | cons x items ih =>
    rw [List.map_cons, checkParts, h x, ih]
    rfl

/-- All trees hold if all that they are the trees of do. -/
theorem allHold_map {α : Type} (ctx : Context) {tree : α → Condition} {holds : α → Bool}
    (h : ∀ x, (tree x).holds ctx = holds x) (items : List α) :
    allHold ctx (items.map tree) = items.all holds := by
  induction items with
  | nil => rfl
  | cons x items ih => rw [List.map_cons, allHold, h x, ih, List.all_cons]

/-- One of the trees holds if one of those does that they are the trees of. -/
theorem anyHolds_map {α : Type} (ctx : Context) {tree : α → Condition} {holds : α → Bool}
    (h : ∀ x, (tree x).holds ctx = holds x) (items : List α) :
    anyHolds ctx (items.map tree) = items.any holds := by
  induction items with
  | nil => rfl
  | cons x items ih => rw [List.map_cons, anyHolds, h x, ih, List.any_cons]

/-- The tree of comparisons that all have to hold is accepted. -/
theorem AllOf.checkTree_tree (j : AllOf) : checkTree j.tree = .ok () := by
  unfold AllOf.tree
  split
  · exact j.first.checkTree_tree
  · rw [checkTree]
    exact checkParts_map Atom.checkTree_tree j.items

/-- The tree of comparisons that all have to hold has their meaning. -/
theorem AllOf.holds_tree (ctx : Context) (j : AllOf) : j.tree.holds ctx = j.holds ctx := by
  unfold AllOf.tree AllOf.holds
  split
  · next hrest =>
    rw [j.first.holds_tree, Joined.items, List.isEmpty_iff.1 hrest]
    simp
  · rw [Condition.holds]
    exact allHold_map ctx (Atom.holds_tree ctx) j.items

/-- The tree of a condition passes the check. -/
theorem AnyOf.checkTree_tree (j : AnyOf) : checkTree j.tree = .ok () := by
  unfold AnyOf.tree
  split
  · exact AllOf.checkTree_tree j.first
  · rw [checkTree]
    exact checkParts_map AllOf.checkTree_tree j.items

/-- The tree of a condition holds if the condition does. -/
theorem AnyOf.holds_tree (ctx : Context) (j : AnyOf) : j.tree.holds ctx = j.holds ctx := by
  unfold AnyOf.tree AnyOf.holds
  split
  · next hrest =>
    rw [AllOf.holds_tree ctx j.first, Joined.items, List.isEmpty_iff.1 hrest]
    simp
  · rw [Condition.holds]
    exact anyHolds_map ctx (AllOf.holds_tree ctx) j.items

/-! ## Texts of the grammar -/

/-- What stands around a solid text that is no template is dropped. -/
theorem unwrap_print (w : Wrapping) {text : List Char} (hsolid : Solid text)
    (hopener : Avoids ['$'] text) : unwrap (w.print text) = text := by
  unfold unwrap
  cases w with
  | bare before after =>
    rw [Wrapping.print, trim_around before.blank hsolid after.blank]
    dsimp only
    rw [Template.opener, stripStart?_avoids _ hopener]
  | template before inside behind after =>
    have hopen : Solid Template.opener := solid_of_any (by decide) (by decide)
    have hclose : Solid Template.closer := solid_of_any (by decide) (by decide)
    have hinner : inside.chars ++ (text ++ behind.chars) ++ Template.closer =
        inside.chars ++ (text ++ (behind.chars ++ Template.closer)) := by
      rw [List.append_assoc, List.append_assoc]
    rw [Wrapping.print, trim_around before.blank (hopen.append _ hclose) after.blank]
    dsimp only
    rw [stripStart?_append]
    dsimp only
    rw [hinner, trim_after inside.blank (hsolid.append behind.chars hclose), ← List.append_assoc,
      stripEnd?_append, Option.getD_some, trim_before hsolid behind.blank]

/-- What is wrapped around a condition is taken off again. -/
theorem AnyOf.unwrap_print (j : AnyOf) (w : Wrapping) : unwrap (w.print j.print) = j.print :=
  Condition.unwrap_print w j.solid (j.begins.avoids.mono (by simp))

/-- A wrapped condition is normalized to what is wrapped. -/
theorem normalize_print (w : Wrapping) {text : List Char} (hsolid : Solid text)
    (hopener : Avoids ['$'] text) :
    normalize (String.ofList (w.print text)) = String.ofList text := by
  rw [normalize, String.toList_ofList, unwrap_print w hsolid hopener]

/-- A solid text that is no template is normal. -/
theorem normalize_ofList {text : List Char} (hsolid : Solid text) (hopener : Avoids ['$'] text) :
    normalize (String.ofList text) = String.ofList text := by
  have hbare := normalize_print (.bare ⟨[], blanks_nil⟩ ⟨[], blanks_nil⟩) hsolid hopener
  rwa [Wrapping.print, List.nil_append, List.append_nil] at hbare

/-- A text without the marker of a script is none. -/
theorem not_isScript {text : List Char} (hsolid : Solid text)
    (hscript : stripStart? Template.scriptMarker text = none) :
    Template.isScript (String.ofList text) = false := by
  rw [Template.isScript, String.toList_ofList, hsolid.trim_eq, Template.scriptLiteral?, hscript]
  rfl

/-- A text is checked as its tree if it is no script and has no operator that conditions may not
have. -/
theorem check_ofList {text : List Char} (hsolid : Solid text)
    (hscript : stripStart? Template.scriptMarker text = none)
    (hpasses : ∀ op ∈ foreignMarks, Passes op text []) :
    check (String.ofList text) = checkTree (ofChars text) := by
  have hempty : text.isEmpty = false := by simpa using hsolid.ne_nil
  have hforeign {op : String} (hop : op.toList ∈ foreignMarks) : hasOuter op text = false := by
    rw [hasOuter, cutOuter?_none (hpasses _ hop)]
    rfl
  unfold check
  rw [String.toList_ofList, hsolid.trim_eq]
  dsimp only
  rw [hempty, not_isScript hsolid hscript, hforeign (by decide), hforeign (by decide),
    hforeign (by decide), hforeign (by decide), hforeign (by decide), hforeign (by decide),
    checkNode_eq]
  rfl

/-- What is normalized to a text has the meaning of the tree of the text, if that is no script. -/
theorem condition_of_normalize (r : Resolver) (ctx : Context) {raw : String} {text : List Char}
    (hsolid : Solid text) (hscript : stripStart? Template.scriptMarker text = none)
    (h : normalize raw = String.ofList text) :
    r.condition ctx raw = .ok ((ofChars text).holds ctx) := by
  have hne : String.ofList text ≠ "" := by
    have hne := hsolid.ne_nil
    simpa using hne
  rw [← h] at hne
  rw [condition_eq_holds ctx r hne (by rw [h]; exact not_isScript hsolid hscript), h,
    String.toList_ofList]

/-- The check accepts the text of a condition. -/
theorem AnyOf.check_print (j : AnyOf) : check (String.ofList j.print) = .ok () := by
  rw [check_ofList j.solid j.begins.not_script fun op hop => j.passes hop follows_nil,
    j.ofChars_print]
  exact j.checkTree_tree

/-- What is normalized to the text of a condition has the meaning of the condition. -/
theorem AnyOf.condition_of_normalize (j : AnyOf) (r : Resolver) (ctx : Context) {raw : String}
    (h : normalize raw = String.ofList j.print) : r.condition ctx raw = .ok (j.holds ctx) := by
  rw [Condition.condition_of_normalize r ctx j.solid j.begins.not_script h, j.ofChars_print,
    j.holds_tree]

/-- A condition of the grammar is accepted once it is normalized. Evaluating it gives its meaning,
before and after that. -/
theorem condition_print (r : Resolver) (ctx : Context) (w : Wrapping) (j : AnyOf) :
    let raw := String.ofList (w.print j.print)
    check (normalize raw) = .ok () ∧ r.condition ctx raw = .ok (j.holds ctx) ∧
      r.condition ctx (normalize raw) = .ok (j.holds ctx) := by
  intro raw
  have hnormal : normalize raw = String.ofList j.print := by
    rw [normalize, String.toList_ofList, j.unwrap_print]
  have hagain : normalize (String.ofList j.print) = String.ofList j.print := by
    have hbare := j.unwrap_print (.bare ⟨[], blanks_nil⟩ ⟨[], blanks_nil⟩)
    rw [Wrapping.print, List.nil_append, List.append_nil] at hbare
    rw [normalize, String.toList_ofList, hbare]
  refine ⟨?_, j.condition_of_normalize r ctx hnormal, ?_⟩
  · rw [hnormal]
    exact j.check_print
  · rw [hnormal]
    exact j.condition_of_normalize r ctx hagain

end Automation.Condition
