import Automation.Proofs.Template.Passed

/-!
# Texts around templates

`Template.Spliced` is a text with templates in it: texts in which no template is opened, each before
a template, and after the last template a text that may open one but does not close it. Such a text
is cut into these texts and the expressions between them (`Template.Spliced.pieces_text`), so
resolving it puts what its expressions resolve to in the places of the templates and leaves the rest
as it is (`Resolver.resolveAt_spliced`). What is put there is not looked at again: no expressions
but those of the text are passed to the resolver, though there may be templates in a value.
-/

namespace Automation

open Text

/-! ## Texts with templates -/

namespace Template

/-- A template, and the text between it and the one before. -/
structure Slot where
  before : List Char
  inner : List Char
  plain : occurs opener before = false
  closed : occurs closer inner = false
  last : inner.getLast? ≠ some '\x7d'

/-- Templates in a text, and the text after the last of them. -/
structure Spliced where
  slots : List Slot
  tail : List Char
  unclosed : ∀ before rest, tail = before ++ (opener ++ rest) → occurs closer rest = false

/-- A text without braces that close closes no template. -/
theorem unclosed_of_not_mem {tail : List Char} (h : '\x7d' ∉ tail) (before rest : List Char)
    (htail : tail = before ++ (opener ++ rest)) : occurs closer rest = false := by
  have hrest : '\x7d' ∉ rest := by
    rw [htail] at h
    simp only [List.mem_append, not_or] at h
    exact h.2.2
  rw [occurs, closer, cut?_eq_none hrest]
  rfl

/-- The characters of a template and of the text before it. -/
def Slot.chars (s : Slot) : List Char :=
  s.before ++ (opener ++ (s.inner ++ closer))

/-- The expression of a template. -/
def Slot.expression (s : Slot) : String :=
  String.ofList (trim s.inner)

/-- What a template and the text before it are cut into. -/
def Slot.pieces (s : Slot) : List Piece :=
  [.literal s.before, .expression (trim s.inner)]

namespace Spliced

/-- The text with its templates. -/
def text (t : Spliced) : String :=
  String.ofList (t.slots.flatMap Slot.chars ++ t.tail)

/-- The expressions of the templates, in order. -/
def expressions (t : Spliced) : List String :=
  t.slots.map Slot.expression

/-- The text with other texts in the places of its templates. -/
def fill (t : Spliced) (f : String → String) : String :=
  String.ofList (t.slots.flatMap (fun s => s.before ++ (f s.expression).toList) ++ t.tail)

end Spliced

/-! ## Where they are cut -/

/-- A text is cut at its first template, which ends at the first closing marker. -/
theorem Slot.piecesWithin_append (s : Slot) (fuel : Nat) (rest : List Char) :
    piecesWithin (fuel + 1) (s.chars ++ rest) = s.pieces ++ piecesWithin fuel rest := by
  have hchars : s.chars ++ rest = s.before ++ (opener ++ (s.inner ++ (closer ++ rest))) := by
    simp [Slot.chars]
  have hopen : cut? opener (s.chars ++ rest) = some (s.before, s.inner ++ (closer ++ rest)) := by
    rw [hchars]
    exact cut?_of_occurs (by decide) s.plain _
  rw [piecesWithin, hopen]
  dsimp only
  rw [cut?_closer s.closed s.last]
  rfl

/-- A text without a template that is closed is not cut. -/
theorem Spliced.piecesWithin_tail (t : Spliced) (fuel : Nat) :
    piecesWithin fuel t.tail = [.literal t.tail] := by
  cases fuel with
  | zero => rfl
  | succ fuel =>
    rw [piecesWithin]
    cases hopen : cut? opener t.tail with
    | none => rfl
    | some parts =>
      obtain ⟨before, rest⟩ := parts
      have hclose : cut? closer rest = none := by
        have hrest := t.unclosed before rest (cut?_eq_some hopen)
        rwa [occurs, Option.isSome_eq_false_iff, Option.isNone_iff_eq_none] at hrest
      dsimp only
      rw [hclose]

/-- There are no more templates than characters. -/
theorem Spliced.length_slots_le (t : Spliced) :
    t.slots.length ≤ (t.slots.flatMap Slot.chars ++ t.tail).length := by
  rw [List.length_append, List.length_flatMap]
  refine Nat.le_trans ?_ (Nat.le_add_right _ _)
  induction t.slots with
  | nil => exact Nat.zero_le _
  | cons s rest ih =>
    have hchars : 1 ≤ s.chars.length := by
      simp only [Slot.chars, opener, List.length_append, List.length_cons]
      omega
    rw [List.map_cons, List.sum_cons, List.length_cons]
    omega

/-- A text with templates is cut into its templates and the texts around them. -/
theorem Spliced.pieces_text (t : Spliced) :
    Template.pieces t.text.toList = t.slots.flatMap Slot.pieces ++ [.literal t.tail] := by
  -- Each template takes one unit of fuel.
  have hpieces : ∀ (slots : List Slot) (fuel : Nat), slots.length ≤ fuel →
      piecesWithin fuel (slots.flatMap Slot.chars ++ t.tail) =
        slots.flatMap Slot.pieces ++ [.literal t.tail] := by
    intro slots
    induction slots with
    | nil =>
      intro fuel _
      exact t.piecesWithin_tail fuel
    | cons s rest ih =>
      intro fuel hfuel
      obtain ⟨fuel, rfl⟩ := Nat.exists_eq_add_of_le' hfuel
      rw [List.flatMap_cons, List.append_assoc, List.length_cons, ← Nat.add_assoc,
        s.piecesWithin_append, ih _ (Nat.le_add_left _ _), List.flatMap_cons, List.append_assoc]
  rw [Template.pieces, Spliced.text, String.toList_ofList]
  exact hpieces t.slots _ t.length_slots_le

end Template

/-! ## What they resolve to -/

namespace Resolver

variable (r : Resolver) (ctx : Context)

/-- What is put in the place of a template: the displayed value of its expression, and nothing if
that has none. -/
def shown (expression : String) : String :=
  match r.resolve ctx expression with
  | .ok v => v.display
  | .error _ => ""

/-- Why an expression has no value. -/
def fault? (expression : String) : Option BindingFault :=
  match r.resolve ctx expression with
  | .ok _ => none
  | .error fault => some fault

/-- A template comes to what its expression shows, after the text before it. -/
theorem join_slot (s : Template.Slot) (rest : List Template.Piece) :
    r.join ctx (s.pieces ++ rest) =
      (s.before ++ ((r.shown ctx s.expression).toList ++ (r.join ctx rest).1),
        (r.fault? ctx s.expression).toList ++ (r.join ctx rest).2) := by
  rw [Template.Slot.pieces, List.cons_append, List.cons_append, List.nil_append, join, join,
    shown, fault?, Template.Slot.expression]
  cases r.resolve ctx (String.ofList (trim s.inner)) with
  | ok v => rfl
  | error fault => rfl

/-- Joining templates fills their places and gathers the faults of their expressions. -/
theorem join_slots (slots : List Template.Slot) (tail : List Char) :
    r.join ctx (slots.flatMap Template.Slot.pieces ++ [.literal tail]) =
      (slots.flatMap (fun s => s.before ++ (r.shown ctx s.expression).toList) ++ tail,
        (slots.map Template.Slot.expression).filterMap (r.fault? ctx)) := by
  induction slots with
  | nil => simp [join]
  | cons s rest ih =>
    rw [List.flatMap_cons, List.append_assoc, join_slot, ih, List.flatMap_cons, List.map_cons]
    cases hfault : r.fault? ctx s.expression with
    | none => simp [hfault]
    | some fault => simp [hfault]

/-- The expressions that are evaluated in a text with templates are those of its templates. -/
theorem evaluated_spliced {t : Template.Spliced} (h : Template.single? t.text = none) :
    Template.evaluated t.text = t.expressions := by
  rw [Template.evaluated, h]
  dsimp only
  rw [t.pieces_text, List.filterMap_append, List.filterMap_flatMap, Template.Spliced.expressions]
  induction t.slots with
  | nil => rfl
  | cons s rest ih =>
    rw [List.flatMap_cons, List.append_assoc, ih]
    rfl

/-- A text with templates that is no single template resolves to the text with what its expressions
show in the places of the templates. The failures are those of its expressions, in order, and the
expressions that are passed to the resolver are those of its templates and no others. -/
theorem resolveAt_spliced (field path : String) (t : Template.Spliced)
    (h : Template.single? t.text = none) :
    r.resolveAt ctx field path (.string t.text) =
        (.string (t.fill (r.shown ctx)),
          (t.expressions.filterMap (r.fault? ctx)).map fun fault => ⟨field, path, fault⟩) ∧
      r.passed ctx t.text = t.expressions := by
  constructor
  · rw [resolveAt, resolveText, h]
    dsimp only
    rw [splice_eq, t.pieces_text, join_slots]
    rfl
  · rw [passed_eq_evaluated, evaluated_spliced h]

/-- Two templates and a third one that is not closed. The first one resolves to its own text, which
stays, and the second one has no value. -/
theorem resolveAt_spliced_two :
    let s := "é$\x7b\x7btrigger.a\x7d\x7d\x7d$$\x7b\x7b script x \x7d\x7d, $\x7b\x7b open"
    let a := "$\x7b\x7btrigger.a\x7d\x7d"
    let ctx : Context := { tenant := ⟨"t"⟩, trigger := .object [("a", .string a)] }
    let r : Resolver := {}
    Template.single? s = none ∧
      r.resolveAt ctx "row" "row.name" (.string s) =
        (.string "é$\x7b\x7btrigger.a\x7d\x7d\x7d$, $\x7b\x7b open",
          [⟨"row", "row.name", .syntaxFault .unquotedScript⟩]) ∧
      r.passed ctx s = ["trigger.a", "script x"] := by
  intro s a ctx r
  let t : Template.Spliced :=
    { slots := [⟨['é'], "trigger.a".toList, by decide, by decide, by decide⟩,
        ⟨['\x7d', '$'], " script x ".toList, by decide, by decide, by decide⟩]
      tail := ", $\x7b\x7b open".toList
      unclosed := Template.unclosed_of_not_mem (by decide) }
  have htext : t.text = s := by decide +kernel
  have hsingle : Template.single? s = none := by decide +kernel
  have hexpressions : t.expressions = ["trigger.a", "script x"] := by decide +kernel
  have hfill : t.fill (r.shown ctx) = "é$\x7b\x7btrigger.a\x7d\x7d\x7d$, $\x7b\x7b open" := by
    decide +kernel
  have hfaults : ["trigger.a", "script x"].filterMap (r.fault? ctx) =
      [.syntaxFault .unquotedScript] := by
    decide +kernel
  have hspliced := r.resolveAt_spliced ctx "row" "row.name" t (htext ▸ hsingle)
  rw [htext, hexpressions, hfill, hfaults] at hspliced
  exact ⟨hsingle, hspliced⟩

end Resolver

end Automation
