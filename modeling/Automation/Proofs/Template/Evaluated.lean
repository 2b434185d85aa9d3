import Automation.Definition.Check
import Automation.Proofs.Template.Pieces
import Automation.Proofs.Text.Trim

/-!
# The expressions that are evaluated

`Template.evaluated`, `Json.evaluated` and `Step.evaluated` list the expressions that are evaluated
when a text, a value or the inputs of a step and of its loop are resolved. Nothing else is: what
resolving gives depends on a context only as far as the values of these expressions do
(`Resolver.resolveText_congr`, `Resolver.resolveAt_congr`).

An expression that is evaluated is among those that the check of a definition looks at, unless it is
empty or ends in a brace (`Step.exists_reference`): where a third brace follows the two that close a
template, the text as a whole is a template around an expression with a brace at its end, while a
search from the left finds the end of the template earlier.
-/

namespace Automation

open Text

/-! ## Texts -/

namespace Template

/-- The expressions that are evaluated when a text is resolved, in order. -/
def evaluated (s : String) : List String :=
  match single? s with
  | some e => [e]
  | none => (pieces s.toList).filterMap Piece.evaluated?

/-- A text that is a template has its markers at its ends, and none in between. -/
theorem single?_eq_some {s e : String} (h : single? s = some e) :
    ∃ inner, trim s.toList = opener ++ (inner ++ closer) ∧ occurs closer inner = false ∧
      trim inner = e.toList ∧ e ≠ "" := by
  simp only [single?, Option.bind_eq_bind, Option.bind_eq_some_iff] at h
  obtain ⟨rest, hrest, inner, hinner, h⟩ := h
  rw [stripStart?_eq_some_iff] at hrest
  rw [stripEnd?_eq_some_iff] at hinner
  subst hinner
  split at h
  · cases h
  · next hmarkers =>
    rw [not_or] at hmarkers
    split at h
    · cases h
    · next htrim =>
      cases h
      refine ⟨inner, hrest, by simpa using hmarkers.2, (String.toList_ofList).symm, ?_⟩
      intro hempty
      exact htrim (by simpa using congrArg String.toList hempty)

/-- The first closing marker is the one after a text that neither holds one nor ends in a brace. -/
theorem cut?_closer {inner : List Char} (h : occurs closer inner = false)
    (hlast : inner.getLast? ≠ some '\x7d') (v : List Char) :
    cut? closer (inner ++ (closer ++ v)) = some (inner, v) := by
  -- A marker that starts in the text with a brace goes on with the next character of the text.
  induction inner with
  | nil => rfl
  | cons c inner ih =>
    have hnone : stripStart? closer (c :: (inner ++ (closer ++ v))) = none := by
      cases inner with
      | nil =>
        have hc : '\x7d' ≠ c := fun hc => hlast (hc ▸ rfl)
        rw [closer, stripStart?, if_neg hc]
      | cons d inner =>
        by_cases hc : '\x7d' = c
        · by_cases hd : '\x7d' = d
          · subst hc hd
            cases h
          · rw [closer, stripStart?, if_pos hc, List.cons_append, stripStart?, if_neg hd]
        · rw [closer, stripStart?, if_neg hc]
    have hlast' : inner.getLast? ≠ some '\x7d' := by
      cases inner with
      | nil => simp
      | cons d inner => rwa [List.getLast?_cons_cons] at hlast
    rw [List.cons_append, cut?, hnone]
    dsimp only
    rw [ih (occurs_of_cons h) hlast']
    rfl

/-- A text without a dollar sign has no templates. -/
theorem piecesWithin_literal {cs : List Char} (h : '$' ∉ cs) (fuel : Nat) :
    piecesWithin fuel cs = [.literal cs] := by
  cases fuel with
  | zero => rfl
  | succ fuel =>
    rw [piecesWithin, opener, cut?_eq_none h]

/-- A piece has an expression if there is one between its markers, and then that. -/
theorem Piece.expression?_eq_some_iff {cs : List Char} {e : String} :
    Piece.expression? (.expression cs) = some e ↔ cs = e.toList ∧ e ≠ "" := by
  cases cs with
  | nil =>
    constructor
    · intro h
      cases h
    · rintro ⟨hnil, hne⟩
      exact absurd (String.toList_eq_nil_iff.1 hnil.symm) hne
  | cons c cs =>
    change some (String.ofList (c :: cs)) = some e ↔ _
    rw [Option.some_inj]
    constructor
    · rintro rfl
      refine ⟨String.toList_ofList.symm, fun hempty => ?_⟩
      have hnil := congrArg String.toList hempty
      rw [String.toList_ofList] at hnil
      cases hnil
    · rintro ⟨hcs, -⟩
      rw [hcs, String.ofList_toList]

/-- What a search from the left finds in a text with templates' markers at its ends: the expression
before the first closing marker, and nothing after that. -/
theorem expressions_of_cut {s : String} {inner front : List Char} (tail : List Char)
    (hs : trim s.toList = opener ++ (inner ++ closer))
    (hcut : ∀ d, cut? closer (inner ++ (closer ++ d)) = some (front, tail ++ d))
    (htail : '$' ∉ tail) :
    expressions s = (Piece.expression? (.expression (trim front))).toList := by
  obtain ⟨b, d, hb, hd, hcs, -⟩ := exists_around_trim s.toList
  have hnotBlank : ∀ u, Blanks u → '$' ∉ u := by
    intro u hu hmem
    exact absurd (hu _ hmem) (by decide)
  rw [hs, List.append_assoc, List.append_assoc] at hcs
  have hopen : cut? opener s.toList = some (b, inner ++ (closer ++ d)) := by
    rw [hcs, opener]
    exact cut?_append (hnotBlank b hb) _
  have hafter : '$' ∉ tail ++ d := by
    rw [List.mem_append, not_or]
    exact ⟨htail, hnotBlank d hd⟩
  obtain ⟨fuel, hfuel⟩ : ∃ fuel, s.toList.length = fuel + 1 := by
    refine ⟨s.toList.length - 1, ?_⟩
    rw [hcs]
    simp only [opener, List.length_append, List.length_cons]
    omega
  have hpieces : pieces s.toList =
      [.literal b, .expression (trim front), .literal (tail ++ d)] := by
    rw [pieces, hfuel, piecesWithin, hopen]
    dsimp only
    rw [hcut d]
    dsimp only
    rw [piecesWithin_literal hafter]
  have hliteral : ∀ cs, Piece.expression? (.literal cs) = none := fun _ => rfl
  rw [expressions_eq, hpieces, List.filterMap_cons_none (hliteral b)]
  cases hfound : Piece.expression? (.expression (trim front)) with
  | none => rw [List.filterMap_cons_none hfound, List.filterMap_cons_none (hliteral _)]; rfl
  | some e => rw [List.filterMap_cons_some hfound, List.filterMap_cons_none (hliteral _)]; rfl

/-- The expression of a text that is a template is all that is found in it, unless a brace comes
before the closing marker. -/
theorem expressions_of_single? {s e : String} {inner : List Char} (hne : e ≠ "")
    (hs : trim s.toList = opener ++ (inner ++ closer)) (hcloser : occurs closer inner = false)
    (htrim : trim inner = e.toList) (hlast : inner.getLast? ≠ some '\x7d') :
    expressions s = [e] := by
  rw [expressions_of_cut [] hs (cut?_closer hcloser hlast) (by simp),
    Piece.expression?_eq_some_iff.2 ⟨htrim, hne⟩]
  rfl

/-- The expression of a text that is a template is found in it, unless it ends in a brace. -/
theorem mem_expressions_of_single? {s e : String} (h : single? s = some e)
    (hlast : e.toList.getLast? ≠ some '\x7d') : e ∈ expressions s := by
  obtain ⟨inner, hs, hcloser, htrim, hne⟩ := single?_eq_some h
  have hinner : inner.getLast? ≠ some '\x7d' := by
    intro hbrace
    rw [← htrim] at hlast
    exact hlast (getLast?_trim hbrace (by decide))
  rw [expressions_of_single? hne hs hcloser htrim hinner]
  exact List.mem_singleton_self e

/-- What is evaluated in a text is found in it, unless it is empty or ends in a brace. -/
theorem mem_expressions_of_evaluated {s e : String} (h : e ∈ evaluated s) (hne : e ≠ "")
    (hlast : e.toList.getLast? ≠ some '\x7d') : e ∈ expressions s := by
  unfold evaluated at h
  split at h
  · next single hsingle =>
    obtain rfl := List.mem_singleton.1 h
    exact mem_expressions_of_single? hsingle hlast
  · obtain ⟨piece, hpiece, hp⟩ := List.mem_filterMap.1 h
    rw [expressions_eq]
    refine List.mem_filterMap.2 ⟨piece, hpiece, ?_⟩
    cases piece with
    | literal cs => cases hp
    | expression cs =>
      cases hp
      cases cs with
      | nil => exact absurd rfl hne
      | cons c cs => rfl

end Template

/-! ## Values -/

namespace Json

mutual

/-- The expressions that are evaluated when a value is resolved, in order. -/
def evaluated : Json → List String
  | .string s => Template.evaluated s
  | .array items => evaluatedItems items
  | .object fields => evaluatedFields fields
  | _ => []

/-- The expressions that are evaluated when the items of an array are resolved. -/
def evaluatedItems : List Json → List String
  | [] => []
  | item :: rest => evaluated item ++ evaluatedItems rest

/-- The expressions that are evaluated when the fields of an object are resolved. -/
def evaluatedFields : List (String × Json) → List String
  | [] => []
  | (_, value) :: rest => evaluated value ++ evaluatedFields rest

end

end Json

/-! ## Steps -/

/-- The expressions that are evaluated when the inputs of a step and the input of its loop are
resolved. -/
def Step.evaluated (s : Step) : List String :=
  (s.inputs.list.flatMap fun (_, value) => value.evaluated) ++
    match s.loop with
    | some loop => loop.input.evaluated
    | none => []

/-! ## Nothing else is evaluated -/

namespace Resolver

section
variable {r : Resolver} {ctx ctx' : Context}

/-- What pieces come to depends on nothing but the values of their expressions. -/
theorem join_congr {pieces : List Template.Piece}
    (h : ∀ e ∈ pieces.filterMap Template.Piece.evaluated?, r.resolve ctx e = r.resolve ctx' e) :
    r.join ctx pieces = r.join ctx' pieces := by
  induction pieces with
  | nil => rfl
  | cons piece rest ih =>
    cases piece with
    | literal cs =>
      rw [join, join, ih h]
    | expression cs =>
      obtain ⟨hpiece, hrest⟩ := List.forall_mem_cons.1 h
      rw [join, join, ih hrest, hpiece]

/-- The value of a text depends on nothing but the values of its expressions. -/
theorem resolveText_congr {s : String}
    (h : ∀ e ∈ Template.evaluated s, r.resolve ctx e = r.resolve ctx' e) :
    r.resolveText ctx s = r.resolveText ctx' s := by
  unfold Template.evaluated at h
  unfold resolveText
  cases hsingle : Template.single? s with
  | some e =>
    rw [hsingle] at h
    dsimp only
    rw [h e (List.mem_singleton_self e)]
  | none =>
    rw [hsingle] at h
    dsimp only
    rw [splice_eq, splice_eq, join_congr h]

end

variable (r : Resolver) (ctx ctx' : Context)

mutual

/-- The value of a value, and the failures in it, depend on nothing but the values of its
expressions. -/
theorem resolveAt_congr (field path : String) :
    ∀ v : Json, (∀ e ∈ v.evaluated, r.resolve ctx e = r.resolve ctx' e) →
      r.resolveAt ctx field path v = r.resolveAt ctx' field path v
  | .string s, h => by
    rw [Json.evaluated] at h
    rw [resolveAt, resolveAt, resolveText_congr h]
  | .array items, h => by
    rw [Json.evaluated] at h
    rw [resolveAt, resolveAt, resolveItems_congr field path 0 items h]
  | .object fields, h => by
    rw [Json.evaluated] at h
    rw [resolveAt, resolveAt, resolveFields_congr field path fields h]
  | .null, _ | .bool _, _ | .number _, _ => rfl

/-- Items are resolved alike in contexts in which their expressions are. -/
theorem resolveItems_congr (field path : String) (index : Nat) :
    ∀ items : List Json, (∀ e ∈ Json.evaluatedItems items, r.resolve ctx e = r.resolve ctx' e) →
      r.resolveItems ctx field path index items = r.resolveItems ctx' field path index items
  | [], _ => rfl
  | item :: rest, h => by
    rw [Json.evaluatedItems, List.forall_mem_append] at h
    rw [resolveItems, resolveItems, resolveAt_congr field _ item h.1,
      resolveItems_congr field path (index + 1) rest h.2]

/-- Fields are resolved alike in contexts in which their expressions are. -/
theorem resolveFields_congr (field path : String) :
    ∀ fields : List (String × Json),
      (∀ e ∈ Json.evaluatedFields fields, r.resolve ctx e = r.resolve ctx' e) →
      r.resolveFields ctx field path fields = r.resolveFields ctx' field path fields
  | [], _ => rfl
  | (name, value) :: rest, h => by
    rw [Json.evaluatedFields, List.forall_mem_append] at h
    rw [resolveFields, resolveFields, resolveAt_congr field _ value h.1,
      resolveFields_congr field path rest h.2]

end

end Resolver

/-! ## What is evaluated is checked -/

/-- An expression that the check of a definition would miss if it is evaluated: one that is empty or
ends in a brace. -/
def Template.Missed (e : String) : Prop :=
  e = "" ∨ e.toList.getLast? = some '\x7d'

mutual

/-- What is evaluated in a value is among the references in it, unless those miss it. -/
theorem Json.exists_reference (e : String) (he : ¬Template.Missed e) (path : String) :
    ∀ v : Json, e ∈ v.evaluated → ∃ r ∈ Template.references path v, r.expression = e
  | .string s, h => by
    obtain ⟨hne, hlast⟩ := not_or.1 he
    rw [Json.evaluated] at h
    rw [Template.references]
    exact ⟨_, List.mem_map_of_mem (Template.mem_expressions_of_evaluated h hne hlast), rfl⟩
  | .array items, h => by
    rw [Json.evaluated] at h
    rw [Template.references]
    exact Json.exists_itemReference e he path 0 items h
  | .object fields, h => by
    rw [Json.evaluated] at h
    rw [Template.references]
    exact Json.exists_fieldReference e he path fields h
  | .null, h | .bool _, h | .number _, h => by
    rw [Json.evaluated] at h
    · cases h
    all_goals simp

/-- An expression that is evaluated in items and not missed is one of their references. -/
theorem Json.exists_itemReference (e : String) (he : ¬Template.Missed e) (path : String)
    (index : Nat) : ∀ items : List Json, e ∈ Json.evaluatedItems items →
      ∃ r ∈ Template.itemReferences path index items, r.expression = e
  | [], h => by cases h
  | item :: rest, h => by
    rw [Json.evaluatedItems, List.mem_append] at h
    rw [Template.itemReferences]
    rcases h with hitem | hrest
    · obtain ⟨r, hr, heq⟩ := Json.exists_reference e he (Template.itemPath path index) item hitem
      exact ⟨r, List.mem_append_left _ hr, heq⟩
    · obtain ⟨r, hr, heq⟩ := Json.exists_itemReference e he path (index + 1) rest hrest
      exact ⟨r, List.mem_append_right _ hr, heq⟩

/-- An expression that is evaluated in fields and not missed is one of their references. -/
theorem Json.exists_fieldReference (e : String) (he : ¬Template.Missed e) (path : String) :
    ∀ fields : List (String × Json), e ∈ Json.evaluatedFields fields →
      ∃ r ∈ Template.fieldReferences path fields, r.expression = e
  | [], h => by cases h
  | (name, value) :: rest, h => by
    rw [Json.evaluatedFields, List.mem_append] at h
    rw [Template.fieldReferences]
    rcases h with hvalue | hrest
    · obtain ⟨r, hr, heq⟩ := Json.exists_reference e he (Template.fieldPath path name) value hvalue
      exact ⟨r, List.mem_append_left _ hr, heq⟩
    · obtain ⟨r, hr, heq⟩ := Json.exists_fieldReference e he path rest hrest
      exact ⟨r, List.mem_append_right _ hr, heq⟩

end

/-- What is evaluated for a step is among the references of the step, unless those miss it. -/
theorem Step.exists_reference {s : Step} {e : String} (h : e ∈ s.evaluated)
    (he : ¬Template.Missed e) : ∃ r ∈ Definition.stepReferences s, r.expression = e := by
  unfold Step.evaluated at h
  unfold Definition.stepReferences
  rcases List.mem_append.1 h with hinput | hloop
  · obtain ⟨⟨field, value⟩, hfield, hvalue⟩ := List.mem_flatMap.1 hinput
    obtain ⟨r, hr, heq⟩ := Json.exists_reference e he ("inputs." ++ field) value hvalue
    exact ⟨r, List.mem_append_left _ (List.mem_flatMap.2 ⟨_, hfield, hr⟩), heq⟩
  · cases hs : s.loop with
    | none =>
      rw [hs] at hloop
      cases hloop
    | some loop =>
      rw [hs] at hloop
      obtain ⟨r, hr, heq⟩ := Json.exists_reference e he "loop.input" loop.input hloop
      exact ⟨r, List.mem_append_right _ hr, heq⟩

end Automation
