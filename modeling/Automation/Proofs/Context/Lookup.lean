import Automation.Proofs.Text.Search
import Automation.Proofs.Text.Trim
import Automation.Resolve

/-!
# Expressions that look a path up

An expression whose first segment is one of the roots of a context is no script, whatever comes
after the root, so it resolves to what its segments lead to (`Resolver.resolve_of_segments`). This
is the only place where the syntax of expressions matters for lookups: everything else about them is
said of segments.
-/

namespace Automation

open Text

namespace Path

/-- A segment that is not empty is put in front of the others. -/
theorem push_of_ne_nil {segment : List Char} (h : segment ≠ []) (rest : List (List Char)) :
    push segment rest = segment :: rest := by
  rw [push, if_neg (by simpa using h)]

/-- A segment goes on with any character but a dot and a bracket that opens. -/
theorem segmentsFrom_cons {c : Char} (hdot : c ≠ '.') (hbracket : c ≠ '[')
    (current cs : List Char) :
    segmentsFrom current (c :: cs) = segmentsFrom (current ++ [c]) cs := by
  rw [segmentsFrom]
  · exact hdot
  · exact hbracket

/-- Characters that end no segment go on with the one that has been started. -/
theorem segmentsFrom_append {u : List Char} (h : ∀ c ∈ u, c ≠ '.' ∧ c ≠ '[')
    (current v : List Char) : segmentsFrom current (u ++ v) = segmentsFrom (current ++ u) v := by
  induction u generalizing current with
  | nil => rw [List.nil_append, List.append_nil]
  | cons c u ih =>
    obtain ⟨⟨hdot, hbracket⟩, hrest⟩ := List.forall_mem_cons.1 h
    rw [List.cons_append, segmentsFrom_cons hdot hbracket, ih hrest, List.append_assoc,
      List.singleton_append]

/-- A segment goes on until it ends, and other segments may come after it. -/
theorem exists_segmentsFrom (current : List Char) (h : current ≠ []) (cs : List Char) :
    ∃ more rest, segmentsFrom current cs = (current ++ more) :: rest := by
  induction cs generalizing current with
  | nil =>
    refine ⟨[], [], ?_⟩
    rw [List.append_nil]
    exact push_of_ne_nil h []
  | cons c cs ih =>
    by_cases hdot : c = '.'
    · subst hdot
      refine ⟨[], segmentsFrom [] cs, ?_⟩
      rw [List.append_nil]
      exact push_of_ne_nil h _
    · by_cases hbracket : c = '['
      · subst hbracket
        refine ⟨[], bracketFrom [] cs, ?_⟩
        rw [List.append_nil]
        exact push_of_ne_nil h _
      · obtain ⟨more, rest, hrest⟩ := ih (current ++ [c]) (by simp)
        refine ⟨c :: more, rest, ?_⟩
        rw [segmentsFrom_cons hdot hbracket, hrest, List.append_assoc]
        rfl

end Path

/-- The names with which lookups start. -/
def Context.roots : List String :=
  ["trigger", "env", "steps", "loop"]

namespace Template

/-- The first segment of a script starts with the word that marks scripts. -/
theorem segments_of_scriptLiteral? {cs literal : List Char} (h : scriptLiteral? cs = some literal) :
    ∃ more rest, Path.segments cs = String.ofList (scriptMarker ++ more) :: rest := by
  unfold scriptLiteral? at h
  obtain ⟨rest, hrest, -⟩ := Option.bind_eq_some_iff.1 h
  obtain rfl := stripStart?_eq_some_iff.1 hrest
  obtain ⟨more, others, hsegments⟩ :=
    Path.exists_segmentsFrom scriptMarker (by decide) rest
  exact ⟨more, others.map String.ofList, congrArg (List.map String.ofList) hsegments⟩

/-- No script starts with a root of the context. -/
theorem scriptLiteral?_of_root {cs : List Char} {root : String} {rest : List String}
    (hsegments : Path.segments cs = root :: rest) (hroot : root ∈ Context.roots) :
    scriptLiteral? cs = none := by
  cases hscript : scriptLiteral? cs with
  | none => rfl
  | some literal =>
    obtain ⟨more, others, hmarked⟩ := segments_of_scriptLiteral? hscript
    rw [hmarked] at hsegments
    obtain ⟨rfl, -⟩ := List.cons.inj hsegments
    simp only [Context.roots, List.mem_cons, List.not_mem_nil, or_false, ← String.toList_inj,
      String.toList_ofList] at hroot
    rcases hroot with h | h | h | h <;> cases h

end Template

/-- An expression that starts with a root of the context is a lookup. -/
theorem Binding.ofExpression_of_root {e root : String} {rest : List String}
    (hsegments : Path.segments (trim e.toList) = root :: rest) (hroot : root ∈ Context.roots) :
    ofExpression e = .ok (.lookup (String.ofList (trim e.toList))) := by
  unfold ofExpression
  dsimp only
  rw [Template.scriptLiteral?_of_root hsegments hroot]

/-- An expression that starts with a root of the context resolves to what its segments lead to, and
to null if they lead nowhere. -/
theorem Resolver.resolve_of_segments (r : Resolver) (ctx : Context) {e root : String}
    {rest : List String} (hsegments : Path.segments (trim e.toList) = root :: rest)
    (hroot : root ∈ Context.roots) :
    r.resolve ctx e = .ok ((ctx.lookupSegments? (root :: rest)).getD .null) := by
  unfold resolve
  rw [Binding.ofExpression_of_root hsegments hroot]
  dsimp only
  rw [Context.lookup?, String.toList_ofList, trim_trim, hsegments]

end Automation
