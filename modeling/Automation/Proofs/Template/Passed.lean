import Automation.Proofs.Template.Evaluated

/-!
# What is checked and what is evaluated

The check of a definition looks for the expressions of a text from the left
(`Template.expressions`). A run first asks whether the text is a single template, and only if it is
not cuts it at its templates. `Resolver.resolveTextBy` resolves a text with any way of answering its
expressions; with the answers of a resolver that are also written down it gives the value of the
text together with the expressions that were passed to the resolver, in order
(`Resolver.run_resolveTextBy`).

The two agree on every text but those in which a third brace follows the two that should close a
single template (`Template.Overclosed`). Such a text is a template for a run, which takes the brace
into the expression, while the search from the left stops in front of it. So
`Resolver.passed_expressions` is an equivalence, and `Resolver.passed_overclosed` has a text of that
kind.
-/

namespace Automation

open Text

/-! ## Resolving with a log -/

namespace Resolver

section
variable {m : Type → Type} [Monad m] (answer : String → m (Except BindingFault Json))

/-- `spliceWithin` with any way of answering expressions, which are answered from left to right. -/
def spliceBy : Nat → List Char → m (List Char × List BindingFault)
  | 0, cs => pure (cs, [])
  | fuel + 1, cs =>
    match cut? Template.opener cs with
    | none => pure (cs, [])
    | some (before, rest) =>
      let template := Template.opener ++ rest
      match cut? Template.closer template with
      | none => pure (before ++ template, [])
      | some (opened, after) => do
        let expression := trim (opened.drop Template.opener.length)
        let value ← answer (String.ofList expression)
        let (text, faults) ← spliceBy fuel after
        match value with
        | .ok v => return (before ++ (v.display.toList ++ text), faults)
        | .error fault => return (before ++ text, fault :: faults)

/-- `resolveText` with any way of answering expressions. -/
def resolveTextBy (s : String) : m (Json × List BindingFault) :=
  match Template.single? s with
  | some expression => do
    match ← answer expression with
    | .ok v => return (v, [])
    | .error fault => return (.null, [fault])
  | none => do
    let (text, faults) ← spliceBy answer s.toList.length s.toList
    return (.string (String.ofList text), faults)

end

variable (r : Resolver) (ctx : Context)

/-- Writes an expression down at the end of a log and answers it as the resolver does. -/
def logged (expression : String) : StateM (List String) (Except BindingFault Json) := do
  modify (· ++ [expression])
  return r.resolve ctx expression

/-- The expressions that are passed to the resolver when a text is resolved, in order. -/
def passed (s : String) : List String :=
  ((resolveTextBy (r.logged ctx) s).run []).2

/-- What comes after a logged expression goes on with its answer and the longer log. -/
theorem run_logged_bind {α : Type} (expression : String)
    (next : Except BindingFault Json → StateM (List String) α) (log : List String) :
    (r.logged ctx expression >>= next).run log =
      (next (r.resolve ctx expression)).run (log ++ [expression]) :=
  rfl

/-- Splicing with a log gives what splicing gives, and logs the expressions of the pieces. -/
theorem run_spliceBy (fuel : Nat) (cs : List Char) (log : List String) :
    (spliceBy (r.logged ctx) fuel cs).run log =
      (r.spliceWithin ctx fuel cs,
        log ++ (Template.piecesWithin fuel cs).filterMap Template.Piece.evaluated?) := by
  have hliteral (cs : List Char) (log : List String) :
      log ++ [Template.Piece.literal cs].filterMap Template.Piece.evaluated? = log :=
    List.append_nil log
  induction fuel generalizing cs log with
  | zero =>
    rw [Template.piecesWithin, hliteral]
    rfl
  | succ fuel ih =>
    rw [spliceBy, spliceWithin, Template.piecesWithin]
    cases cut? Template.opener cs with
    | none =>
      dsimp only
      rw [hliteral]
      rfl
    | some parts =>
      obtain ⟨before, rest⟩ := parts
      dsimp only
      rw [Template.cut?_opener]
      cases cut? Template.closer rest with
      | none =>
        dsimp only [Option.map_none]
        rw [hliteral]
        rfl
      | some parts =>
        obtain ⟨inner, after⟩ := parts
        have hskip : Template.Piece.evaluated? (.literal before) = none := rfl
        have hpass : Template.Piece.evaluated? (.expression (trim inner)) =
            some (String.ofList (trim inner)) := rfl
        dsimp only [Option.map_some]
        rw [List.drop_left, run_logged_bind, StateT.run_bind, ih, List.filterMap_cons_none hskip,
          List.filterMap_cons_some hpass, List.append_assoc]
        cases r.resolve ctx (String.ofList (trim inner)) <;> rfl

/-- Resolving a text with a log gives what resolving it gives, and logs the expressions that are
evaluated in it. -/
theorem run_resolveTextBy (s : String) (log : List String) :
    (resolveTextBy (r.logged ctx) s).run log =
      (r.resolveText ctx s, log ++ Template.evaluated s) := by
  unfold resolveTextBy resolveText Template.evaluated
  cases Template.single? s with
  | some e =>
    dsimp only
    rw [run_logged_bind]
    cases r.resolve ctx e <;> rfl
  | none =>
    dsimp only
    rw [StateT.run_bind, run_spliceBy]
    rfl

/-- The expressions that a text passes on are those that are evaluated in it. -/
theorem passed_eq_evaluated (s : String) : r.passed ctx s = Template.evaluated s := by
  rw [passed, run_resolveTextBy, List.nil_append]

end Resolver

/-! ## Where the two readings differ -/

namespace Template

/-- A text that is a single template as a whole, but closed by three braces. -/
structure Overclosed (s : String) : Prop where
  single : (single? s).isSome
  braces : ('\x7d' :: closer) <:+ trim s.toList

/-- In a text between the markers of a template the third brace is the last character inside. -/
theorem suffix_iff {inner : List Char} :
    ('\x7d' :: closer) <:+ opener ++ (inner ++ closer) ↔ inner.getLast? = some '\x7d' := by
  constructor
  · rintro ⟨front, hfront⟩
    have hcancel : front ++ ['\x7d'] = opener ++ inner := by
      rw [← List.append_left_inj closer, List.append_assoc, List.append_assoc]
      exact hfront
    have hlast := congrArg List.getLast? hcancel
    rw [List.getLast?_concat] at hlast
    cases inner with
    | nil => cases hlast
    | cons c inner =>
      rw [getLast?_append_of_ne (by simp)] at hlast
      exact hlast.symm
  · intro hlast
    obtain ⟨init, rfl⟩ := List.getLast?_eq_some_iff.1 hlast
    exact ⟨opener ++ init, by simp⟩

/-- Of three braces in a row the first two close a template. -/
theorem cut?_overclosed {front : List Char} (h : occurs closer (front ++ ['\x7d']) = false)
    (v : List Char) :
    cut? closer (front ++ ['\x7d'] ++ (closer ++ v)) = some (front, ['\x7d'] ++ v) := by
  have hfront : occurs closer front = false := by
    rw [Bool.eq_false_iff, ne_eq, occurs_iff] at h ⊢
    rintro ⟨u, w, rfl⟩
    exact h ⟨u, w ++ ['\x7d'], by simp⟩
  have hlast : front.getLast? ≠ some '\x7d' := by
    intro hbrace
    obtain ⟨init, rfl⟩ := List.getLast?_eq_some_iff.1 hbrace
    rw [Bool.eq_false_iff, ne_eq, occurs_iff] at h
    exact h ⟨init, [], by simp [closer]⟩
  have hmove : front ++ ['\x7d'] ++ (closer ++ v) = front ++ (closer ++ (['\x7d'] ++ v)) := by
    simp [closer]
  rw [hmove]
  exact cut?_closer hfront hlast _

/-- Of the expressions of pieces a search leaves out those that are empty. -/
theorem filter_evaluated (pieces : List Piece) :
    (pieces.filterMap Piece.evaluated?).filter (· ≠ "") = pieces.filterMap Piece.expression? := by
  rw [List.filter_filterMap]
  congr 1
  funext piece
  cases piece with
  | literal cs => rfl
  | expression cs =>
    cases cs with
    | nil => rfl
    | cons c cs => simp [Piece.evaluated?, Piece.expression?]

/-- What is evaluated in a text without being empty is what a search from the left finds, just if
the text is not closed by three braces. -/
theorem filter_evaluated_iff (s : String) :
    (evaluated s).filter (· ≠ "") = expressions s ↔ ¬Overclosed s := by
  unfold evaluated
  cases hsingle : single? s with
  | none =>
    dsimp only
    rw [filter_evaluated]
    refine iff_of_true (expressions_eq s).symm fun h => ?_
    have hsome := h.single
    rw [hsingle] at hsome
    cases hsome
  | some e =>
    obtain ⟨inner, hs, hcloser, htrim, hne⟩ := single?_eq_some hsingle
    have hkept : [e].filter (· ≠ "") = [e] := by simp [hne]
    have hbraces : Overclosed s ↔ inner.getLast? = some '\x7d' := by
      rw [← suffix_iff, ← hs]
      exact ⟨fun h => h.braces, fun h => ⟨by rw [hsingle]; rfl, h⟩⟩
    dsimp only
    rw [hkept, hbraces]
    by_cases hlast : inner.getLast? = some '\x7d'
    · obtain ⟨front, rfl⟩ := List.getLast?_eq_some_iff.1 hlast
      refine iff_of_false (fun heq => ?_) (fun h => h hlast)
      -- The search finds the expression without the brace, if it finds one at all.
      rw [expressions_of_cut ['\x7d'] hs (cut?_overclosed hcloser) (by decide)] at heq
      have hfound : Piece.expression? (.expression (trim front)) = some e := by
        cases hpiece : Piece.expression? (.expression (trim front)) with
        | none =>
          rw [hpiece] at heq
          cases heq
        | some found =>
          rw [hpiece] at heq
          cases heq
          rfl
      have hsame := (Piece.expression?_eq_some_iff.1 hfound).1
      rw [← htrim] at hsame
      exact trim_concat_ne (by decide) front hsame.symm
    · exact iff_of_true (expressions_of_single? hne hs hcloser htrim hlast).symm hlast

end Template

/-- A text has the same value when the expressions that are passed to the resolver are written down.
Without empty ones these are the expressions that the check finds in the text, in the same order,
for exactly the texts that are not closed by three braces. -/
theorem Resolver.passed_expressions (r : Resolver) (ctx : Context) (s : String) :
    ((resolveTextBy (r.logged ctx) s).run []).1 = r.resolveText ctx s ∧
      ((r.passed ctx s).filter (· ≠ "") = Template.expressions s ↔ ¬Template.Overclosed s) := by
  constructor
  · rw [run_resolveTextBy]
  · rw [r.passed_eq_evaluated]
    exact Template.filter_evaluated_iff s

/-- A text in which the check finds `trigger.a`, while the expression that is evaluated ends in a
brace and leads nowhere. -/
theorem Resolver.passed_overclosed :
    let s := "$\x7b\x7b trigger.a \x7d\x7d\x7d"
    let ctx : Context := { tenant := ⟨"t"⟩, trigger := .object [("a", .string "x")] }
    let r : Resolver := {}
    Template.expressions s = ["trigger.a"] ∧ r.passed ctx s = ["trigger.a \x7d"] ∧
      (r.passed ctx s).filter (· ≠ "") ≠ Template.expressions s ∧
      r.resolve ctx "trigger.a" = .ok (.string "x") ∧ r.resolveText ctx s = (.null, []) := by
  intro s ctx r
  have hfound : Template.expressions s = ["trigger.a"] := by decide
  have hpassed : r.passed ctx s = ["trigger.a \x7d"] := by
    rw [r.passed_eq_evaluated]
    decide
  have hsingle : Template.single? s = some "trigger.a \x7d" := by decide
  refine ⟨hfound, hpassed, ?_, rfl, ?_⟩
  · rw [hfound, hpassed]
    decide
  · rw [Resolver.resolveText, hsingle]
    rfl

end Automation
