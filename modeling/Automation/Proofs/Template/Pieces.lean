import Automation.Proofs.Text.Search
import Automation.Resolve

/-!
# The pieces of a text with templates

The check of a definition looks for the expressions of a text (`Template.expressions`), and a run
puts values in the places of its templates (`Resolver.splice`). Both go through the text from the
left, and a run keeps what the check leaves out: the text between templates, templates without an
expression, and one that is not closed. `Template.pieces` has all of it. The expressions that the
check finds are those of the pieces that are not empty (`Template.expressions_eq`), and splicing
joins what the pieces stand for (`Resolver.splice_eq`).
-/

namespace Automation

open Text

namespace Template

/-- A part of a text: characters that stand for themselves, or a trimmed expression. -/
inductive Piece where
  | literal (chars : List Char)
  | expression (chars : List Char)
  deriving DecidableEq, Repr

/-- Cuts a text at its templates; a template that is not closed is literal. `fuel` bounds the number
of templates. -/
def piecesWithin : Nat → List Char → List Piece
  | 0, cs => [.literal cs]
  | fuel + 1, cs =>
    match cut? opener cs with
    | none => [.literal cs]
    | some (before, rest) =>
      match cut? closer rest with
      | none => [.literal cs]
      | some (inner, after) =>
        .literal before :: .expression (trim inner) :: piecesWithin fuel after

/-- Cuts a text at its templates. -/
def pieces (cs : List Char) : List Piece :=
  piecesWithin cs.length cs

/-- The expression of a piece, if it has one that is not empty. -/
def Piece.expression? : Piece → Option String
  | .literal _ => none
  | .expression [] => none
  | .expression cs => some (String.ofList cs)

/-- The expression of a piece, be it empty or not. -/
def Piece.evaluated? : Piece → Option String
  | .literal _ => none
  | .expression cs => some (String.ofList cs)

/-! ## Looking for expressions -/

/-- A search finds the expressions of the pieces, as many templates as there may be. -/
theorem expressionsWithin_eq (fuel : Nat) (cs : List Char) :
    expressionsWithin fuel cs = (piecesWithin fuel cs).filterMap Piece.expression? := by
  induction fuel generalizing cs with
  | zero => rfl
  | succ fuel ih =>
    rw [expressionsWithin, piecesWithin]
    cases cut? opener cs with
    | none => rfl
    | some parts =>
      obtain ⟨before, rest⟩ := parts
      dsimp only
      cases cut? closer rest with
      | none => rfl
      | some parts =>
        obtain ⟨inner, after⟩ := parts
        dsimp only
        rw [ih]
        cases trim inner <;> rfl

/-- A search finds the expressions of the pieces of a text. -/
theorem expressions_eq (s : String) :
    expressions s = (pieces s.toList).filterMap Piece.expression? :=
  expressionsWithin_eq s.toList.length s.toList

/-- No closing marker begins inside of an opening one. -/
theorem cut?_opener (rest : List Char) :
    cut? closer (opener ++ rest) =
      (cut? closer rest).map fun (inner, after) => (opener ++ inner, after) :=
  cut?_append_of_not_mem (by decide) rest

end Template

/-! ## Putting values in -/

namespace Resolver

variable (r : Resolver) (ctx : Context)

/-- What pieces come to: their characters, or those of the values of their expressions, and the
faults of these. -/
def join : List Template.Piece → List Char × List BindingFault
  | [] => ([], [])
  | .literal cs :: rest => (cs ++ (join rest).1, (join rest).2)
  | .expression cs :: rest =>
    match r.resolve ctx (String.ofList cs) with
    | .ok v => (v.display.toList ++ (join rest).1, (join rest).2)
    | .error fault => ((join rest).1, fault :: (join rest).2)

/-- A text with as many templates as there may be comes to what its pieces do. -/
theorem spliceWithin_eq (fuel : Nat) (cs : List Char) :
    r.spliceWithin ctx fuel cs = r.join ctx (Template.piecesWithin fuel cs) := by
  have hliteral (cs : List Char) : r.join ctx [.literal cs] = (cs, []) := by
    rw [join, join, List.append_nil]
  induction fuel generalizing cs with
  | zero => exact (hliteral cs).symm
  | succ fuel ih =>
    rw [spliceWithin, Template.piecesWithin]
    cases hopen : cut? Template.opener cs with
    | none => exact (hliteral cs).symm
    | some parts =>
      obtain ⟨before, rest⟩ := parts
      dsimp only
      rw [Template.cut?_opener]
      cases cut? Template.closer rest with
      | none =>
        dsimp only [Option.map_none]
        rw [hliteral, cut?_eq_some hopen]
      | some parts =>
        obtain ⟨inner, after⟩ := parts
        dsimp only [Option.map_some]
        rw [List.drop_left, ih, join, join]
        cases r.resolve ctx (String.ofList (trim inner)) <;> rfl

/-- A text comes to what its pieces do. -/
theorem splice_eq (cs : List Char) : r.splice ctx cs = r.join ctx (Template.pieces cs) :=
  r.spliceWithin_eq ctx cs.length cs

end Resolver

end Automation
