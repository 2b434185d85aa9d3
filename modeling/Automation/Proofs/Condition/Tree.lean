import Automation.Proofs.Condition.Split
import Automation.Resolve

/-!
# The trees of conditions

The check of a condition (`Condition.checkNode`) and its evaluation (`Condition.nodeHolds`) both go
through the text, each on its own. What they agree about is the tree of the text
(`Condition.ofChars`): alternatives, parts that all have to hold, and comparisons below negations,
each part having the tree of its own text (`Condition.ofChars_eq`).
The check accepts a text if every comparison in its tree is acceptable (`Condition.checkNode_eq`),
and what a text means is what its tree does (`Condition.nodeHolds_eq`).
-/

namespace Automation

open Text

/-- A comparison, or an operand alone. Operands are texts. -/
inductive Comparison where
  | includes (left right : List Char)
  | unequal (left right : List Char)
  | equal (left right : List Char)
  | operand (text : List Char)
  deriving DecidableEq, Repr

/-- A condition: alternatives, parts that all have to hold, or a comparison below a number of
negations. -/
inductive Condition where
  | any (parts : List Condition)
  | all (parts : List Condition)
  | atom (negations : Nat) (comparison : Comparison)
  deriving Repr

namespace Condition

/-! ## The tree of a text -/

/-- The comparison that a text without outer `||`, `&&` and leading negations makes. -/
def comparisonOf (cs : List Char) : Comparison :=
  match splitIncludes? cs with
  | some (left, right) => .includes left right
  | none =>
    match cutOuter? unequalMark cs with
    | some (left, right) => .unequal (trim left) (trim right)
    | none =>
      match cutOuter? equalMark cs with
      | some (left, right) => .equal (trim left) (trim right)
      | none => .operand cs

/-- The tree of a text; a part of a text is shorter than the text, so its length is fuel enough. -/
def ofCharsWithin : Nat → List Char → Condition
  | 0, cs => .atom 0 (comparisonOf cs)
  | fuel + 1, cs =>
    match split? orMark cs with
    | some found => .any (found.map (ofCharsWithin fuel))
    | none =>
      match split? andMark cs with
      | some found => .all (found.map (ofCharsWithin fuel))
      | none =>
        let (count, inner) := dropNegations cs.length (trimStart cs)
        .atom count (comparisonOf (trim inner))

/-- The tree of a normalized condition. -/
def ofChars (cs : List Char) : Condition :=
  ofCharsWithin (cs.length + 1) cs

/-- Any fuel that exceeds the length of a text gives the same tree. -/
theorem ofCharsWithin_congr {fuel fuel' : Nat} {cs : List Char} (h : cs.length < fuel)
    (h' : cs.length < fuel') : ofCharsWithin fuel cs = ofCharsWithin fuel' cs := by
  induction fuel generalizing fuel' cs with
  | zero => exact absurd h (Nat.not_lt_zero _)
  | succ fuel ih =>
    obtain ⟨fuel', rfl⟩ := Nat.exists_eq_add_one_of_ne_zero (Nat.ne_zero_of_lt h')
    have hpart (part : List Char) (hlt : part.length < cs.length) :
        ofCharsWithin fuel part = ofCharsWithin fuel' part :=
      ih (by omega) (by omega)
    rw [ofCharsWithin, ofCharsWithin]
    cases hor : split? orMark cs with
    | some found => exact congrArg any (map_congr_of_split? plain_orMark hor hpart)
    | none =>
      cases hand : split? andMark cs with
      | some found => exact congrArg all (map_congr_of_split? plain_andMark hand hpart)
      | none => rfl

/-- The tree of a text is made of the trees of its parts. The check and the evaluation of the text
take the same branches, so it is their recursion too. -/
theorem ofChars_eq (cs : List Char) :
    ofChars cs =
      match split? orMark cs with
      | some found => .any (found.map ofChars)
      | none =>
        match split? andMark cs with
        | some found => .all (found.map ofChars)
        | none =>
          let (count, inner) := dropNegations cs.length (trimStart cs)
          .atom count (comparisonOf (trim inner)) := by
  have hpart (part : List Char) (hlt : part.length < cs.length) :
      ofCharsWithin cs.length part = ofChars part :=
    ofCharsWithin_congr hlt (Nat.lt_succ_self _)
  rw [ofChars, ofCharsWithin]
  cases hor : split? orMark cs with
  | some found => exact congrArg any (map_congr_of_split? plain_orMark hor hpart)
  | none =>
    cases hand : split? andMark cs with
    | some found => exact congrArg all (map_congr_of_split? plain_andMark hand hpart)
    | none => rfl

/-! ## Acceptable trees -/

/-- Accepts a comparison whose operands are acceptable. -/
def checkComparison : Comparison → Except Fault Unit
  | .operand [] => .error .danglingNegation
  | .operand cs => checkOperand cs
  | .includes left right =>
    if right.isEmpty then .error .missingArgument
    else do
      checkOperand left
      checkOperand right
  | .unequal left right => checkSides left right
  | .equal left right => checkSides left right

mutual

/-- Accepts a tree whose comparisons are acceptable; the first fault from the left wins. -/
def checkTree : Condition → Except Fault Unit
  | .any parts => checkParts parts
  | .all parts => checkParts parts
  | .atom _ comparison => checkComparison comparison

/-- Accepts trees one after the other. -/
def checkParts : List Condition → Except Fault Unit
  | [] => .ok ()
  | part :: rest => do
    checkTree part
    checkParts rest

end

/-- The check of a comparison reads it off the text as the tree does. -/
theorem checkAtom_eq (cs : List Char) : checkAtom cs = checkComparison (comparisonOf cs) := by
  cases cs with
  | nil => rfl
  | cons c cs =>
    rw [checkAtom, comparisonOf, if_neg (by simp)]
    cases splitIncludes? (c :: cs) with
    | some sides => rfl
    | none =>
      cases cutOuter? unequalMark (c :: cs) with
      | some sides => rfl
      | none => cases cutOuter? equalMark (c :: cs) <;> rfl

/-- Texts are acceptable one after the other if their trees are. -/
theorem checkEach_eq {accept : List Char → Except Fault Unit} {tree : List Char → Condition}
    (h : ∀ cs, accept cs = checkTree (tree cs)) (found : List (List Char)) :
    checkEach accept found = checkParts (found.map tree) := by
  induction found with
  | nil => rfl
  | cons part rest ih => rw [checkEach, List.map_cons, checkParts, h part, ih]

/-- The check of a text is that of its tree. -/
theorem checkNode_eq (fuel : Nat) (cs : List Char) :
    checkNode fuel cs = checkTree (ofCharsWithin fuel cs) := by
  induction fuel generalizing cs with
  | zero => exact checkAtom_eq cs
  | succ fuel ih =>
    rw [checkNode, ofCharsWithin]
    cases split? orMark cs with
    | some found => exact checkEach_eq ih found
    | none =>
      cases split? andMark cs with
      | some found => exact checkEach_eq ih found
      | none => exact checkAtom_eq _

/-- The tree of a text that the check accepts and that is no script is accepted. -/
theorem tree_of_check {s : String} (h : check s = .ok ()) (hscript : Template.isScript s = false) :
    checkTree (ofChars (trim s.toList)) = .ok () := by
  have hscript' : Template.isScript (String.ofList (trim s.toList)) = false := by
    rwa [Template.isScript, String.toList_ofList, trim_trim]
  unfold check at h
  dsimp only at h
  rw [hscript', checkNode_eq] at h
  split at h
  · cases h
  · split at h
    · next hyes => cases hyes
    · split at h
      · cases h
      · split at h
        · cases h
        · exact h

/-! ## The meaning of trees -/

/-- A comparison is true in a context. -/
def comparisonHolds (ctx : Context) : Comparison → Bool
  | .includes left right => Json.includes (operandValue ctx left) (operandValue ctx right)
  | .unequal left right => !Json.alike (operandValue ctx left) (operandValue ctx right)
  | .equal left right => Json.alike (operandValue ctx left) (operandValue ctx right)
  | .operand cs => (operandValue ctx cs).isTruthy

mutual

/-- A condition is true in a context. -/
def holds (ctx : Context) : Condition → Bool
  | .any parts => anyHolds ctx parts
  | .all parts => allHold ctx parts
  | .atom negations comparison => (negations % 2 == 1) != comparisonHolds ctx comparison

/-- One of the conditions is true. -/
def anyHolds (ctx : Context) : List Condition → Bool
  | [] => false
  | part :: rest => holds ctx part || anyHolds ctx rest

/-- All of the conditions are true. -/
def allHold (ctx : Context) : List Condition → Bool
  | [] => true
  | part :: rest => holds ctx part && allHold ctx rest

end

variable (ctx : Context)

/-- Blanks around an operand do not count. -/
theorem operandValue_trim (operand : List Char) :
    operandValue ctx (trim operand) = operandValue ctx operand := by
  rw [operandValue, operandValue, trim_trim]

/-- The evaluation of a comparison reads it off the text as the tree does. -/
theorem atomHolds_eq (cs : List Char) :
    atomHolds ctx cs = comparisonHolds ctx (comparisonOf cs) := by
  rw [atomHolds, comparisonOf]
  cases splitIncludes? cs with
  | some sides => rfl
  | none =>
    cases cutOuter? unequalMark cs with
    | some sides =>
      dsimp only
      rw [comparisonHolds, operandValue_trim, operandValue_trim]
    | none =>
      cases cutOuter? equalMark cs with
      | some sides =>
        dsimp only
        rw [comparisonHolds, operandValue_trim, operandValue_trim]
      | none => rfl

/-- One of some texts is true if one of their trees is. -/
theorem any_eq {true? : List Char → Bool} {tree : List Char → Condition}
    (h : ∀ cs, true? cs = (tree cs).holds ctx) (found : List (List Char)) :
    found.any true? = anyHolds ctx (found.map tree) := by
  induction found with
  | nil => rfl
  | cons part rest ih => rw [List.any_cons, List.map_cons, anyHolds, h part, ih]

/-- All of some texts are true if all of their trees are. -/
theorem all_eq {true? : List Char → Bool} {tree : List Char → Condition}
    (h : ∀ cs, true? cs = (tree cs).holds ctx) (found : List (List Char)) :
    found.all true? = allHold ctx (found.map tree) := by
  induction found with
  | nil => rfl
  | cons part rest ih => rw [List.all_cons, List.map_cons, allHold, h part, ih]

/-- A text means what its tree does. -/
theorem nodeHolds_eq (fuel : Nat) (cs : List Char) :
    nodeHolds ctx fuel cs = (ofCharsWithin fuel cs).holds ctx := by
  induction fuel generalizing cs with
  | zero =>
    rw [nodeHolds, ofCharsWithin, holds, atomHolds_eq]
    exact (Bool.false_bne _).symm
  | succ fuel ih =>
    rw [nodeHolds, ofCharsWithin]
    cases split? orMark cs with
    | some found => exact any_eq ctx ih found
    | none =>
      cases split? andMark cs with
      | some found => exact all_eq ctx ih found
      | none =>
        dsimp only
        rw [holds, atomHolds_eq]

/-- What is normalized to a text that is neither empty nor a script has the meaning of its tree. -/
theorem condition_eq_holds (r : Resolver) {raw : String} (hne : normalize raw ≠ "")
    (hscript : Template.isScript (normalize raw) = false) :
    r.condition ctx raw = .ok ((ofChars (normalize raw).toList).holds ctx) := by
  have hempty : (normalize raw).isEmpty = false := by simpa using hne
  unfold Resolver.condition
  dsimp only
  rw [hempty, hscript, nodeHolds_eq]
  rfl

end Condition

end Automation
