import Automation.Json.Reader
import Automation.Template
/-!
# Conditions

A condition is an expression of operands joined by `||`, `&&`, leading `!`, `==`, `!=` and
`.includes(…)`. There is no grouping: parentheses and quotes only shield the operators inside them.
`Condition.check` splits a text at its outermost operators and says whether every operand is a JSON
literal or a path. What a condition means in a context is given where contexts are.
-/

namespace Automation

open Text

namespace Condition

/-- Drops an outer template around a condition, and blanks. The closing marker may be missing. -/
def unwrap (cs : List Char) : List Char :=
  let trimmed := trim cs
  match stripStart? Template.opener trimmed with
  | none => trimmed
  | some rest =>
    let inner := trim rest
    trim ((stripEnd? Template.closer inner).getD inner)

/-- A condition without an outer template and blanks. -/
def normalize (s : String) : String :=
  String.ofList (unwrap s.toList)

/-- A normalized condition, unless it is empty or absent. -/
def normalize? (s : Option String) : Option String :=
  (s.map normalize).filter (!·.isEmpty)

/-- Where a scan stands: inside quotes of either kind, and below how many open parentheses, which
are no more than there are characters. -/
structure Scan where
  single : Bool
  double : Bool
  depth : Nat
  deriving DecidableEq, Repr

namespace Scan

/-- Outside of all quotes and parentheses. -/
def start : Scan := ⟨false, false, 0⟩

/-- Operators count here. -/
def isOuter (s : Scan) : Bool :=
  !s.single && !s.double && s.depth == 0

/-- The place after a quote or a parenthesis; nothing for any other character. Quotes of one kind
shield those of the other, and both shield parentheses. -/
def after? (s : Scan) (c : Char) : Option Scan :=
  if c = '\'' ∧ !s.double then some { s with single := !s.single }
  else if c = '"' ∧ !s.single then some { s with double := !s.double }
  else if c = '(' ∧ !s.single ∧ !s.double then some { s with depth := s.depth + 1 }
  else if c = ')' ∧ !s.single ∧ !s.double then some { s with depth := s.depth - 1 }
  else none

end Scan

/-- The text before the first outer occurrence of an operator and the text after it. -/
def cutFrom? (operator : List Char) (s : Scan) : List Char → Option (List Char × List Char)
  | [] => none
  | c :: cs =>
    match s.after? c with
    | some next => (cutFrom? operator next cs).map fun (before, rest) => (c :: before, rest)
    | none =>
      match if s.isOuter then stripStart? operator (c :: cs) else none with
      | some rest => some ([], rest)
      | none => (cutFrom? operator s cs).map fun (before, rest) => (c :: before, rest)

/-- Cuts a text at the first operator outside of quotes and parentheses. -/
def cutOuter? (operator cs : List Char) : Option (List Char × List Char) :=
  cutFrom? operator Scan.start cs

/-- The trimmed parts between outer occurrences of an operator, empty ones left out. -/
def parts (operator : List Char) : Nat → List Char → List (List Char)
  | 0, _ => []
  | _, [] => []
  | fuel + 1, cs =>
    match cutOuter? operator cs with
    | some (before, rest) =>
      if (trim before).isEmpty then parts operator fuel rest
      else trim before :: parts operator fuel rest
    | none => if (trim cs).isEmpty then [] else [trim cs]

/-- The parts of a text that an operator joins; nothing if there is only one. -/
def split? (operator cs : List Char) : Option (List (List Char)) :=
  let found := parts operator cs.length cs
  if found.length > 1 then some found else none

/-- Drops negations at the start and counts them; the `!` of a `!=` is none. -/
def dropNegations : Nat → List Char → Nat × List Char
  | 0, cs => (0, cs)
  | fuel + 1, cs =>
    match cs with
    | '!' :: rest =>
      if rest.head? = some '=' then (0, cs)
      else
        let (count, inner) := dropNegations fuel (trimStart rest)
        (count + 1, inner)
    | _ => (0, cs)

/-- The marker between the two operands of an inclusion. -/
def includesMarker : List Char := ['.', 'i', 'n', 'c', 'l', 'u', 'd', 'e', 's', '(']

/-- The operands of an inclusion. The marker may be repeated and the closing parenthesis may be
missing. -/
def splitIncludes? (cs : List Char) : Option (List Char × List Char) :=
  (cutOuter? includesMarker cs).map fun (left, rest) =>
    let right := trim (stripStartAll includesMarker rest.length rest)
    (trim left, trim ((stripEnd? [')'] right).getD right))

/-- The operator that joins alternatives. -/
def orMark : List Char := ['|', '|']

/-- The operator that joins parts that all have to hold. -/
def andMark : List Char := ['&', '&']

/-- The operator of inequality. -/
def unequalMark : List Char := ['!', '=']

/-- The operator of equality. -/
def equalMark : List Char := ['=', '=']

/-- Why a condition is refused. -/
inductive Fault where
  | empty
  | strictEquality
  | ordering
  | danglingNegation
  | missingArgument
  | missingOperand
  | emptyOperand
  | unsupported (text : String)
  deriving DecidableEq, Repr

/-- The wording of a fault. -/
def Fault.message : Fault → String
  | .empty => "expression cannot be empty"
  | .strictEquality => "strict equality operators are unsupported; use '==' or '!='"
  | .ordering =>
    "unsupported comparison operator; only '==', '!=', '&&', '||', '!' and " ++
      "'.includes(...)' are supported"
  | .danglingNegation => "expression cannot end with negation operator"
  | .missingArgument => "includes expression is missing an argument"
  | .missingOperand => "comparison expression must include both left and right operands"
  | .emptyOperand => "operand cannot be empty"
  | .unsupported text =>
    "unsupported expression '" ++ text ++
      "'; supported roots are trigger.*, steps.*, loop.* and env.*"

/-- A text that may be a JSON literal by its first character or as a whole. -/
def looksLikeLiteral (cs : List Char) : Bool :=
  match cs with
  | [] => false
  | c :: _ =>
    c == '[' || c == '\x7b' || c == '"' || c == '-' || isDigit c ||
      String.ofList cs == "null" || String.ofList cs == "true" || String.ofList cs == "false"

/-- The JSON value that a text is a literal of. -/
def literal? (cs : List Char) : Option Json :=
  if looksLikeLiteral cs then Json.ofChars? cs else none

/-- A character of the names in a path. -/
def isNameChar (c : Char) : Bool :=
  isLetter c || isDigit c || c == '_' || c == '-'

/-- Nothing but bracketed numbers follows. `inside` tells whether a bracket is open and, if so,
whether a digit has been read in it. -/
def isIndexed : Option Bool → List Char → Bool
  | none, [] => true
  | none, '[' :: cs => isIndexed (some false) cs
  | none, _ :: _ => false
  | some _, [] => false
  | some saw, c :: cs =>
    if c = ']' then saw && isIndexed none cs else isDigit c && isIndexed (some true) cs

/-- A name followed by bracketed numbers. -/
def isSegment (cs : List Char) : Bool :=
  let name := cs.takeWhile (· != '[')
  !name.isEmpty && name.all isNameChar && isIndexed none (cs.dropWhile (· != '['))

/-- A path that conditions may use: the trigger or the loop alone, a variable of the environment, or
segments below the trigger, the steps or the loop. -/
def isPath (cs : List Char) : Bool :=
  if cs.any isBlank then false
  else if String.ofList cs == "trigger" || String.ofList cs == "loop" then true
  else
    match cut? ['.'] cs with
    | none => false
    | some (root, rest) =>
      let root := String.ofList root
      if root == "env" then !rest.isEmpty && rest.all isNameChar
      else if root == "trigger" || root == "steps" || root == "loop" then
        !rest.isEmpty && (Text.pieces ['.'] rest).all isSegment
      else false

/-- Accepts an operand that is a JSON literal or a path. -/
def checkOperand (cs : List Char) : Except Fault Unit :=
  let trimmed := trim cs
  if trimmed.isEmpty then .error .emptyOperand
  else if (literal? trimmed).isSome || isPath trimmed then .ok ()
  else .error (.unsupported (String.ofList trimmed))

/-- Accepts two operands, neither of which is missing. -/
def checkSides (left right : List Char) : Except Fault Unit :=
  if left.isEmpty ∨ right.isEmpty then .error .missingOperand
  else do
    checkOperand left
    checkOperand right

/-- Accepts a comparison whose operands are acceptable, or an operand alone. -/
def checkAtom (cs : List Char) : Except Fault Unit :=
  if cs.isEmpty then .error .danglingNegation
  else
    match splitIncludes? cs with
    | some (left, right) =>
      if right.isEmpty then .error .missingArgument
      else do
        checkOperand left
        checkOperand right
    | none =>
      match cutOuter? unequalMark cs with
      | some (left, right) => checkSides (trim left) (trim right)
      | none =>
        match cutOuter? equalMark cs with
        | some (left, right) => checkSides (trim left) (trim right)
        | none => checkOperand cs

/-- Accepts texts one after the other; the first fault from the left wins. -/
def checkEach (accept : List Char → Except Fault Unit) : List (List Char) → Except Fault Unit
  | [] => .ok ()
  | part :: rest => do
    accept part
    checkEach accept rest

/-- Accepts a text if all parts of it are acceptable that are joined by `||` or, where there is
none, by `&&`, or if it is an acceptable comparison below negations. A part of a text is shorter
than the text, so its length is fuel enough. -/
def checkNode : Nat → List Char → Except Fault Unit
  | 0, cs => checkAtom cs
  | fuel + 1, cs =>
    match split? orMark cs with
    | some found => checkEach (checkNode fuel) found
    | none =>
      match split? andMark cs with
      | some found => checkEach (checkNode fuel) found
      | none => checkAtom (trim (dropNegations cs.length (trimStart cs)).2)

/-- An operator stands outside of all quotes and parentheses. -/
def hasOuter (operator : String) (cs : List Char) : Bool :=
  (cutOuter? operator.toList cs).isSome

/-- Accepts a condition: a script, whatever its source, or a text without foreign comparison
operators whose operands are all acceptable. -/
def check (expression : String) : Except Fault Unit :=
  let trimmed := trim expression.toList
  if trimmed.isEmpty then .error .empty
  else if Template.isScript (String.ofList trimmed) then .ok ()
  else if hasOuter "===" trimmed || hasOuter "!==" trimmed then .error .strictEquality
  else if hasOuter ">=" trimmed || hasOuter "<=" trimmed || hasOuter ">" trimmed ||
      hasOuter "<" trimmed then .error .ordering
  else checkNode (trimmed.length + 1) trimmed

end Condition

end Automation
