import Automation.Script.Method
/-!
# Simplifying programs

Before a program runs it is made simpler, from the inside out. Operators between values are
computed, constants stand for their values, choices with a known condition are made, and statements
that can be seen to change nothing are left out. A statement that is left out cannot fail any more:
a name alone on a line is never looked up. The last statement of a block whose value counts is kept.
-/

namespace Automation.Script

/-- The names in scope, innermost first, with the values of those that are known constants. -/
abbrev Known := List (String × Option Value)

/-- The value of a constant. -/
def Known.value? (k : Known) (name : String) : Option Value :=
  (k.lookup name).join

/-- The values of expressions that are all literals. -/
def literals? : List Expr → Option (List Value)
  | [] => some []
  | .literal v _ :: rest => (literals? rest).map (v :: ·)
  | _ => none

/-- The fields of entries that are all literals. -/
def literalFields? : List (String × Expr) → Option (List (String × Value))
  | [] => some []
  | (name, .literal v _) :: rest => (literalFields? rest).map ((name, v) :: ·)
  | _ => none

mutual

/-- An expression that changes nothing and asks for nothing but variables. -/
def Expr.isPure : Expr → Bool
  | .literal .. | .variable .. => true
  | .array items _ => Expr.allPure items
  | .map entries _ => Expr.allEntriesPure entries
  | .both l r _ | .either l r _ => l.isPure && r.isPure
  | .block body _ => Statement.allPure body
  | _ => false

/-- All expressions are pure. -/
def Expr.allPure : List Expr → Bool
  | [] => true
  | e :: rest => e.isPure && Expr.allPure rest

/-- The values of all entries are pure. -/
def Expr.allEntriesPure : List (String × Expr) → Bool
  | [] => true
  | (_, e) :: rest => e.isPure && Expr.allEntriesPure rest

/-- A statement that changes nothing and comes to an end. -/
def Statement.isPure : Statement → Bool
  | .noop _ => true
  | .expression e => e.isPure
  | .group body _ => Statement.allPure body
  | .choose condition yes no _ =>
    condition.isPure && Statement.allPure yes && Statement.allPure no
  | .while_ (.literal (.bool false) _) _ _ _ => true
  | .forEach _ collection body _ => collection.isPure && Statement.allPure body
  | _ => false

/-- All statements are pure. -/
def Statement.allPure : List Statement → Bool
  | [] => true
  | s :: rest => s.isPure && Statement.allPure rest

end

/-- A statement with a value. -/
def Statement.hasValue : Statement → Bool
  | .choose .. | .group .. | .expression _ => true
  | _ => false

/-- No statement after this one in a block is reached. -/
def Statement.breaks : Statement → Bool
  | .leave .. | .fail .. | .break_ .. | .continue_ _ => true
  | _ => false

/-- A statement that means something else outside of its block. -/
def Statement.needsBlock : Statement → Bool
  | .declare .. => true
  | _ => false

/-- The statements up to the first one that breaks. -/
def reached : List Statement → List Statement
  | [] => []
  | s :: rest => if s.breaks then [s] else s :: reached rest

/-- Leaves out the statements that are pure, but not the last one if its value counts. -/
def dropPure (keep : Bool) : List Statement → List Statement
  | [] => []
  | [s] => if keep || !s.isPure then [s] else []
  | s :: rest => if s.isPure then dropPure keep rest else s :: dropPure keep rest

/-- Tidies the end of a block whose value counts, given the last statement first: a pure statement
without a value gives way to the value of nothing. -/
def tidyEnd : List Statement → List Statement
  | [] => []
  | [s] => if s.isPure && !s.hasValue then [] else [s]
  | .noop p :: before :: rest =>
    if before.hasValue then .noop p :: before :: rest else tidyEnd (before :: rest)
  | s :: before :: rest =>
    if s.isPure && !s.hasValue then
      if before.hasValue then .noop s.position :: before :: rest else tidyEnd (before :: rest)
    else s :: before :: rest

/-- A `return` at the end of a script is the value of the script, given the last statement first. -/
def unreturned : List Statement → List Statement
  | [.leave none _] => []
  | .leave none p :: before :: rest =>
    if before.hasValue then .noop p :: before :: rest else before :: rest
  | .leave (some e) _ :: rest => .expression e :: rest
  | rest => rest

/-- What is left of the statements of a block after each of them is simplified. -/
def tidy (keep : Bool) (statements : List Statement) : List Statement :=
  let kept := dropPure keep (reached statements)
  if keep then (tidyEnd kept.reverse).reverse else kept

/-- A block with the statements that are left of it; one statement needs no block. -/
def regroup (body : List Statement) (p : Position) : Statement :=
  match body with
  | [] => .noop p
  | [s] => if s.needsBlock then .group [s] p else s
  | _ => .group body p

/-- An expression for the statements that are left of a block. -/
def blockValue (body : List Statement) (p : Position) : Expr :=
  match body with
  | [] => .literal .unit p
  | [.expression e] => if e.isCall then .block body p else e
  | _ => .block body p

/-- A choice with simplified parts. A choice between nothing and nothing only asks its condition,
which need not be a boolean then. -/
def decide_ (keep : Bool) (condition : Expr) (yes no : List Statement) (p : Position) : Statement :=
  match condition with
  | .literal (.bool true) at_ => regroup yes at_
  | .literal (.bool false) at_ => regroup no at_
  | e =>
    if yes.isEmpty && no.isEmpty then
      if keep then regroup (tidy true [.expression e, .noop e.start]) p else .expression e
    else .choose e yes no p

/-- Both of two simplified conditions; one that is known need not be asked. -/
def both (l r : Expr) (p : Position) : Expr :=
  match l, r with
  | .literal (.bool true) _, r => r
  | .literal (.bool false) _, _ => l
  | l, .literal (.bool true) _ => l
  | l, r => .both l r p

/-- Either of two simplified conditions; one that is known need not be asked. -/
def either (l r : Expr) (p : Position) : Expr :=
  match l, r with
  | .literal (.bool true) _, _ => l
  | .literal (.bool false) _, r => r
  | l, .literal (.bool false) _ => l
  | l, r => .either l r p

/-- An operator between simplified operands, computed if it can be. -/
def operate (limits : SizeLimits) (op : BinaryOp) (l r : Expr) (p : Position) : Expr :=
  match l, r with
  | .literal a _, .literal b _ =>
    match Value.primitive? limits op a b with
    | some (.ok v) => .literal v p
    | _ => .binary op l r p
  | _, _ => .binary op l r p

/-- The item of a pure array, the entry of a pure map or the part of a value that a single link
selects, if it is there. -/
def selected? (root : Expr) (link : Link) : Option Expr :=
  match root, link with
  | .array items p, .index (.literal (.int i) _) _ =>
    if Expr.allPure items then
      ((Value.placeOf? items.length i).bind fun n => items[n]?).map (·.moveTo p)
    else none
  | .map entries p, .property name _ _ | .map entries p, .index (.literal (.string name) _) _ =>
    if Expr.allEntriesPure entries then
      some (((entries.lookup name).map (·.moveTo p)).getD (.literal .unit p))
    else none
  | .literal (.map fields) p, .property name _ _ =>
    some (.literal ((fields.lookup name).getD .unit) p)
  | .literal v p, .index (.literal key _) _ =>
    match Value.select v key with
    | .ok (some s) => some (.literal s.value p)
    | _ => none
  | _, _ => none

/-- A chain with simplified parts. -/
def linked (root : Expr) (first : Link) (rest : List Link) : Expr :=
  if rest.isEmpty then (selected? root first).getD (.chain root first rest)
  else .chain root first rest

/-- A call with simplified arguments; the name of a function is a value. -/
def called (name : String) (arguments : List Expr) (p : Position) : Expr :=
  match name, arguments with
  | "Fn", [.literal v _] =>
    match Value.functionNamed v with
    | .ok f => .literal f p
    | .error _ => .call name arguments p
  | _, _ => .call name arguments p

/-- An assignment with a simplified value: `x = x + e` adds `e` to `x`. -/
def assigned (target : Expr) (op : Option BinaryOp) (value : Expr) (p : Position) : Statement :=
  match target, op, value with
  | .variable x _, none, .binary inner (.variable y _) e at_ =>
    if x = y ∧ inner.isArithmetic then .assign target (some inner) e at_
    else .assign target op value p
  | _, _, _ => .assign target op value p

mutual

/-- An expression made simpler. -/
def Expr.simplify (limits : SizeLimits) (k : Known) : Expr → Expr
  | .literal v p => .literal v p
  | .variable x p =>
    match k.value? x with
    | some v => .literal v p
    | none => .variable x p
  | .array items p =>
    let items := simplifyAll limits k items
    match literals? items with
    | some vs => .literal (.array vs) p
    | none => .array items p
  | .map entries p =>
    let entries := simplifyEntries limits k entries
    match literalFields? entries with
    | some fields => .literal (.map (Fields.ofList fields)) p
    | none => .map entries p
  | .unary op e p => .unary op (e.simplify limits k) p
  | .binary op l r p => operate limits op (l.simplify limits k) (r.simplify limits k) p
  | .both l r p => both (l.simplify limits k) (r.simplify limits k) p
  | .either l r p => either (l.simplify limits k) (r.simplify limits k) p
  | .chain (.variable x p) first rest =>
    .chain (.variable x p) (first.simplify limits k) (simplifyLinks limits k rest)
  | .chain root first rest =>
    linked (root.simplify limits k) (first.simplify limits k) (simplifyLinks limits k rest)
  | .call name arguments p => called name (simplifyAll limits k arguments) p
  | .block body p => blockValue (tidy true (simplifyBlock limits k true body)) p

/-- Expressions made simpler. -/
def simplifyAll (limits : SizeLimits) (k : Known) : List Expr → List Expr
  | [] => []
  | e :: rest => e.simplify limits k :: simplifyAll limits k rest

/-- Entries made simpler. -/
def simplifyEntries (limits : SizeLimits) (k : Known) :
    List (String × Expr) → List (String × Expr)
  | [] => []
  | (name, e) :: rest => (name, e.simplify limits k) :: simplifyEntries limits k rest

/-- A link made simpler. -/
def Link.simplify (limits : SizeLimits) (k : Known) : Link → Link
  | .property name sign p => .property name sign p
  | .method name arguments sign p => .method name (simplifyAll limits k arguments) sign p
  | .index key sign => .index (key.simplify limits k) sign

/-- Links made simpler. -/
def simplifyLinks (limits : SizeLimits) (k : Known) : List Link → List Link
  | [] => []
  | l :: rest => l.simplify limits k :: simplifyLinks limits k rest

/-- A statement made simpler; `keep` tells that the value of its block counts. -/
def Statement.simplify (limits : SizeLimits) (k : Known) (keep : Bool) : Statement → Statement
  | .noop p => .noop p
  | .expression (.block body p) => regroup (tidy keep (simplifyBlock limits k keep body)) p
  | .expression e => .expression (e.simplify limits k)
  | .declare name constant e p => .declare name constant (e.simplify limits k) p
  | .assign (.variable x at_) op value p =>
    match value with
    | .binary inner (.variable y yAt) e opAt =>
      if x = y ∧ op = none ∧ inner.isArithmetic then
        .assign (.variable x at_) (some inner) (e.simplify limits k) opAt
      else
        let left := (Expr.variable y yAt).simplify limits k
        assigned (.variable x at_) op (operate limits inner left (e.simplify limits k) opAt) p
    | value => assigned (.variable x at_) op (value.simplify limits k) p
  | .assign target op value p => .assign (target.simplify limits k) op (value.simplify limits k) p
  | .group body p => regroup (tidy keep (simplifyBlock limits k keep body)) p
  | .choose condition yes no p =>
    decide_ keep (condition.simplify limits k) (tidy keep (simplifyBlock limits k keep yes))
      (tidy keep (simplifyBlock limits k keep no)) p
  | .loop body bodyAt p => .loop (tidy false (simplifyBlock limits k false body)) bodyAt p
  | .while_ condition body bodyAt p =>
    let body := tidy false (simplifyBlock limits k false body)
    match condition.simplify limits k with
    | .literal (.bool true) _ => .loop body bodyAt p
    | .literal (.bool false) at_ => .noop at_
    | e => .while_ e body bodyAt p
  | .forEach name collection body p =>
    .forEach name (collection.simplify limits k)
      (tidy false (simplifyBlock limits ((name, none) :: k) false body)) p
  | .leave (some e) p => .leave (some (e.simplify limits k)) p
  | .leave none p => .leave none p
  | .fail (some e) p => .fail (some (e.simplify limits k)) p
  | .fail none p => .fail none p
  | .break_ (some e) p => .break_ (some (e.simplify limits k)) p
  | .break_ none p => .break_ none p
  | .continue_ p => .continue_ p

/-- The statements of a block made simpler one after the other, with the constants that they
declare. -/
def simplifyBlock (limits : SizeLimits) (k : Known) (keep : Bool) :
    List Statement → List Statement
  | [] => []
  | .group body p :: rest =>
    if body.any Statement.needsBlock then
      regroup (tidy keep (simplifyBlock limits k keep body)) p :: simplifyBlock limits k keep rest
    else simplifyBlock limits k keep body ++ simplifyBlock limits k keep rest
  | .declare name constant e p :: rest =>
    let e := e.simplify limits k
    let value := match constant, e with
      | true, .literal v _ => some v
      | _, _ => none
    .declare name constant e p :: simplifyBlock limits ((name, value) :: k) keep rest
  | s :: rest => s.simplify limits k keep :: simplifyBlock limits k keep rest

end

/-- A program made simpler, with the values of the constants around it. -/
def simplify (limits : SizeLimits) (k : Known) (program : List Statement) : List Statement :=
  let kept := tidy true (simplifyBlock limits k true program)
  (unreturned kept.reverse).reverse

end Automation.Script
