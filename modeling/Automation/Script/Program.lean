import Automation.Script.Token
import Automation.Script.Value
/-!
# Programs of scripts

A program is a list of statements. Expressions and statements carry the place that a fault in them
is reported at: for an operator the operator, for a call or a property the name, for a chain of
properties, methods and indices its first point or bracket.
-/

namespace Automation.Script

/-- An operator with two operands that are both evaluated. -/
inductive BinaryOp where
  | add | sub | mul | div | rem
  | equal | unequal | less | lessEqual | greater | greaterEqual
  | range | rangeInclusive
  deriving DecidableEq, Repr, Inhabited

/-- The symbol of an operator. -/
def BinaryOp.symbol : BinaryOp → String
  | .add => "+"
  | .sub => "-"
  | .mul => "*"
  | .div => "/"
  | .rem => "%"
  | .equal => "=="
  | .unequal => "!="
  | .less => "<"
  | .lessEqual => "<="
  | .greater => ">"
  | .greaterEqual => ">="
  | .range => ".."
  | .rangeInclusive => "..="

/-- An operator that can be joined with an assignment. -/
def BinaryOp.isArithmetic : BinaryOp → Bool
  | .add | .sub | .mul | .div | .rem => true
  | _ => false

/-- An operator in front of its operand. -/
inductive UnaryOp where
  | negate | affirm | invert
  deriving DecidableEq, Repr, Inhabited

/-- The symbol of an operator. -/
def UnaryOp.symbol : UnaryOp → String
  | .negate => "-"
  | .affirm => "+"
  | .invert => "!"

mutual

/-- An expression. A chain selects in its root by at least one link. -/
inductive Expr where
  | literal (value : Value) (at_ : Position)
  | variable (name : String) (at_ : Position)
  | array (items : List Expr) (at_ : Position)
  | map (entries : List (String × Expr)) (at_ : Position)
  | unary (op : UnaryOp) (operand : Expr) (at_ : Position)
  | binary (op : BinaryOp) (left right : Expr) (at_ : Position)
  | both (left right : Expr) (at_ : Position)
  | either (left right : Expr) (at_ : Position)
  | chain (root : Expr) (first : Link) (rest : List Link)
  | call (name : String) (arguments : List Expr) (at_ : Position)
  | block (body : List Statement) (at_ : Position)

/-- A link of a chain: a property, a method call or an index. `sign` is the place of its point or
bracket, `at_` that of its name. -/
inductive Link where
  | property (name : String) (sign at_ : Position)
  | method (name : String) (arguments : List Expr) (sign at_ : Position)
  | index (key : Expr) (sign : Position)

/-- A statement. -/
inductive Statement where
  | noop (at_ : Position)
  | expression (value : Expr)
  | declare (name : String) (constant : Bool) (value : Expr) (at_ : Position)
  | assign (target : Expr) (op : Option BinaryOp) (value : Expr) (at_ : Position)
  | group (body : List Statement) (at_ : Position)
  | choose (condition : Expr) (yes no : List Statement) (at_ : Position)
  | loop (body : List Statement) (bodyAt at_ : Position)
  | while_ (condition : Expr) (body : List Statement) (bodyAt at_ : Position)
  | forEach (name : String) (collection : Expr) (body : List Statement) (at_ : Position)
  | leave (value : Option Expr) (at_ : Position)
  | fail (value : Option Expr) (at_ : Position)
  | break_ (value : Option Expr) (at_ : Position)
  | continue_ (at_ : Position)

end

instance : Inhabited Expr := ⟨.literal .unit default⟩

instance : Inhabited Link := ⟨.property "" default default⟩

instance : Inhabited Statement := ⟨.noop default⟩

/-- The place of a link's point or bracket. -/
def Link.sign : Link → Position
  | .property _ p _ | .method _ _ p _ | .index _ p => p

/-- The place of an expression. -/
def Expr.position : Expr → Position
  | .literal _ p | .variable _ p | .array _ p | .map _ p | .unary _ _ p | .binary _ _ _ p
  | .both _ _ p | .either _ _ p | .call _ _ p | .block _ p => p
  | .chain _ first _ => first.sign

/-- The place where an expression starts; that of an operator that is computed is the operator's. -/
def Expr.start : Expr → Position
  | .both left _ _ | .either left _ _ => left.start
  | .chain root _ _ => root.start
  | e => e.position

/-- An expression put at another place. -/
def Expr.moveTo (p : Position) : Expr → Expr
  | .literal v _ => .literal v p
  | .variable x _ => .variable x p
  | .array items _ => .array items p
  | .map entries _ => .map entries p
  | .unary op e _ => .unary op e p
  | .binary op l r _ => .binary op l r p
  | .both l r _ => .both l r p
  | .either l r _ => .either l r p
  | .call name arguments _ => .call name arguments p
  | .block body _ => .block body p
  | .chain root first rest => .chain root first rest

/-- The place of a link by itself: that of its name or key. -/
def Link.position : Link → Position
  | .property _ _ p | .method _ _ _ p => p
  | .index key _ => key.position

/-- An operator or a function that is applied to arguments. -/
def Expr.isCall : Expr → Bool
  | .unary .. | .binary .. | .call .. => true
  | _ => false

mutual

/-- An expression that is written out as a value. -/
def Expr.isConstant : Expr → Bool
  | .literal .. => true
  | .array items _ => Expr.allConstant items
  | .map entries _ => Expr.allEntriesConstant entries
  | _ => false

/-- All expressions are constant. -/
def Expr.allConstant : List Expr → Bool
  | [] => true
  | e :: rest => e.isConstant && Expr.allConstant rest

/-- The values of all entries are constant. -/
def Expr.allEntriesConstant : List (String × Expr) → Bool
  | [] => true
  | (_, e) :: rest => e.isConstant && Expr.allEntriesConstant rest

end

/-- What a value that cannot be a boolean is, in words. -/
def Value.foreignToBool? : Value → Option String
  | .unit => some "()"
  | .int _ => some "a number"
  | .float _ => some "a floating-point number"
  | .string _ => some "a string"
  | .char _ => some "a character"
  | _ => none

/-- What an expression that cannot be a boolean is, in words. -/
def Expr.foreignToBool? : Expr → Option String
  | .literal v _ => v.foreignToBool?
  | .array .. => some "an array"
  | .map .. => some "an object map"
  | _ => none

/-- What an expression that cannot be run through is, in words. -/
def Expr.foreignToLoop? : Expr → Option String
  | .literal (.string _) _ => none
  | .literal (.bool _) _ | .both .. | .either .. => some "a boolean"
  | .literal v _ => v.foreignToBool?
  | .map .. => some "an object map"
  | _ => none

/-- The place of a statement. -/
def Statement.position : Statement → Position
  | .expression e => e.position
  | .noop p | .declare _ _ _ p | .assign _ _ _ p | .group _ p | .choose _ _ _ p | .loop _ _ p
  | .while_ _ _ _ p | .forEach _ _ _ p | .leave _ p | .fail _ p | .break_ _ p | .continue_ p => p

/-- A statement that needs no semicolon after it. -/
def Statement.isClosed : Statement → Bool
  | .group .. | .choose .. | .loop .. | .while_ .. | .forEach .. => true
  | _ => false

/-- A statement that does nothing. -/
def Statement.isNoop : Statement → Bool
  | .noop _ => true
  | _ => false

end Automation.Script
