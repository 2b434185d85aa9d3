import Automation.Script.Program
/-!
# Parsing scripts

A recursive descent over the tokens, with precedences for the operators. A fault is reported at the
token that does not fit; at the end of the script this is the place after its last character. Every
construct inside another is one or more levels deeper, and a script that goes too deep is refused.
The fuel of the functions bounds the recursion; `parse` gives more than any script needs.
-/

namespace Automation.Script

/-- A fault and its place. -/
structure ParseError where
  fault : ParseFault
  position : Position
  deriving DecidableEq, Repr

/-- A parser takes tokens from the front of a list. -/
abbrev Parse (α : Type) := List Located → Except ParseError (α × List Located)

/-- Where a parser stands: how deep it is, the place to blame if it goes too deep, whether a loop or
a block is around it, and the variables of the script so far, innermost first, with `true` for
constants. -/
structure Setting where
  limits : SizeLimits
  level : Nat
  at_ : Position
  inLoop : Bool
  inBlock : Bool
  known : List (String × Bool)

/-- The levels that a script may go down. -/
def maxLevel : Nat := 64

/-- One level deeper. -/
def Setting.deeper (s : Setting) : Except ParseError Setting :=
  if s.level < maxLevel then .ok { s with level := s.level + 1 } else .error ⟨.tooDeep, s.at_⟩

/-- The same with another place. -/
def Setting.moveTo (s : Setting) (p : Position) : Setting :=
  { s with at_ := p }

/-- The same with a variable more. -/
def Setting.declare (s : Setting) (name : String) (constant : Bool) : Setting :=
  { s with known := (name, constant) :: s.known }

namespace Parser

/-- The first token and its place. -/
def peek (ts : List Located) : Located :=
  ts.headD ⟨.finish, ⟨1, 1⟩⟩

/-- A fault at the first token; a fault of the scanner comes first. -/
def refuse {α : Type} (fault : ParseFault) (ts : List Located) : Except ParseError α :=
  let t := peek ts
  match t.token with
  | .fault f => .error ⟨f, t.position⟩
  | _ => .error ⟨fault, t.position⟩

/-- The first token is the symbol. -/
def atSymbol (s : String) (ts : List Located) : Bool :=
  (peek ts).token == .symbol s

/-- The first token is the keyword. -/
def atWord (w : String) (ts : List Located) : Bool :=
  (peek ts).token == .keyword w

/-- The script ends here. -/
def atEnd (ts : List Located) : Bool :=
  (peek ts).token == .finish

/-- Takes a symbol or reports that it is missing. -/
def expect (s purpose : String) (ts : List Located) : Except ParseError (List Located) :=
  if atSymbol s ts then .ok ts.tail else refuse (.missing s purpose) ts

/-- Refuses an expression that cannot be a boolean. -/
def ensureBool (e : Expr) : Except ParseError Unit :=
  match e.foreignToBool? with
  | some actual => .error ⟨.mismatch "a boolean expression" actual, e.start⟩
  | none => .ok ()

/-- Refuses an expression that cannot be run through. -/
def ensureIterable (e : Expr) : Except ParseError Unit :=
  match e.foreignToLoop? with
  | some actual => .error ⟨.mismatch "an iterable value" actual, e.start⟩
  | none => .ok ()

/-- Refuses a block where a condition should stand. -/
def ensureNoBlock (ts : List Located) : Except ParseError Unit :=
  if atSymbol "\x7b" ts then refuse (.expressionExpected "a boolean") ts else .ok ()

/-- Refuses an assignment where a condition should end. -/
def ensureNoAssignment (ts : List Located) : Except ParseError Unit :=
  if atSymbol "=" ts then refuse (.advice "Possibly a typo of '=='?") ts else .ok ()

/-- What an operator makes of its operands. -/
abbrev Join := Expr → Expr → Position → Except ParseError Expr

/-- An operator between two operands: its precedence and what it makes of them. -/
def joinOf? (s : String) : Option (Nat × Join) :=
  let plain (n : Nat) (op : BinaryOp) : Option (Nat × Join) :=
    some (n, fun l r p => .ok (.binary op l r p))
  let connective (n : Nat) (build : Expr → Expr → Position → Expr) : Option (Nat × Join) :=
    some (n, fun l r p => do
      ensureBool r
      ensureBool l
      return build l r p)
  match s with
  | "||" => connective 30 .either
  | "&&" => connective 60 .both
  | "==" => plain 90 .equal
  | "!=" => plain 90 .unequal
  | "<" => plain 130 .less
  | "<=" => plain 130 .lessEqual
  | ">" => plain 130 .greater
  | ">=" => plain 130 .greaterEqual
  | ".." => plain 140 .range
  | "..=" => plain 140 .rangeInclusive
  | "+" => plain 150 .add
  | "-" => plain 150 .sub
  | "*" => plain 180 .mul
  | "/" => plain 180 .div
  | "%" => plain 180 .rem
  | _ => none

/-- The operator between operands that starts the tokens, if there is one; a reserved symbol is an
unknown operator. -/
def peekJoin (ts : List Located) : Except ParseError (Option (Nat × Join)) :=
  match (peek ts).token with
  | .symbol s => .ok (joinOf? s)
  | .reserved s => if isName s then .ok none else refuse (.unknownOperator s) ts
  | _ => .ok none

/-- The operator of an assignment symbol, none for a plain assignment. -/
def assignmentOf? (s : String) : Option (Option BinaryOp) :=
  match s with
  | "=" => some none
  | "+=" => some (some .add)
  | "-=" => some (some .sub)
  | "*=" => some (some .mul)
  | "/=" => some (some .div)
  | "%=" => some (some .rem)
  | _ => none

/-- The place of the first method call among links. -/
def methodAt? (links : List Link) : Option Position :=
  links.findSome? fun
    | .method _ _ _ p => some p
    | _ => none

/-- The assignment to a target, if it can be assigned to. -/
def assignment (s : Setting) (target : Expr) (op : Option BinaryOp) (value : Expr) (p : Position) :
    Except ParseError Statement :=
  match target with
  | .variable x at_ =>
    if s.known.lookup x = some true then .error ⟨.constantTarget x, at_⟩
    else .ok (.assign target op value p)
  | .chain root first rest =>
    match methodAt? (first :: rest), root with
    | some at_, _ => .error ⟨.notAssignable, at_⟩
    | none, .variable _ _ => .ok (.assign target op value p)
    | none, _ => .error ⟨.notAssignable, root.position⟩
  | e =>
    if e.isConstant then .error ⟨.constantTarget "", e.start⟩
    else
      match e, op with
      | .both .., none | .either .., none => .error ⟨.advice "Possibly a typo of '=='?", p⟩
      | _, _ => .error ⟨.notAssignable, e.position⟩

/-- Takes the name of a variable. -/
def name (ts : List Located) : Except ParseError (String × List Located) :=
  match (peek ts).token with
  | .name x => .ok (x, ts.tail)
  | .reserved x => if isName x then refuse (.reserved x) ts else refuse .variableExpected ts
  | _ => refuse .variableExpected ts

/-- The value of a `return` or of a `throw` is left out here. -/
def endsValue (s : Setting) (ts : List Located) : Bool :=
  atEnd ts || atSymbol ";" ts || (s.inBlock && atSymbol "\x7d" ts)

/-- Refuses a key of a kind that a literal cannot have. -/
def ensureKey (object key : Expr) : Except ParseError Unit :=
  let refuseKey (text : String) : Except ParseError Unit := .error ⟨.badIndex text, key.start⟩
  let byName := fun (actual : String) =>
    refuseKey ("Object map expects string index, not " ++ actual)
  let byNumber := fun (expected actual : String) =>
    refuseKey ("Array, string or bit-field expects " ++ expected ++ " index, not " ++ actual)
  match object, key with
  | .map .., .literal (.int _) _ => byName "a number"
  | .map .., .literal (.float _) _ => byName "a float"
  | .map .., .literal (.char _) _ => byName "a character"
  | .map .., .literal .unit _ => byName "()"
  | .map .., .literal (.bool _) _ | .map .., .both .. | .map .., .either .. => byName "a boolean"
  | .literal (.int _) _, _ | .literal (.string _) _, _ | .array .., _ =>
    match key with
    | .literal (.string _) _ => byNumber "numeric" "a string"
    | .literal (.float _) _ => byNumber "integer" "a float"
    | .literal (.char _) _ => byNumber "integer" "a character"
    | .literal .unit _ => byNumber "integer" "()"
    | .literal (.bool _) _ | .both .. | .either .. => byNumber "integer" "a boolean"
    | _ => .ok ()
  | _, _ => .ok ()

/-- The chain with more links; what stands in parentheses is a root. -/
def extend (root : Expr) (links more : List Link) : Expr :=
  match links ++ more with
  | [] => root
  | first :: rest => .chain root first rest

mutual

/-- An expression. -/
def expression (fuel : Nat) (s : Setting) : Parse Expr := fun ts =>
  match fuel with
  | 0 => refuse .incomplete ts
  | fuel + 1 => do
    let s ← (s.moveTo (peek ts).position).deeper
    let (left, ts) ← unary fuel s ts
    operators fuel s 0 left ts

/-- Operators of more than the precedence `least` after a left operand. Each operator that is
applied takes what follows one level deeper. -/
def operators (fuel : Nat) (s : Setting) (least : Nat) (left : Expr) : Parse Expr := fun ts =>
  match fuel with
  | 0 => refuse .incomplete ts
  | fuel + 1 => do
    let s := s.moveTo left.position
    match ← peekJoin ts with
    | none => return (left, ts)
    | some (precedence, build) =>
      if precedence ≤ least then return (left, ts)
      else
        let p := (peek ts).position
        let (right, rest) ← unary fuel s ts.tail
        let (right, rest) ← match ← peekJoin rest with
          | some (next, _) =>
            if precedence < next then operators fuel s precedence right rest
            else pure (right, rest)
          | none => pure (right, rest)
        let s ← s.deeper
        operators fuel s least (← build left right p) rest

/-- An operand with the operators in front of it. -/
def unary (fuel : Nat) (s : Setting) : Parse Expr := fun ts =>
  match fuel with
  | 0 => refuse .incomplete ts
  | fuel + 1 => do
    let p := (peek ts).position
    let s := s.moveTo p
    match (peek ts).token with
    | .symbol "-" =>
      let (operand, rest) ← unary fuel (← s.deeper) ts.tail
      match operand with
      | .literal (.int n) _ =>
        let v := if Value.fits (-n) then Value.int (-n) else .float (Double.ofInt (-n))
        return (.literal v p, rest)
      | .literal (.float d) _ => return (.literal (.float d.neg) p, rest)
      | _ => return (.unary .negate operand p, rest)
    | .symbol "+" =>
      let (operand, rest) ← unary fuel (← s.deeper) ts.tail
      match operand with
      | .literal (.int _) _ | .literal (.float _) _ => return (operand, rest)
      | _ => return (.unary .affirm operand p, rest)
    | .symbol "!" =>
      let (operand, rest) ← unary fuel (← s.deeper) ts.tail
      return (.unary .invert operand p, rest)
    | _ => primary fuel s ts

/-- Calls, indices and members after a root with its links so far. -/
def suffixes (fuel : Nat) (s : Setting) (root : Expr) (links : List Link) : Parse Expr := fun ts =>
  match fuel with
  | 0 => refuse .incomplete ts
  | fuel + 1 => do
    let p := (peek ts).position
    match (peek ts).token with
    | .symbol "[" =>
      let inner ← (s.moveTo p).deeper
      let (key, rest) ← indices fuel inner (extend root links []) ts
      suffixes fuel s root (links ++ key) rest
    | .symbol "." =>
      let inner ← (s.moveTo p).deeper
      let (more, rest) ← member fuel inner p ts.tail
      suffixes fuel s root (links ++ more) rest
    | .symbol "(" =>
      match root, links with
      | .variable f at_, [] =>
        let (arguments, rest) ← arguments fuel (s.moveTo at_) f ts.tail
        suffixes fuel s (.call f arguments at_) [] rest
      | _, _ => return (extend root links [], ts)
    | _ => return (extend root links [], ts)

/-- Indices that follow each other, each one level deeper than the one before. -/
def indices (fuel : Nat) (s : Setting) (object : Expr) : Parse (List Link) := fun ts =>
  match fuel with
  | 0 => refuse .incomplete ts
  | fuel + 1 => do
    let p := (peek ts).position
    let (key, rest) ← expression fuel (← s.deeper) ts.tail
    ensureKey object key
    let rest ← expect "]" "for a matching [ in this index expression" rest
    if atSymbol "[" rest then
      let inner ← (s.moveTo (peek rest).position).deeper
      let (more, rest) ← indices fuel inner (.literal .unit p) rest
      return (.index key p :: more, rest)
    else return ([.index key p], rest)

/-- A member after a point, with all that follows it: the rest of a chain hangs on its last member.
-/
def member (fuel : Nat) (s : Setting) (sign : Position) : Parse (List Link) := fun ts =>
  match fuel with
  | 0 => refuse .incomplete ts
  | fuel + 1 => do
    let p := (peek ts).position
    let word ← match (peek ts).token with
      | .name x => pure x
      | .reserved x =>
        if methodWords.contains x && atSymbol "(" ts.tail then pure x else refuse (.reserved x) ts
      | _ => refuse .propertyExpected ts
    let s := s.moveTo p
    let (link, rest) ←
      if atSymbol "(" ts.tail then do
        let (arguments, rest) ← arguments fuel s word ts.tail.tail
        pure (Link.method word arguments sign p, rest)
      else pure (.property word sign p, ts.tail)
    let (more, rest) ← members fuel s rest
    return (link :: more, rest)

/-- What follows a member: indices and further members. -/
def members (fuel : Nat) (s : Setting) : Parse (List Link) := fun ts =>
  match fuel with
  | 0 => refuse .incomplete ts
  | fuel + 1 => do
    let p := (peek ts).position
    match (peek ts).token with
    | .symbol "[" =>
      let inner ← (s.moveTo p).deeper
      let (keys, rest) ← indices fuel inner (.literal .unit p) ts
      let (more, rest) ← members fuel s rest
      return (keys ++ more, rest)
    | .symbol "." =>
      let inner ← (s.moveTo p).deeper
      let (links, rest) ← member fuel inner p ts.tail
      let (more, rest) ← members fuel s rest
      return (links ++ more, rest)
    | _ => return ([], ts)

/-- Arguments up to and including the closing parenthesis. -/
def arguments (fuel : Nat) (s : Setting) (callee : String) : Parse (List Expr) := fun ts =>
  match fuel with
  | 0 => refuse .incomplete ts
  | fuel + 1 => do
    if atSymbol ")" ts then return ([], ts.tail)
    else if atEnd ts then
      refuse (.missing ")"
        ("to close the arguments list of this function call '" ++ callee ++ "'")) ts
    else argumentsFrom fuel (← s.deeper) callee ts

/-- Arguments after the opening parenthesis or a comma. -/
def argumentsFrom (fuel : Nat) (s : Setting) (callee : String) : Parse (List Expr) := fun ts =>
  match fuel with
  | 0 => refuse .incomplete ts
  | fuel + 1 => do
    if atSymbol ")" ts then return ([], ts.tail)
    let (first, rest) ← expression fuel s ts
    if atSymbol ")" rest then return ([first], rest.tail)
    else if atSymbol "," rest then
      let (others, rest) ← argumentsFrom fuel s callee rest.tail
      return (first :: others, rest)
    else if atEnd rest then
      refuse (.missing ")" ("to close the arguments list of this function call '" ++ callee ++ "'"))
        rest
    else
      refuse (.missing "," ("to separate the arguments to function call '" ++ callee ++ "'")) rest

/-- Items up to and including the closing bracket; `count` items stand before. -/
def items (fuel : Nat) (s : Setting) (count : Nat) : Parse (List Expr) := fun ts =>
  match fuel with
  | 0 => refuse .incomplete ts
  | fuel + 1 => do
    if s.limits.array ≠ 0 ∧ count ≥ s.limits.array then
      throw ⟨.literalTooLarge "Size of array literal" s.limits.array, (peek ts).position⟩
    if atSymbol "]" ts then return ([], ts.tail)
    else if atEnd ts then refuse (.missing "]" "to end this array literal") ts
    else
      let (first, rest) ← expression fuel (← s.deeper) ts
      if atSymbol "," rest then
        let (others, rest) ← items fuel s (count + 1) rest.tail
        return (first :: others, rest)
      else if atSymbol "]" rest then
        let (others, rest) ← items fuel s (count + 1) rest
        return (first :: others, rest)
      else if atEnd rest then refuse (.missing "]" "to end this array literal") rest
      else refuse (.missing "," "to separate the items of this array literal") rest

/-- Entries up to and including the closing brace; `names` are the names before. -/
def entries (fuel : Nat) (s : Setting) (names : List String) : Parse (List (String × Expr)) :=
  fun ts =>
  match fuel with
  | 0 => refuse .incomplete ts
  | fuel + 1 => do
    let unclosed := ParseFault.missing "\x7d" "to end this object map literal"
    if atSymbol "\x7d" ts then return ([], ts.tail)
    let key ← match (peek ts).token with
      | .name x | .string x =>
        if names.contains x then refuse (.duplicateProperty x) ts else pure x
      | .finish => refuse unclosed ts
      | token =>
        if token matches .reserved _ && isName token.text then refuse (.reserved token.text) ts
        else if names.isEmpty then refuse unclosed ts
        else refuse .propertyExpected ts
    let rest ←
      expect ":" ("to follow the property '" ++ key ++ "' in this object map literal") ts.tail
    if s.limits.map ≠ 0 ∧ names.length ≥ s.limits.map then
      throw ⟨.literalTooLarge "Number of properties in object map literal" s.limits.map,
        (peek rest).position⟩
    let (value, rest) ← expression fuel (← s.deeper) rest
    if atSymbol "," rest then
      let (others, rest) ← entries fuel s (key :: names) rest.tail
      return ((key, value) :: others, rest)
    else if atSymbol "\x7d" rest then return ([(key, value)], rest.tail)
    else
      match (peek rest).token with
      | .name _ => refuse (.missing "," "to separate the items of this object map literal") rest
      | _ => refuse unclosed rest

/-- A literal, a variable, a call, a parenthesised expression or a statement that has a value, with
what follows it. -/
def primary (fuel : Nat) (s : Setting) : Parse Expr := fun ts =>
  match fuel with
  | 0 => refuse .incomplete ts
  | fuel + 1 => do
    let ⟨token, p⟩ := peek ts
    let s := s.moveTo p
    let rest := ts.tail
    let (root, rest) ← match token with
      | .int n => pure (Expr.literal (.int n) p, rest)
      | .float d => pure (.literal (.float d) p, rest)
      | .string x => pure (.literal (.string x) p, rest)
      | .char c => pure (.literal (.char c) p, rest)
      | .keyword "true" => pure (.literal (.bool true) p, rest)
      | .keyword "false" => pure (.literal (.bool false) p, rest)
      | .keyword w =>
        if ["if", "while", "loop", "for"].contains w then do
          let (statement, rest) ← compound fuel (← s.deeper) w ts
          pure (.block [statement] p, rest)
        else refuse (.unexpected w) ts
      | .name x => pure (.variable x p, rest)
      | .reserved x =>
        if functionWords.contains x && atSymbol "(" rest then pure (.variable x p, rest)
        else refuse (.reserved x) ts
      | .symbol "(" => do
        let inner ← s.deeper
        if atSymbol ")" rest then pure (.literal .unit p, rest.tail)
        else
          let (e, rest) ← expression fuel inner rest
          let rest ← expect ")" "for a matching ( in this expression" rest
          pure (e, rest)
      | .symbol "[" => do
        let (items, rest) ← items fuel (← s.deeper) 0 rest
        pure (.array items p, rest)
      | .symbol "#\x7b" => do
        let (entries, rest) ← entries fuel (← s.deeper) [] rest
        pure (.map entries p, rest)
      | .symbol "\x7b" => do
        let (body, rest) ← block fuel (← s.deeper) ts
        pure (.block body p, rest)
      | .finish => refuse .incomplete ts
      | _ => refuse (.unexpected token.text) ts
    suffixes fuel s root [] rest

/-- A block with its braces. -/
def block (fuel : Nat) (s : Setting) : Parse (List Statement) := fun ts =>
  match fuel with
  | 0 => refuse .incomplete ts
  | fuel + 1 => do
    let rest ← expect "\x7b" "to start a statement block" ts
    body fuel s rest

/-- Statements up to and including the closing brace. -/
def body (fuel : Nat) (s : Setting) : Parse (List Statement) := fun ts =>
  match fuel with
  | 0 => refuse .incomplete ts
  | fuel + 1 => do
    if atSymbol "\x7d" ts then return ([], ts.tail)
    else if atEnd ts then refuse (.missing "\x7d" "to terminate this block") ts
    else
      let inner ← s.deeper
      let ((first, known), rest) ← statement fuel { inner with inBlock := true } ts
      let s := { s with known := known }
      if first.isNoop then body fuel s rest
      else if atSymbol "\x7d" rest then return ([first], rest.tail)
      else
        let rest ←
          if atSymbol ";" rest then pure rest.tail
          else if first.isClosed then pure rest
          else expect ";" "to terminate this statement" rest
        let (others, rest) ← body fuel s rest
        return (first :: others, rest)

/-- A statement that starts with `if`, `while`, `loop` or `for`. -/
def compound (fuel : Nat) (s : Setting) (word : String) : Parse Statement := fun ts =>
  match fuel with
  | 0 => refuse .incomplete ts
  | fuel + 1 => do
    let p := (peek ts).position
    let s ← s.deeper
    let rest := ts.tail
    match word with
    | "if" =>
      let s := s.moveTo p
      ensureNoBlock rest
      let (condition, rest) ← expression fuel s rest
      ensureBool condition
      ensureNoAssignment rest
      let (yes, rest) ← block fuel s rest
      if !atWord "else" rest then return (.choose condition yes [] p, rest)
      else if atWord "if" rest.tail then
        let (inner, rest) ← compound fuel s "if" rest.tail
        return (.choose condition yes [inner] p, rest)
      else
        let (no, rest) ← block fuel s rest.tail
        return (.choose condition yes no p, rest)
    | "while" =>
      ensureNoBlock rest
      let (condition, rest) ← expression fuel s rest
      ensureBool condition
      ensureNoAssignment rest
      let bodyAt := (peek rest).position
      let (statements, rest) ← block fuel { s with at_ := p, inLoop := true } rest
      return (.while_ condition statements bodyAt p, rest)
    | "loop" =>
      let bodyAt := (peek rest).position
      let (statements, rest) ← block fuel { s with at_ := p, inLoop := true } rest
      return (.loop statements bodyAt p, rest)
    | _ =>
      let s := s.moveTo p
      let (x, rest) ← name rest
      if !atWord "in" rest then refuse (.missing "in" "after the iteration variable") rest
      else
        ensureNoBlock rest.tail
        let (collection, rest) ← expression fuel s rest.tail
        ensureIterable collection
        let s := s.declare x false
        let (statements, rest) ← block fuel { s with inLoop := true } rest
        return (.forEach x collection statements p, rest)

/-- One statement, and the variables that are known after it. -/
def statement (fuel : Nat) (s : Setting) : Parse (Statement × List (String × Bool)) := fun ts =>
  match fuel with
  | 0 => refuse .incomplete ts
  | fuel + 1 => do
    let ⟨token, p⟩ := peek ts
    let s := s.moveTo p
    let rest := ts.tail
    let declaration (constant : Bool) :
        Except ParseError ((Statement × List (String × Bool)) × List Located) := do
      let s ← s.deeper
      let (x, rest) ← name rest
      let known := (s.declare x constant).known
      if atSymbol "=" rest then
        let (value, rest) ← expression fuel (← s.deeper) rest.tail
        return ((.declare x constant value p, known), rest)
      else return ((.declare x constant (.literal .unit .nowhere) p, known), rest)
    let optional (build : Option Expr → Position → Statement) (none? : Bool) :
        Except ParseError ((Statement × List (String × Bool)) × List Located) := do
      if none? then return ((build none p, s.known), rest)
      else
        let (value, rest) ← expression fuel (← s.deeper) rest
        return ((build (some value) p, s.known), rest)
    match token with
    | .finish => return ((.noop p, s.known), ts)
    | .symbol ";" => return ((.noop p, s.known), rest)
    | .symbol "\x7b" =>
      let (statements, rest) ← block fuel (← s.deeper) ts
      return ((.group statements p, s.known), rest)
    | .keyword "let" => declaration false
    | .keyword "const" => declaration true
    | .keyword "return" => optional .leave (endsValue s rest)
    | .keyword "throw" => optional .fail (endsValue s rest)
    | .keyword "break" =>
      if s.inLoop then optional .break_ (endsValue { s with inBlock := true } rest)
      else refuse .strayBreak ts
    | .keyword "continue" =>
      if s.inLoop then return ((.continue_ p, s.known), rest) else refuse .strayBreak ts
    | .keyword w =>
      if ["if", "while", "loop", "for"].contains w then
        let (statement, rest) ← compound fuel (← s.deeper) w ts
        return ((statement, s.known), rest)
      else simple fuel (← s.deeper) ts
    | _ => simple fuel (← s.deeper) ts

/-- An expression or an assignment. -/
def simple (fuel : Nat) (s : Setting) : Parse (Statement × List (String × Bool)) := fun ts =>
  match fuel with
  | 0 => refuse .incomplete ts
  | fuel + 1 => do
    let (left, rest) ← expression fuel s ts
    let p := (peek rest).position
    match (peek rest).token with
    | .symbol x =>
      match assignmentOf? x with
      | some op =>
        let (value, more) ← expression fuel (s.moveTo p) rest.tail
        return ((← assignment s left op value p, s.known), more)
      | none => return ((.expression left, s.known), rest)
    | _ => return ((.expression left, s.known), rest)

end

/-- Statements up to the end of the script. -/
def program (depth : Nat) : Nat → Setting → Parse (List Statement)
  | 0, _, ts => refuse .incomplete ts
  | fuel + 1, s, ts => do
    if atEnd ts then return ([], ts)
    let ((first, known), rest) ← statement depth s ts
    let s := { s with known := known }
    if first.isNoop then program depth fuel s rest
    else if atEnd rest then return ([first], rest)
    else
      let rest ←
        if first.isClosed then pure rest
        else expect ";" "to terminate this statement" rest
      let (others, rest) ← program depth fuel s rest
      return (first :: others, rest)

end Parser

/-- The program of a script. -/
def parse (limits : SizeLimits) (source : String) : Except ParseError (List Statement) :=
  let tokens := scan limits.string source
  let setting : Setting := ⟨limits, 0, ⟨1, 1⟩, false, false, []⟩
  (Parser.program (16 * tokens.length + 16) (tokens.length + 1) setting tokens).map (·.1)

end Automation.Script
