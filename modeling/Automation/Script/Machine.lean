import Automation.Script.Simplify
/-!
# Running scripts

The machine runs a program with a budget of operations. Every statement and every expression that is
evaluated counts as an operation, and so does every index and every step along a chain; time is
measured in operations, so a script that never ends is stopped after a known number of steps. A run
ends with a value or with a halt: a fault and its place, or the end of the time.
-/

namespace Automation.Script

/-- The limits of a run. `maxOperations` zero sets no limit; `millis` is the time in milliseconds.
-/
structure Budget where
  maxOperations : Nat
  millis : Nat
  sizes : SizeLimits
  deriving DecidableEq, Repr, Inhabited

/-- The operations that count as one millisecond. -/
def operationsPerMilli : Nat := 25000

/-- The operations after which a run is stopped in any case. -/
def Budget.operations (b : Budget) : Nat :=
  let byTime := b.millis * operationsPerMilli + 1
  if b.maxOperations = 0 ∨ byTime < b.maxOperations then byTime else b.maxOperations + 1

/-- A step from a value to a part of it. -/
inductive Step where
  | field (name : String)
  | item (place : Nat)
  deriving DecidableEq, Repr

/-- A variable in scope. The parts of a constant that were added to it later, given by the steps to
them, can be changed. -/
structure Variable where
  name : String
  value : Value
  constant : Bool
  added : List (List Step)

/-- A part of a variable cannot be changed. -/
def Variable.holds (v : Variable) (path : List Step) : Bool :=
  v.constant && !v.added.any (·.isPrefixOf path)

/-- The state of a run: the operations so far and the variables, innermost first. -/
structure State where
  operations : Nat
  scope : List Variable

/-- Why the evaluation of a statement stops before its end. -/
inductive Halt where
  | fault (fault : Fault) (at_ : Position)
  | timeout
  | break_ (value : Value)
  | continue_
  | leave (value : Value)

/-- An evaluation that may stop early. -/
abbrev Eval (α : Type) := EStateM Halt State α

namespace Machine

/-- Stops with a fault. -/
def fail {α : Type} (fault : Fault) (p : Position) : Eval α :=
  throw (.fault fault p)

/-- The value of a computation, whose fault arises at a place. -/
def lift {α : Type} (p : Position) (r : Except Fault α) : Eval α :=
  match r with
  | .ok a => pure a
  | .error fault => fail fault p

/-- Counts an operation, and stops if there are too many or the time is over. -/
def tick (b : Budget) (p : Position) : Eval Unit := fun s =>
  let n := s.operations + 1
  let s := { s with operations := n }
  if b.maxOperations ≠ 0 ∧ n > b.maxOperations then .error (.fault .tooManyOperations p) s
  else if n / operationsPerMilli ≥ b.millis then .error .timeout s
  else .ok () s

/-- The variables that were there before. -/
def State.restore (before after : State) : State :=
  { after with
    scope := after.scope.drop (after.scope.length - before.scope.length) }

/-- Forgets the variables that an evaluation adds, however it ends. -/
def inScope {α : Type} (act : Eval α) : Eval α := fun s =>
  match act s with
  | .ok a s' => .ok a (State.restore s s')
  | .error e s' => .error e (State.restore s s')

/-- Adds a variable. -/
def declare (name : String) (value : Value) (constant : Bool) : Eval Unit :=
  modify fun s => { s with scope := ⟨name, value, constant, []⟩ :: s.scope }

/-- The innermost variable of a name. -/
def variable_ (name : String) (p : Position) : Eval Variable := fun s =>
  match s.scope.find? (·.name == name) with
  | some v => .ok v s
  | none => .error (.fault (.unknownVariable name) p) s

/-- Puts a variable in place of the innermost one of its name. -/
def replaceFirst (new : Variable) : List Variable → List Variable
  | [] => []
  | v :: rest => if v.name == new.name then new :: rest else v :: replaceFirst new rest

/-- Puts a variable in place of the innermost one of its name. -/
def store (v : Variable) : Eval Unit :=
  modify fun s => { s with scope := replaceFirst v s.scope }

/-- A link of a chain with the values of its arguments. -/
abbrev Resolved := Link × List Value

/-- What is assigned at the end of a chain. -/
structure Assignment where
  op : Option BinaryOp
  value : Value
  at_ : Position

/-- The value after an assignment. -/
def Assignment.apply (a : Assignment) (b : Budget) (old : Value) : Eval Value :=
  match a.op with
  | none => pure a.value
  | some op => lift a.at_ (Value.assignBinary b.sizes op old a.value)

/-- A value that a chain has come to. It is a part of a variable, given by the steps from it, the
last first; or it stands by itself, and then it can be changed but is forgotten. -/
structure Spot where
  value : Value
  path : Option (List Step)

/-- The variable at the root of a chain and its place, if the root is a variable. -/
structure Root where
  variable_ : Option Variable
  at_ : Position

/-- A spot cannot be changed. -/
def Root.holds (r : Root) (s : Spot) : Bool :=
  match r.variable_, s.path with
  | some v, some path => v.holds path.reverse
  | _, _ => false

/-- Refuses to change a spot that cannot be changed. -/
def Root.guard (r : Root) (s : Spot) : Eval Unit :=
  if r.holds s then fail (.constant ((r.variable_.map (·.name)).getD "")) r.at_ else pure ()

/-- What a chain comes to: its result, the value that it started at as it is afterwards, and the
steps to the part that was assigned. -/
structure Trail where
  result : Value
  value : Value
  assigned : Option (List Step)

/-- The spot that is selected in another one. -/
def Spot.enter (s : Spot) (selection : Value.Selection) : Spot :=
  match selection with
  | .field name v => ⟨v, s.path.map (.field name :: ·)⟩
  | .item place v => ⟨v, s.path.map (.item place :: ·)⟩
  | selection => ⟨selection.value, none⟩

/-- Assigns to what is selected in a spot. -/
def assignAt (b : Budget) (root : Root) (s : Spot) (selection : Value.Selection) (a : Assignment) :
    Eval (Value × Trail) := do
  let inner := s.enter selection
  root.guard inner
  let new ← a.apply b selection.value
  let whole ← lift a.at_ (selection.put s.value new)
  let steps := match selection with
    | .field name _ | .missing name => s.path.map (.field name :: ·)
    | .item place _ => s.path.map (.item place :: ·)
    | _ => none
  return (new, ⟨.unit, whole, steps⟩)

/-- Calls a method on a spot: what it gives and what the spot holds afterwards. -/
def callAt (b : Budget) (root : Root) (s : Spot) (name : String) (arguments : List Value)
    (p : Position) : Eval (Value × Value) := do
  let done (result object : Value) : Eval (Value × Value) := do
    let result ← lift p (Value.within b.sizes result)
    if s.path.isSome then
      let _ ← lift p (Value.within b.sizes object)
    return (result, object)
  match Value.action? b.sizes name (s.value :: arguments) with
  | none => fail (.unknownFunction (Value.signature name (s.value :: arguments))) p
  | some (.result r) => done (← lift p r) s.value
  | some (.change r) =>
    if root.holds s then fail (.constantObject name) p
    else done .unit (← lift p r)

/-- Follows the links of a chain from a spot, and assigns at its end if something is to be assigned.
`blame` is the place for an operation too many. -/
def follow (b : Budget) (root : Root) (blame : Position) (a : Option Assignment) :
    Spot → List Resolved → Eval Trail
  | s, [] => return ⟨s.value, s.value, none⟩
  | s, (.method name _ _ p, vs) :: rest => do
    let (result, object) ← callAt b root s name vs p
    let trail ← follow b root p a ⟨result, none⟩ rest
    return { trail with value := object, assigned := none }
  | s, (.property name sign p, _) :: rest => do
    match s.value with
    | .map _ =>
      tick b blame
      let selection := (← lift p (Value.select s.value (.string name))).getD (.missing name)
      match rest, a with
      | [], some a =>
        let (_, trail) ← assignAt b root s selection a
        let _ ← lift a.at_ (Value.within b.sizes trail.value)
        return trail
      | _, _ =>
        let trail ← follow b root p a (s.enter selection) rest
        let whole ← if trail.assigned.isSome || selection matches .field .. then
            lift sign (selection.put s.value trail.value)
          else pure s.value
        return { trail with value := whole }
    | v =>
      match rest, a with
      | [], some a =>
        if a.op.isSome then
          let _ ← lift p (v.property name)
        fail (.unwritableProperty name v.typeName a.value.typeName) p
      | _, _ =>
        let trail ← follow b root p a ⟨← lift p (v.property name), none⟩ rest
        return { trail with value := v, assigned := none }
  | s, (.index key sign, vs) :: rest => do
    tick b blame
    let k := vs.headD .unit
    match rest, a, ← lift key.start (Value.select s.value k) with
    | [], some a, some selection =>
      let (new, trail) ← assignAt b root s selection a
      let _ ← lift a.at_ (Value.within b.sizes new)
      return trail
    | [], some a, none =>
      fail (.notIndexed (s.value.typeName ++ " [" ++ k.typeName ++ "] = " ++ a.value.typeName)) sign
    | _, _, none => fail (.notIndexed (s.value.typeName ++ " [" ++ k.typeName ++ "]")) sign
    | _, _, some selection =>
      let trail ← follow b root key.start a (s.enter selection) rest
      let whole ← match selection with
        | .field .. | .item .. => lift sign (selection.put s.value trail.value)
        | _ => pure s.value
      return { trail with value := whole }

mutual

/-- The value of an expression. -/
def expression (b : Budget) (fuel : Nat) (e : Expr) : Eval Value :=
  match fuel with
  | 0 => throw .timeout
  | fuel + 1 => do
    tick b e.position
    compute b fuel e

/-- The value of an expression that was counted. -/
def compute (b : Budget) (fuel : Nat) (e : Expr) : Eval Value :=
  match fuel with
  | 0 => throw .timeout
  | fuel + 1 =>
    match e with
    | .literal v _ => return v
    | .variable name p => return (← variable_ name p).value
    | .array items _ => do
      return .array (← itemValues b fuel ⟨0, 0, 0⟩ items)
    | .map entries _ => do
      return .map (Fields.ofList (← fieldValues b fuel ⟨0, 0, 0⟩ entries))
    | .unary op operand p => do
      let v ← expression b fuel operand
      lift p (Value.unary op v)
    | .binary op left right p => do
      let l ← expression b fuel left
      let r ← expression b fuel right
      lift p (Value.binary b.sizes op l r)
    | .both left right _ => do
      let l ← expression b fuel left
      if !(← lift left.position l.asBool) then return .bool false
      let r ← expression b fuel right
      return .bool (← lift right.position r.asBool)
    | .either left right _ => do
      let l ← expression b fuel left
      if (← lift left.position l.asBool) then return .bool true
      let r ← expression b fuel right
      return .bool (← lift right.position r.asBool)
    | .chain root first rest => chain b fuel root first rest none
    | .call "Fn" [argument] _ => do
      let v ← expression b fuel argument
      lift argument.start (Value.functionNamed v)
    | .call name (.variable x xAt :: arguments) p => do
      tick b xAt
      let vs ← expressions b fuel arguments
      let v ← variable_ x xAt
      let s : Spot := ⟨v.value, if v.constant then none else some []⟩
      let (result, object) ← callAt b ⟨none, xAt⟩ s name vs p
      if !v.constant then store { v with value := object }
      return result
    | .call name arguments p => do
      match ← expressions b fuel arguments with
      | [] =>
        match Value.action? b.sizes name [] with
        | some (.result r) => lift p r
        | _ => fail (.unknownFunction (Value.signature name [])) p
      | v :: vs => return (← callAt b ⟨none, p⟩ ⟨v, none⟩ name vs p).1
    | .block body _ => inScope (statements b fuel body)

/-- The value of a chain, at whose end something may be assigned. The arguments of the links come
before the root. -/
def chain (b : Budget) (fuel : Nat) (root : Expr) (first : Link) (rest : List Link)
    (a : Option Assignment) : Eval Value :=
  match fuel with
  | 0 => throw .timeout
  | fuel + 1 => do
    let links ← match first, rest with
      | .property .., [] => pure [(first, [])]
      | .method _ arguments _ _, [] =>
        match literals? arguments with
        | some vs => pure [(first, vs)]
        | none => linkValues b fuel (first :: rest)
      | .index (.literal v _) _, [] => pure [(first, [v])]
      | _, _ => linkValues b fuel (first :: rest)
    match root with
    | .variable x p =>
      tick b p
      let v ← variable_ x p
      let trail ← follow b ⟨some v, p⟩ first.sign a ⟨v.value, some []⟩ links
      let added := match trail.assigned with
        | some path => path.reverse :: v.added
        | none => v.added
      store { v with value := trail.value, added := if v.constant then added else [] }
      return trail.result
    | e =>
      let v ← expression b fuel e
      let trail ← follow b ⟨none, e.position⟩ first.sign a ⟨v, none⟩ links
      return trail.result

/-- The links of a chain with the values of their arguments, from left to right. -/
def linkValues (b : Budget) (fuel : Nat) (links : List Link) : Eval (List Resolved) :=
  match fuel with
  | 0 => throw .timeout
  | fuel + 1 =>
    match links with
    | [] => pure []
    | link :: rest => do
      tick b (match rest with
        | next :: _ => next.sign
        | [] => link.position)
      let vs ← match link with
        | .property .. => pure []
        | .method _ arguments _ _ => expressions b fuel arguments
        | .index key _ => do pure [← expression b fuel key]
      return (link, vs) :: (← linkValues b fuel rest)

/-- The values of expressions, from left to right. -/
def expressions (b : Budget) (fuel : Nat) : List Expr → Eval (List Value)
  | [] => pure []
  | e :: rest =>
    match fuel with
    | 0 => throw .timeout
    | fuel + 1 => do
      let v ← expression b fuel e
      return v :: (← expressions b fuel rest)

/-- The values of the items of an array, which may not hold too much together with `size`. -/
def itemValues (b : Budget) (fuel : Nat) (size : Value.Size) : List Expr → Eval (List Value)
  | [] => pure []
  | e :: rest =>
    match fuel with
    | 0 => throw .timeout
    | fuel + 1 => do
      let v ← expression b fuel e
      let size := (size.plus v.size).plus ⟨1, 0, 0⟩
      lift e.position (size.within b.sizes)
      return v :: (← itemValues b fuel size rest)

/-- The fields of a map, which may not hold too much together with `size`. -/
def fieldValues (b : Budget) (fuel : Nat) (size : Value.Size) :
    List (String × Expr) → Eval (List (String × Value))
  | [] => pure []
  | (name, e) :: rest =>
    match fuel with
    | 0 => throw .timeout
    | fuel + 1 => do
      let v ← expression b fuel e
      let size := (size.plus v.size).plus ⟨0, 1, 0⟩
      lift e.position (size.within b.sizes)
      return (name, v) :: (← fieldValues b fuel size rest)

/-- Runs statements one after the other; the last one gives the value. -/
def statements (b : Budget) (fuel : Nat) : List Statement → Eval Value
  | [] => pure .unit
  | s :: rest =>
    match fuel with
    | 0 => throw .timeout
    | fuel + 1 => do
      let v ← statement b fuel s
      if rest.isEmpty then return v else statements b fuel rest

/-- Runs a loop until its condition, if it has one, fails or the loop is left. -/
def repeat_ (b : Budget) (fuel : Nat) (condition : Option Expr) (body : List Statement)
    (bodyAt : Position) : Eval Value := fun s =>
  match fuel with
  | 0 => .error .timeout s
  | fuel + 1 =>
    let goOn : Eval Bool := match condition with
      | none => if body.isEmpty then do tick b bodyAt; return true else pure true
      | some e => do lift e.position (← expression b fuel e).asBool
    match goOn s with
    | .error e s => .error e s
    | .ok false s => .ok .unit s
    | .ok true s =>
      match inScope (statements b fuel body) s with
      | .ok _ s => repeat_ b fuel condition body bodyAt s
      | .error .continue_ s => repeat_ b fuel condition body bodyAt s
      | .error (.break_ v) s => .ok v s
      | .error e s => .error e s

/-- Runs a loop once for each value. -/
def forEach (b : Budget) (fuel : Nat) (name : String) (body : List Statement)
    (source : Value.Source) : Eval Value := fun s =>
  match fuel, source.next? with
  | _, none => .ok .unit s
  | 0, _ => .error .timeout s
  | fuel + 1, some (v, rest) =>
    let iteration : Eval Value := do
      declare name v false
      statements b fuel body
    match inScope iteration s with
    | .ok _ s => forEach b fuel name body rest s
    | .error .continue_ s => forEach b fuel name body rest s
    | .error (.break_ v) s => .ok v s
    | .error e s => .error e s

/-- The value after a keyword, which may be left out. -/
def optional (b : Budget) (fuel : Nat) (value : Option Expr) : Eval Value :=
  match fuel, value with
  | 0, _ => throw .timeout
  | _, none => pure .unit
  | fuel + 1, some e => expression b fuel e

/-- Runs a statement. -/
def statement (b : Budget) (fuel : Nat) (s : Statement) : Eval Value :=
  match fuel with
  | 0 => throw .timeout
  | fuel + 1 => do
    tick b s.position
    match s with
    | .noop _ => return .unit
    | .expression e => if e.isCall then compute b fuel e else expression b fuel e
    | .declare name constant value _ =>
      declare name (← expression b fuel value) constant
      return .unit
    | .assign (.variable x xAt) op value p =>
      let a : Assignment := ⟨op, ← expression b fuel value, p⟩
      let v ← variable_ x xAt
      tick b xAt
      if v.constant then fail (.constant x) xAt
      store { v with value := ← a.apply b v.value }
      return .unit
    | .assign (.chain root first rest) op value p =>
      let a : Assignment := ⟨op, ← expression b fuel value, p⟩
      chain b fuel root first rest (some a)
    | .assign _ _ _ _ => return .unit
    | .group body _ => inScope (statements b fuel body)
    | .choose condition yes no _ =>
      let c ← expression b fuel condition
      if (← lift condition.position c.asBool) then inScope (statements b fuel yes)
      else inScope (statements b fuel no)
    | .loop body bodyAt _ => repeat_ b fuel none body bodyAt
    | .while_ condition body bodyAt _ => repeat_ b fuel (some condition) body bodyAt
    | .forEach name collection body _ =>
      let v ← expression b fuel collection
      match v.source? with
      | some source => if body.isEmpty then return .unit else forEach b fuel name body source
      | none => fail .notIterable collection.start
    | .leave value _ => throw (.leave (← optional b fuel value))
    | .fail value p => fail (.thrown (← optional b fuel value)) p
    | .break_ value _ => throw (.break_ (← optional b fuel value))
    | .continue_ _ => throw .continue_

end

end Machine

end Automation.Script
