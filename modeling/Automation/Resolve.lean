import Automation.Binding
import Automation.Condition
import Automation.Context
import Automation.Json.Display
import Automation.Script.Run
/-!
# Resolving templates and conditions

A resolver evaluates the expressions of templates in a context. Lookups always succeed, a missing
path being null; scripts may fail. In a value every text is resolved: a text that is one template
becomes the value of its expression, and in any other text the displayed values take the places of
the templates. Failures are gathered with the place of their text, and null or nothing stands for
the value.

`Resolver.condition` evaluates the text of a condition.
-/

namespace Automation

open Text

/-- Why an expression has no value. -/
inductive BindingFault where
  | syntaxFault (fault : BindingSyntaxFault)
  | script (failure : Script.Failure)
  deriving DecidableEq, Repr

/-- The wording of a fault. -/
def BindingFault.message : BindingFault → String
  | .syntaxFault fault => fault.message
  | .script failure => failure.message

/-- An expression without a value: the field of the inputs that it belongs to, the place of its text
and the reason. -/
structure ResolutionFailure where
  field : String
  sourcePath : String
  fault : BindingFault
  deriving DecidableEq, Repr

/-- The limits under which scripts run: those of sizes and operations, and their time. -/
structure Resolver where
  limits : Script.Limits := {}
  millis : Nat := 1000
  deriving DecidableEq, Repr, Inhabited

namespace Resolver

/-- The resolver with at most some milliseconds for a script. -/
def within (r : Resolver) (millis : Nat) : Resolver :=
  { r with millis := if millis < r.millis then millis else r.millis }

/-- The value of an expression. -/
def resolve (r : Resolver) (ctx : Context) (expression : String) : Except BindingFault Json :=
  match Binding.ofExpression expression with
  | .error fault => .error (.syntaxFault fault)
  | .ok (.lookup path) => .ok ((ctx.lookup? path).getD .null)
  | .ok (.script source) =>
    (Script.run r.limits r.millis source ctx.toJson).answer.mapError .script

/-- The milliseconds that an expression takes. -/
def time (r : Resolver) (ctx : Context) (expression : String) : Nat :=
  match Binding.ofExpression expression with
  | .ok (.script source) => (Script.run r.limits r.millis source ctx.toJson).elapsed
  | _ => 0

/-- The characters of a text with the values of its templates in their places, and the faults of
their expressions. A template that is not closed stays as it is, with all that comes after it.
`fuel` bounds the number of templates. -/
def spliceWithin (r : Resolver) (ctx : Context) : Nat → List Char → List Char × List BindingFault
  | 0, cs => (cs, [])
  | fuel + 1, cs =>
    match cut? Template.opener cs with
    | none => (cs, [])
    | some (before, rest) =>
      let template := Template.opener ++ rest
      match cut? Template.closer template with
      | none => (before ++ template, [])
      | some (opened, after) =>
        let expression := trim (opened.drop Template.opener.length)
        let value := r.resolve ctx (String.ofList expression)
        let (text, faults) := spliceWithin r ctx fuel after
        match value with
        | .ok v => (before ++ (v.display.toList ++ text), faults)
        | .error fault => (before ++ text, fault :: faults)

/-- The characters of a text with the values of its templates in their places, and the faults of
their expressions. -/
def splice (r : Resolver) (ctx : Context) (cs : List Char) : List Char × List BindingFault :=
  spliceWithin r ctx cs.length cs

/-- The value of a text and the faults of its expressions. -/
def resolveText (r : Resolver) (ctx : Context) (s : String) : Json × List BindingFault :=
  match Template.single? s with
  | some expression =>
    match r.resolve ctx expression with
    | .ok v => (v, [])
    | .error fault => (.null, [fault])
  | none =>
    let (text, faults) := r.splice ctx s.toList
    (.string (String.ofList text), faults)

/-- The place of a field; directly below the top the place is the field's name. -/
def nestedPath (path name : String) : String :=
  if path.isEmpty then name else Template.fieldPath path name

mutual

/-- The value of a value, and the failures in it. -/
def resolveAt (r : Resolver) (ctx : Context) (field path : String) :
    Json → Json × List ResolutionFailure
  | .string s =>
    let (v, faults) := r.resolveText ctx s
    (v, faults.map fun fault => ⟨field, path, fault⟩)
  | .array items =>
    let (vs, failures) := resolveItems r ctx field path 0 items
    (.array vs, failures)
  | .object fields =>
    let (vs, failures) := resolveFields r ctx field path fields
    (.object vs, failures)
  | v => (v, [])

/-- The values of the items of an array, counted from `index`. -/
def resolveItems (r : Resolver) (ctx : Context) (field path : String) (index : Nat) :
    List Json → List Json × List ResolutionFailure
  | [] => ([], [])
  | item :: rest =>
    let (v, first) := resolveAt r ctx field (Template.itemPath path index) item
    let (vs, others) := resolveItems r ctx field path (index + 1) rest
    (v :: vs, first ++ others)

/-- The values of the fields of an object. -/
def resolveFields (r : Resolver) (ctx : Context) (field path : String) :
    List (String × Json) → List (String × Json) × List ResolutionFailure
  | [] => ([], [])
  | (name, value) :: rest =>
    let (v, first) := resolveAt r ctx field (nestedPath path name) value
    let (vs, others) := resolveFields r ctx field path rest
    ((name, v) :: vs, first ++ others)

end

/-- The value of a value; failures leave null or nothing. -/
def resolveValue (r : Resolver) (ctx : Context) (v : Json) : Json :=
  (r.resolveAt ctx "" "" v).1

/-- The fields of resolved inputs, sorted, and the failures in the order of the inputs. -/
structure ResolvedInputs where
  values : List (String × Json)
  failures : List ResolutionFailure

/-- The first failure of a field. -/
def ResolvedInputs.failureFor? (i : ResolvedInputs) (field : String) : Option ResolutionFailure :=
  i.failures.find? (·.field == field)

/-- The inputs put into the values and failures gathered so far. -/
def resolveInputsInto (r : Resolver) (ctx : Context) :
    ResolvedInputs → List (String × Json) → ResolvedInputs
  | done, [] => done
  | done, (field, value) :: rest =>
    let (v, failures) := r.resolveAt ctx field field value
    resolveInputsInto r ctx
      ⟨Fields.insert field v done.values, done.failures ++ failures⟩ rest

/-- The values of a step's inputs. -/
def resolveInputs (r : Resolver) (ctx : Context) (inputs : List (String × Json)) : ResolvedInputs :=
  resolveInputsInto r ctx ⟨[], []⟩ inputs

mutual

/-- The milliseconds that the expressions in a value take. -/
def timeOf (r : Resolver) (ctx : Context) : Json → Nat
  | .string s =>
    match Template.single? s with
    | some e => r.time ctx e
    | none => (Template.expressions s).foldl (fun n e => n + r.time ctx e) 0
  | .array items => timeOfItems r ctx items
  | .object fields => timeOfFields r ctx fields
  | _ => 0

/-- The milliseconds that the expressions in the items of an array take. -/
def timeOfItems (r : Resolver) (ctx : Context) : List Json → Nat
  | [] => 0
  | item :: rest => timeOf r ctx item + timeOfItems r ctx rest

/-- The milliseconds that the expressions in the fields of an object take. -/
def timeOfFields (r : Resolver) (ctx : Context) : List (String × Json) → Nat
  | [] => 0
  | (_, value) :: rest => timeOf r ctx value + timeOfFields r ctx rest

end

end Resolver

namespace Condition

/-- The value of an operand: a JSON literal, a text in single quotes, or else a path, which gives
null if it leads nowhere. -/
def operandValue (ctx : Context) (cs : List Char) : Json :=
  let trimmed := trim cs
  match literal? trimmed with
  | some v => v
  | none =>
    match (stripStart? ['\''] trimmed).bind (stripEnd? ['\'']) with
    | some quoted => .string (String.ofList quoted)
    | none => (ctx.lookup? (String.ofList trimmed)).getD .null

/-- A comparison is true in a context, or an operand alone counts as true. -/
def atomHolds (ctx : Context) (cs : List Char) : Bool :=
  match splitIncludes? cs with
  | some (left, right) => Json.includes (operandValue ctx left) (operandValue ctx right)
  | none =>
    match cutOuter? unequalMark cs with
    | some (left, right) => !Json.alike (operandValue ctx left) (operandValue ctx right)
    | none =>
      match cutOuter? equalMark cs with
      | some (left, right) => Json.alike (operandValue ctx left) (operandValue ctx right)
      | none => (operandValue ctx cs).isTruthy

/-- A text is true in a context: one of the parts joined by `||` is, or all parts joined by `&&`
are, or the comparison below its negations is or, if their number is odd, is not. A part of a text
is shorter than the text, so its length is fuel enough. -/
def nodeHolds (ctx : Context) : Nat → List Char → Bool
  | 0, cs => atomHolds ctx cs
  | fuel + 1, cs =>
    match split? orMark cs with
    | some found => found.any (nodeHolds ctx fuel)
    | none =>
      match split? andMark cs with
      | some found => found.all (nodeHolds ctx fuel)
      | none =>
        let (negations, inner) := dropNegations cs.length (trimStart cs)
        (negations % 2 == 1) != atomHolds ctx (trim inner)

end Condition

/-- Evaluates the text of a condition: an empty one is false, a script counts by its answer. -/
def Resolver.condition (r : Resolver) (ctx : Context) (raw : String) : Except BindingFault Bool :=
  let expression := Condition.normalize raw
  if expression.isEmpty then .ok false
  else if Template.isScript expression then (r.resolve ctx expression).map Json.isTruthy
  else .ok (Condition.nodeHolds ctx (expression.toList.length + 1) expression.toList)

end Automation
