import Automation.Template
/-!
# Bindings

The expression of a template is a lookup, which is a path into the run's context, or a script, whose
source is written in base64 between double quotes.
-/

namespace Automation

open Text

/-- A parsed template expression. -/
inductive Binding where
  | lookup (path : String)
  | script (source : String)
  deriving DecidableEq, Repr

/-- Why an expression is no binding. -/
inductive BindingSyntaxFault where
  | unquotedScript
  | base64 (fault : Base64.Fault)
  | utf8 (fault : Utf8.Fault)
  deriving DecidableEq, Repr

/-- The wording of a fault. -/
def BindingSyntaxFault.message : BindingSyntaxFault → String
  | .unquotedScript =>
    "malformed script binding: script source must be a double-quoted base64 string"
  | .base64 fault => "script binding is not valid base64: " ++ fault.message
  | .utf8 fault => "script binding is not valid base64: " ++ fault.message

namespace Binding

/-- The text between double quotes. -/
def unquote? (cs : List Char) : Option (List Char) :=
  (stripStart? ['"'] cs).bind (stripEnd? ['"'])

/-- Reads an expression. -/
def ofExpression (expression : String) : Except BindingSyntaxFault Binding :=
  let trimmed := trim expression.toList
  match Template.scriptLiteral? trimmed with
  | none => .ok (.lookup (String.ofList trimmed))
  | some literal =>
    match unquote? literal with
    | none => .error .unquotedScript
    | some encoded =>
      match Base64.decode (Utf8.encode (trim encoded)) with
      | .error fault => .error (.base64 fault)
      | .ok bytes =>
        match Utf8.decode bytes with
        | .error fault => .error (.utf8 fault)
        | .ok source => .ok (.script (String.ofList source))

end Binding

end Automation
