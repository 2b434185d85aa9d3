import Automation.Script.Parser
/-!
# Faults of scripts

Why a running script fails. A fault of an evaluation is shown with the place where it arose.
-/

namespace Automation.Script

open Text

/-- Why an operation of a script fails. -/
inductive Fault where
  | thrown (value : Value)
  | unknownVariable (name : String)
  | unknownFunction (signature : String)
  | arithmetic (text : String)
  | arrayBounds (size : Nat) (index : Int)
  | stringBounds (size : Nat) (index : Int)
  | bitBounds (index : Int)
  | unknownProperty (name type : String)
  | unwritableProperty (name type new : String)
  | notIndexed (operation : String)
  | wrongType (actual expected : String)
  | notIterable
  | constant (name : String)
  | constantObject (method : String)
  | tooManyOperations
  | tooLarge (what : String)

/-- Three wordings of an index outside of a sequence, by the sequence's length. -/
def boundsMessage (sequence unit_ : String) (size : Nat) (index : Int) : String :=
  let head := sequence ++ " index " ++ String.ofList (integer index) ++ " out of bounds: "
  match size with
  | 0 => head ++ sequence.toLower ++ " is empty"
  | 1 => head ++ "only 1 " ++ unit_ ++ " in " ++ sequence.toLower
  | n => head ++ "only " ++ String.ofList (digits n) ++ " " ++ unit_ ++ "s in " ++ sequence.toLower

/-- The wording of a fault. -/
def Fault.message : Fault → String
  | .thrown .unit => "Runtime error"
  | .thrown (.string "") => "Runtime error"
  | .thrown v => "Runtime error: " ++ String.ofList v.show_
  | .unknownVariable name => "Variable not found: " ++ name
  | .unknownFunction signature => "Function not found: " ++ signature
  | .arithmetic text => text
  | .arrayBounds size index => boundsMessage "Array" "element" size index
  | .stringBounds size index => boundsMessage "String" "character" size index
  | .bitBounds index => boundsMessage "Bit-field" "bit" 64 index
  | .unknownProperty name type =>
    "Unknown property '" ++ name ++ "' - a getter is not registered for type '" ++ type ++ "'"
  | .unwritableProperty name type new =>
    "No writable property '" ++ name ++ "' - a setter is not registered for type '" ++ type ++
      "' to handle '" ++ new ++ "'"
  | .notIndexed operation => "Indexer unavailable: " ++ operation
  | .wrongType actual expected =>
    "Data type incorrect: " ++ actual ++ " (expecting " ++ expected ++ ")"
  | .notIterable => "For loop expects iterable type"
  | .constant name => "Cannot modify constant " ++ name
  | .constantObject method =>
    "Non-pure method '" ++ method ++ "' cannot be called on constant"
  | .tooManyOperations => "Too many operations"
  | .tooLarge what => what ++ " too large"

/-- The fault is a limit of the sandbox. -/
def Fault.isLimit : Fault → Bool
  | .tooManyOperations | .tooLarge _ => true
  | _ => false

/-- The place of a fault as messages show it. -/
def Position.text (p : Position) : String :=
  if p.line = 0 then ""
  else
    " (line " ++ String.ofList (digits p.line) ++ ", position " ++
      String.ofList (digits p.column) ++ ")"

end Automation.Script
