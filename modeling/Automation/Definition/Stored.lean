import Automation.Services
/-!
# Definitions in the store

A definition is a document of its tenant under its own id. Its body is the value of the definition,
and the objects in it are sorted by name.
-/

namespace Automation.Definition

/-- Why a definition cannot be had from the store. -/
inductive LoadFault where
  | store (fault : StoreFault)
  | notFound (id : String) (tenant : Tenant)
  | notADefinition (id : String) (fault : DecodeFault)
  | otherOwner (id : String) (owner : Tenant)
  deriving DecidableEq, Repr

/-- The wording of a fault. -/
def LoadFault.message : LoadFault → String
  | .store fault => fault.message
  | .notFound id tenant => "automation '" ++ id ++ "' not found for tenant " ++ tenant.name
  | .notADefinition id fault =>
    "automation document '" ++ id ++ "' is not a valid definition: " ++ fault.message
  | .otherOwner id owner => "automation '" ++ id ++ "' is owned by tenant " ++ owner.name

/-- The definition as a value, its fields sorted. -/
def toJson (d : Definition) : Json :=
  d.toTree.toJson?.getD .null

/-- Writes a definition to the store. -/
def save (d : Definition) (s : Services) : Except StoreFault Document × Services :=
  s.putDocument d.tenant { id := d.id, body := d.toJson }

/-- The definition in a document. -/
def ofDocument (tenant : Tenant) (document : Document) : Except LoadFault Definition := do
  let d ← (ofTree (.ofJson document.body)).mapError (.notADefinition document.id)
  if d.tenant ≠ tenant then throw (.otherOwner document.id d.tenant)
  return d

/-- Reads a tenant's definition from the store. -/
def load (tenant : Tenant) (id : String) (s : Services) : Except LoadFault Definition := do
  match ← (s.getDocument tenant id).mapError .store with
  | none => throw (.notFound id tenant)
  | some document => ofDocument tenant document

end Automation.Definition
