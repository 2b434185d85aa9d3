import Automation.Definition.Layout
/-!
# The document store

Every tenant has documents of its own. Writing a document raises its revision by one, whatever
revision it is given; a document that is not there has revision zero. Documents are listed in the
order of their ids, those of a range and up to a limit if that is asked for.
-/

namespace Automation

open Text

/-- A document. -/
structure Document where
  id : String
  revision : Nat := 0
  body : Json
  deriving Repr, Inhabited

namespace Document

/-- The document that a tree stands for. -/
def ofTree (t : Tree) : Except DecodeFault Document := do
  let r ← t.record "Document"
    [.required "id" Tree.asString, .optional_ "revision" Tree.asWord64,
      .required "body" Tree.asJson]
  return {
    id := ← r.get "id" Tree.asString
    revision := ← r.getD "revision" Tree.asWord64 0
    body := ← r.get "body" Tree.asJson }

/-- The document as a value. -/
def toJson (d : Document) : Json :=
  .object [("body", d.body), ("id", .string d.id), ("revision", .int d.revision)]

end Document

/-- A range of ids with its ends, and how many documents are wanted. -/
structure IdRange where
  first : Option String := none
  last : Option String := none
  limit : Option Nat := none
  deriving DecidableEq, Repr, Inhabited

namespace IdRange

/-- The ids that begin with some text. -/
def startingWith (start : String) : IdRange :=
  { first := some start, last := some (start ++ String.ofList [Char.ofNat 0xFFF0]) }

/-- The id is in the range. -/
def includes (r : IdRange) (id : String) : Bool :=
  r.first.all (atMost · id) && r.last.all (atMost id)

end IdRange

/-- What the store has of a document: its revision and its body. The revision counts writes, which
stay far below the end of 64-bit words. -/
structure Revision where
  number : Nat
  body : Json
  deriving Repr, Inhabited

/-- The document of an id. -/
def Revision.document (id : String) (r : Revision) : Document :=
  ⟨id, r.number, r.body⟩

/-- The documents of all tenants, sorted by id. -/
structure Store where
  partitions : PerTenant (List (String × Revision)) := .empty
  deriving Repr, Inhabited

namespace Store

/-- The documents of a tenant. -/
def partition (s : Store) (t : Tenant) : List (String × Revision) :=
  s.partitions.get t

/-- The document of an id. -/
def get? (s : Store) (t : Tenant) (id : String) : Option Document :=
  ((s.partition t).lookup id).map (·.document id)

/-- The revision of a document, zero if it is not there. -/
def revision (s : Store) (t : Tenant) (id : String) : Nat :=
  (((s.partition t).lookup id).map (·.number)).getD 0

/-- Writes a document. -/
def put (s : Store) (t : Tenant) (d : Document) : Document × Store :=
  let written : Revision := ⟨s.revision t d.id + 1, d.body⟩
  (written.document d.id,
    ⟨s.partitions.set t (Fields.insert d.id written (s.partition t))⟩)

/-- Removes a document that is there. -/
def remove? (s : Store) (t : Tenant) (id : String) : Option (Document × Store) :=
  (s.get? t id).map fun d => (d, ⟨s.partitions.set t (Fields.erase id (s.partition t))⟩)

/-- The number of documents of a tenant. -/
def count (s : Store) (t : Tenant) : Nat :=
  (s.partition t).length

/-- The documents of a range. -/
def documents (s : Store) (t : Tenant) (r : IdRange) : List Document :=
  let all := ((s.partition t).filter fun (id, _) => r.includes id).map fun (id, revision) =>
    revision.document id
  match r.limit with
  | some n => all.take n
  | none => all

end Store

/-- Why a request to the store fails. -/
inductive StoreFault where
  | notFound (id : String)
  | outage (message : String)
  deriving DecidableEq, Repr

/-- The wording of a fault. -/
def StoreFault.message : StoreFault → String
  | .notFound id => "document '" ++ id ++ "' not found"
  | .outage message => "document store failure: " ++ message

end Automation
