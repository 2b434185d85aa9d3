import Automation.Services
import Automation.Proofs.Fields.Order

/-!
# Requests to the store

What a request does to the documents of the tenant that makes it. A request that is out of service
does nothing; otherwise writing a document puts it under its id with the next revision, and it is
found there (`Store.get?_put_self`), and removing one takes its id out.
-/

namespace Automation

namespace Store

variable (s : Store) (t : Tenant)

/-- The tenant whose documents are set has them. -/
theorem partition_set_same (fields : List (String × Revision)) :
    partition ⟨s.partitions.set t fields⟩ t = fields :=
  PerTenant.get_set_same _ _ _

/-- Setting the documents of a tenant does not touch those of others. -/
theorem partition_set_other {t u : Tenant} (hu : u ≠ t) (fields : List (String × Revision)) :
    partition ⟨s.partitions.set t fields⟩ u = s.partition u :=
  PerTenant.get_set_other _ _ hu

/-- What is written of a document. -/
def next (d : Document) : Revision :=
  ⟨s.revision t d.id + 1, d.body⟩

/-- Writing a document puts its next revision among the documents of its tenant. -/
theorem partition_put (d : Document) :
    (s.put t d).2.partition t = Fields.insert d.id (s.next t d) (s.partition t) :=
  PerTenant.get_set_same _ _ _

/-- What is found of a document after another one has been written. -/
theorem lookup_put_ne {owner : Tenant} {id : String} {d : Document} (h : owner ≠ t ∨ id ≠ d.id) :
    ((s.put t d).2.partition owner).lookup id = (s.partition owner).lookup id := by
  by_cases howner : owner = t
  · rw [howner, partition_put, Fields.lookup_insert_ne (h.resolve_left fun hne => hne howner)]
  · exact congrArg (List.lookup id) (PerTenant.get_set_other _ _ howner)

/-- A document that is not there has revision zero. -/
theorem revision_of_absent {id : String} (h : (s.partition t).lookup id = none) :
    s.revision t id = 0 := by
  rw [revision, h]
  rfl

/-- A document that is there has the revision that is found. -/
theorem revision_of_found {id : String} {r : Revision} (h : (s.partition t).lookup id = some r) :
    s.revision t id = r.number := by
  rw [revision, h]
  rfl

/-- The document that has been written is found. -/
theorem get?_put_self (d : Document) : (s.put t d).2.get? t d.id = some (s.put t d).1 := by
  rw [get?, partition_put, Fields.lookup_insert_self]
  rfl

/-- Writing a document does not touch another one. -/
theorem get?_put_ne {owner : Tenant} {id : String} {d : Document} (h : owner ≠ t ∨ id ≠ d.id) :
    (s.put t d).2.get? owner id = s.get? owner id := by
  rw [get?, lookup_put_ne s t h]
  rfl

/-- The documents of a tenant in a range, all of them. -/
def within (range : IdRange) : List Document :=
  ((s.partition t).filter fun field => range.includes field.1).map fun field =>
    field.2.document field.1

/-- Documents are listed up to a limit. -/
theorem documents_eq (range : IdRange) :
    s.documents t range = range.limit.elim (s.within t range) (s.within t range).take := by
  rw [documents]
  cases range.limit with
  | none => rfl
  | some n => rfl

/-- The documents that are listed are in the range. -/
theorem mem_within_of_mem_documents {range : IdRange} {d : Document}
    (h : d ∈ s.documents t range) : d ∈ s.within t range := by
  rw [documents_eq] at h
  cases hlimit : range.limit with
  | none =>
    rw [hlimit] at h
    exact h
  | some n =>
    rw [hlimit] at h
    exact List.mem_of_mem_take h

end Store

namespace Services

variable (s : Services) (t : Tenant)

/-- A request to write a document does what the store does while the store is in service. -/
theorem putDocument_of_served (d : Document) (h : s.storeOutages.lookup .put = none) :
    s.putDocument t d = (.ok (s.store.put t d).1, { s with store := (s.store.put t d).2 }) := by
  rw [putDocument, ifStored, h]

/-- Writing a document fails, or it does what the store does. -/
theorem putDocument_cases (d : Document) :
    (∃ fault, s.putDocument t d = (.error fault, s)) ∨
      s.putDocument t d = (.ok (s.store.put t d).1, { s with store := (s.store.put t d).2 }) := by
  cases h : s.storeOutages.lookup .put with
  | none => exact .inr (s.putDocument_of_served t d h)
  | some message => exact .inl ⟨.outage message, by rw [putDocument, ifStored, h]⟩

/-- Removing a document fails, or it takes the id of a document out. -/
theorem removeDocument_cases (id : String) :
    (∃ fault, s.removeDocument t id = (.error fault, s)) ∨
      ∃ d, s.removeDocument t id = (.ok d, { s with
        store := ⟨s.store.partitions.set t (Fields.erase id (s.store.partition t))⟩ }) := by
  unfold removeDocument ifStored Store.remove?
  cases s.storeOutages.lookup .remove with
  | some message => exact .inl ⟨.outage message, rfl⟩
  | none =>
    cases s.store.get? t id with
    | none => exact .inl ⟨.notFound id, rfl⟩
    | some d => exact .inr ⟨d, rfl⟩

/-- The documents after a request to write one. -/
theorem store_putDocument (d : Document) :
    (s.putDocument t d).2.store =
      if s.storeOutages.lookup .put = none then (s.store.put t d).2 else s.store := by
  unfold putDocument ifStored
  cases s.storeOutages.lookup .put with
  | none => rfl
  | some message => rfl

/-- What is found of a document after a request to write another one. -/
theorem lookup_putDocument_ne {owner : Tenant} {id : String} {d : Document}
    (h : owner ≠ t ∨ id ≠ d.id) :
    ((s.putDocument t d).2.store.partition owner).lookup id =
      (s.store.partition owner).lookup id := by
  rw [store_putDocument]
  split
  · exact s.store.lookup_put_ne t h
  · rfl

/-- What is found of a document after a request to remove another one. -/
theorem lookup_removeDocument_ne {owner : Tenant} {id id' : String} (h : owner ≠ t ∨ id ≠ id') :
    ((s.removeDocument t id').2.store.partition owner).lookup id =
      (s.store.partition owner).lookup id := by
  rcases s.removeDocument_cases t id' with ⟨fault, hremove⟩ | ⟨d, hremove⟩
  · rw [hremove]
  · rw [hremove]
    dsimp only [Store.partition]
    by_cases howner : owner = t
    · have hid := h.resolve_left fun hne => hne howner
      rw [howner, PerTenant.get_set_same, Fields.lookup_erase, if_neg hid]
    · rw [PerTenant.get_set_other _ _ howner]

/-- A request for a document finds what the store has while the store is in service. -/
theorem getDocument_of_served (id : String) (h : s.storeOutages.lookup .get = none) :
    s.getDocument t id = .ok (s.store.get? t id) := by
  rw [getDocument, ifStored, h]

/-- A request for documents lists what the store has while the store is in service. -/
theorem listDocuments_of_served (range : IdRange) (h : s.storeOutages.lookup .list = none) :
    s.listDocuments t range = .ok (s.store.documents t range) := by
  rw [listDocuments, ifStored, h]

/-- Writing a document takes no kind of request out of service. -/
theorem storeOutages_putDocument (d : Document) :
    (s.putDocument t d).2.storeOutages = s.storeOutages := by
  unfold putDocument
  split
  · rfl
  · rfl

/-- Removing a document takes no kind of request out of service. -/
theorem storeOutages_removeDocument (id : String) :
    (s.removeDocument t id).2.storeOutages = s.storeOutages := by
  rcases s.removeDocument_cases t id with ⟨fault, h⟩ | ⟨d, h⟩
  · rw [h]
  · rw [h]

end Services

end Automation
