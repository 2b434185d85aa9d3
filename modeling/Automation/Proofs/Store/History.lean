import Mathlib.Data.List.DropRight
import Automation.Proofs.Store

/-!
# The history of a store

Tenants call a store one after the other (`Store.after`), and what they are answered is kept
(`Store.history`). Which documents are there, and with which revision and body, is then read off
that history alone: the writes of an id since it was last taken out are counted, and the last of
them counts (`writes`). One call keeps the partitions of all tenants in step with the history
(`Recorded.answer`), so every sequence of calls does (`recorded_after`). A call raises a revision by
one at most, which keeps revisions below the number of calls (`revision_after_lt`). What a tenant is
answered depends on its own partition only (`answersTo_history`).
-/

namespace Automation.Store

/-! ## Calls and their answers -/

/-- A call to the store. -/
inductive Call where
  | put (d : Document)
  | get (id : String)
  | remove (id : String)
  | list (range : IdRange)
  | count

/-- What a call returns. -/
inductive Answer where
  | written (d : Document)
  | found (d : Option Document)
  | removed (d : Document)
  | notFound (id : String)
  | listed (documents : List Document)
  | counted (n : Nat)

/-- A call of a tenant and its answer. -/
structure Answered where
  tenant : Tenant
  call : Call
  answer : Answer

/-- The answer to a call, and the store after it. -/
def answer (s : Store) (t : Tenant) : Call → Answer × Store
  | .put d => (.written (s.put t d).1, (s.put t d).2)
  | .get id => (.found (s.get? t id), s)
  | .remove id =>
    match s.remove? t id with
    | some (d, s') => (.removed d, s')
    | none => (.notFound id, s)
  | .list range => (.listed (s.documents t range), s)
  | .count => (.counted (s.count t), s)

/-- The store after some calls. -/
def after (s : Store) : List (Tenant × Call) → Store
  | [] => s
  | (t, call) :: rest => (s.answer t call).2.after rest

/-- Some calls with their answers. -/
def history (s : Store) : List (Tenant × Call) → List Answered
  | [] => []
  | (t, call) :: rest => ⟨t, call, (s.answer t call).1⟩ :: (s.answer t call).2.history rest

/-- The calls of one tenant with their answers. -/
def answersTo (t : Tenant) (h : List Answered) : List Answered :=
  h.filter (·.tenant = t)

/-! ## What a history says of a document -/

/-- The call has taken a document of a tenant out. -/
def Answered.removes (t : Tenant) (id : String) (a : Answered) : Bool :=
  match a.call, a.answer with
  | .remove id', .removed _ => a.tenant = t && id' = id
  | _, _ => false

/-- The document that the call has written under an id of a tenant. -/
def Answered.written? (t : Tenant) (id : String) (a : Answered) : Option Document :=
  match a.call with
  | .put d => if a.tenant = t ∧ d.id = id then some d else none
  | _ => none

/-- The documents that a tenant has written under an id since it was last taken out. -/
def writes (h : List Answered) (t : Tenant) (id : String) : List Document :=
  (h.rtakeWhile (!·.removes t id)).filterMap (·.written? t id)

/-- What some writes of one id leave: the body of the last, with their number as the revision. -/
def lastOf (ds : List Document) : Option Revision :=
  ds.getLast?.map fun d => ⟨ds.length, d.body⟩

/-- One more write is the last one, and raises the number by one. -/
theorem lastOf_append_singleton (ds : List Document) (d : Document) :
    lastOf (ds ++ [d]) = some ⟨ds.length + 1, d.body⟩ := by
  rw [lastOf, List.getLast?_concat, List.length_append]
  rfl

/-- The number of the last of some writes is how many there are. -/
theorem getD_lastOf (ds : List Document) : ((lastOf ds).map (·.number)).getD 0 = ds.length := by
  cases ds using List.reverseRecOn with
  | nil => rfl
  | append_singleton ds d =>
    rw [lastOf_append_singleton, List.length_append]
    rfl

variable {h : List Answered} {a : Answered} {t : Tenant} {id : String}

/-- There are no writes of an id that has just been taken out. -/
theorem writes_of_removes (ha : a.removes t id = true) : writes (h ++ [a]) t id = [] := by
  rw [writes, List.rtakeWhile_concat_neg _ _ _ (by simp [ha])]
  rfl

/-- A call that does not take an id out adds what it writes under it, if anything. -/
theorem writes_of_keeps (ha : a.removes t id = false) :
    writes (h ++ [a]) t id = writes h t id ++ (a.written? t id).toList := by
  rw [writes, List.rtakeWhile_concat_pos _ _ _ (by simp [ha]), List.filterMap_append, writes,
    List.filterMap_cons]
  cases a.written? t id <;> rfl

/-- A call that does not write under an id keeps the writes of it, unless it takes it out. -/
theorem writes_of_silent (ha : a.removes t id = false) (hwritten : a.written? t id = none) :
    writes (h ++ [a]) t id = writes h t id := by
  rw [writes_of_keeps ha, hwritten]
  exact List.append_nil _

/-- A call that writes takes nothing out. -/
theorem removes_of_written {d : Document} (ha : a.written? t id = some d) :
    a.removes t id = false := by
  unfold Answered.written? at ha
  unfold Answered.removes
  cases hcall : a.call with
  | put d' => rfl
  | get _ => rfl
  | list _ => rfl
  | count => rfl
  | remove _ =>
    rw [hcall] at ha
    cases ha

/-- What is left of a list at its end, while a condition holds, are the members from which on it
does. -/
theorem mem_rtakeWhile_iff {α : Type} {p : α → Bool} {x : α} {l : List α} :
    x ∈ l.rtakeWhile p ↔
      ∃ before after, l = before ++ x :: after ∧ p x = true ∧ ∀ y ∈ after, p y = true := by
  induction l using List.reverseRecOn with
  | nil => simp
  | append_singleton l z ih =>
    constructor
    · intro hx
      by_cases hz : p z = true
      · rw [List.rtakeWhile_concat_pos _ _ _ hz, List.mem_append, List.mem_singleton] at hx
        rcases hx with hx | rfl
        · obtain ⟨before, after, rfl, hpx, hafter⟩ := ih.1 hx
          refine ⟨before, after ++ [z], by simp, hpx, fun y hy => ?_⟩
          rcases List.mem_append.1 hy with hy | hy
          · exact hafter y hy
          · rwa [List.mem_singleton.1 hy]
        · exact ⟨l, [], rfl, hz, List.forall_mem_nil _⟩
      · rw [List.rtakeWhile_concat_neg _ _ _ hz] at hx
        cases hx
    · rintro ⟨before, after, hl, hpx, hafter⟩
      cases after using List.reverseRecOn with
      | nil =>
        obtain ⟨rfl, hxz⟩ := List.append_inj' hl rfl
        cases hxz
        rw [List.rtakeWhile_concat_pos _ _ _ hpx]
        exact List.mem_append_right _ (List.mem_singleton_self _)
      | append_singleton after y =>
        rw [← List.cons_append, ← List.append_assoc] at hl
        obtain ⟨rfl, hyz⟩ := List.append_inj' hl rfl
        cases hyz
        rw [List.rtakeWhile_concat_pos _ _ _ (hafter _ (by simp))]
        exact List.mem_append_left _
          (ih.2 ⟨before, after, rfl, hpx, fun w hw => hafter w (List.mem_append_left _ hw)⟩)

/-- There are writes of an id since it was last taken out exactly if there is one that no later call
has taken out. -/
theorem isSome_lastOf_writes :
    (lastOf (writes h t id)).isSome = true ↔
      ∃ before a after d, h = before ++ a :: after ∧ a.written? t id = some d ∧
        ∀ b ∈ after, b.removes t id = false := by
  have hmem : (lastOf (writes h t id)).isSome = true ↔ ∃ d, d ∈ writes h t id := by
    rw [lastOf, Option.isSome_map, List.getLast?_isSome, Ne, List.eq_nil_iff_forall_not_mem,
      not_forall_not]
  rw [hmem]
  simp only [writes, List.mem_filterMap, mem_rtakeWhile_iff, Bool.not_eq_true']
  constructor
  · rintro ⟨d, a, ⟨before, after, hh, -, hafter⟩, ha⟩
    exact ⟨before, a, after, d, hh, ha, hafter⟩
  · rintro ⟨before, a, after, d, hh, ha, hafter⟩
    exact ⟨d, a, ⟨before, after, hh, removes_of_written ha, hafter⟩, ha⟩

/-! ## The store in step with its history -/

/-- The partitions of a store are in order, and hold what a history says of each document. -/
structure Recorded (s : Store) (h : List Answered) : Prop where
  ordered : ∀ t, Fields.Ordered (s.partition t)
  lookup : ∀ t id, (s.partition t).lookup id = lastOf (writes h t id)

/-- A new store is in step with no calls. -/
theorem recorded_empty : Recorded {} [] where
  ordered _ := .nil
  lookup _ _ := rfl

namespace Recorded

variable {s : Store}

/-- The revision of a document is the number of its writes. -/
theorem revision (hs : s.Recorded h) (t : Tenant) (id : String) :
    s.revision t id = (writes h t id).length := by
  rw [Store.revision, hs.lookup, getD_lastOf]

/-- The document that is found is the last that has been written. -/
theorem get? (hs : s.Recorded h) (t : Tenant) (id : String) :
    s.get? t id = (lastOf (writes h t id)).map (·.document id) := by
  rw [Store.get?, hs.lookup]

/-- A call that leaves the store alone, and takes nothing out and writes nothing, keeps it in
step. -/
theorem silent (hs : s.Recorded h) (hremoves : ∀ t id, a.removes t id = false)
    (hwritten : ∀ t id, a.written? t id = none) : s.Recorded (h ++ [a]) where
  ordered := hs.ordered
  lookup t id := by rw [writes_of_silent (hremoves t id) (hwritten t id), hs.lookup]

/-- Writing a document keeps the store in step. -/
theorem put (hs : s.Recorded h) (t : Tenant) (d : Document) (answer : Answer) :
    (s.put t d).2.Recorded (h ++ [⟨t, .put d, answer⟩]) where
  ordered u := by
    by_cases hu : u = t
    · rw [hu, partition_put]
      exact Fields.ordered_insert _ _ (hs.ordered t)
    · rw [Store.put, partition_set_other s hu]
      exact hs.ordered u
  lookup u id := by
    have hkeeps : Answered.removes u id ⟨t, .put d, answer⟩ = false := rfl
    have hwritten : Answered.written? u id ⟨t, .put d, answer⟩ =
        if t = u ∧ d.id = id then some d else none := rfl
    by_cases hsame : t = u ∧ d.id = id
    · rw [writes_of_keeps hkeeps, hwritten, if_pos hsame]
      obtain ⟨rfl, rfl⟩ := hsame
      rw [partition_put, Fields.lookup_insert_self, Option.toList_some, lastOf_append_singleton,
        next, hs.revision]
    · have hother : u ≠ t ∨ id ≠ d.id := by
        rw [not_and_or] at hsame
        exact hsame.imp Ne.symm Ne.symm
      rw [lookup_put_ne s t hother, writes_of_silent hkeeps (hwritten.trans (if_neg hsame)),
        hs.lookup]

/-- Taking a document out leaves no writes of it. -/
theorem erase (hs : s.Recorded h) (t : Tenant) (id : String) (d : Document) :
    Recorded ⟨s.partitions.set t (Fields.erase id (s.partition t))⟩
      (h ++ [⟨t, .remove id, .removed d⟩]) where
  ordered u := by
    by_cases hu : u = t
    · rw [hu, partition_set_same]
      exact (hs.ordered t).erase _
    · rw [partition_set_other s hu]
      exact hs.ordered u
  lookup u other := by
    have hremoves : Answered.removes u other ⟨t, .remove id, .removed d⟩ =
        (t = u && id = other : Bool) := rfl
    by_cases hu : u = t
    · subst hu
      rw [partition_set_same, Fields.lookup_erase]
      split
      · next hother =>
        subst hother
        rw [writes_of_removes (by simp [hremoves])]
        rfl
      · next hother =>
        rw [writes_of_silent (by simp [hremoves, Ne.symm hother]) rfl, hs.lookup]
    · rw [partition_set_other s hu, writes_of_silent (by simp [hremoves, Ne.symm hu]) rfl,
        hs.lookup]

/-- One call keeps the store in step with its history. -/
theorem answer (hs : s.Recorded h) (t : Tenant) (call : Call) :
    (s.answer t call).2.Recorded (h ++ [⟨t, call, (s.answer t call).1⟩]) := by
  cases call with
  | put d => exact hs.put t d _
  | get id => exact hs.silent (fun _ _ => rfl) (fun _ _ => rfl)
  | list range => exact hs.silent (fun _ _ => rfl) (fun _ _ => rfl)
  | count => exact hs.silent (fun _ _ => rfl) (fun _ _ => rfl)
  | remove id =>
    rw [Store.answer, remove?]
    cases s.get? t id with
    | none => exact hs.silent (fun _ _ => rfl) (fun _ _ => rfl)
    | some d => exact hs.erase t id d

/-- All calls do. -/
theorem after (hs : s.Recorded h) (calls : List (Tenant × Call)) :
    (s.after calls).Recorded (h ++ s.history calls) := by
  induction calls generalizing s h with
  | nil =>
    rw [history, List.append_nil]
    exact hs
  | cons call rest ih =>
    have hnext := ih (hs.answer call.1 call.2)
    rwa [List.append_assoc] at hnext

end Recorded

/-- A new store is in step with the history of all calls since. -/
theorem recorded_after (calls : List (Tenant × Call)) :
    (after {} calls).Recorded (history {} calls) :=
  recorded_empty.after calls

/-! ## Revisions -/

/-- A call raises a revision by at most one. -/
theorem revision_answer_le (s : Store) (u : Tenant) (call : Call) (t : Tenant) (id : String) :
    (s.answer u call).2.revision t id ≤ s.revision t id + 1 := by
  cases call with
  | get _ => exact Nat.le_succ _
  | list _ => exact Nat.le_succ _
  | count => exact Nat.le_succ _
  | put d =>
    by_cases hsame : t = u ∧ id = d.id
    · obtain ⟨rfl, rfl⟩ := hsame
      rw [answer, revision, partition_put, Fields.lookup_insert_self]
      exact Nat.le_refl _
    · rw [answer, revision, lookup_put_ne s u (not_and_or.1 hsame)]
      exact Nat.le_succ _
  | remove other =>
    rw [answer, remove?]
    cases s.get? u other with
    | none => exact Nat.le_succ _
    | some d =>
      dsimp only [Option.map_some]
      by_cases ht : t = u
      · subst ht
        rw [revision, partition_set_same, Fields.lookup_erase]
        split
        · exact Nat.zero_le _
        · exact Nat.le_succ _
      · rw [revision, partition_set_other s ht]
        exact Nat.le_succ _

/-- Some calls raise a revision by at most their number. -/
theorem revision_after_le (s : Store) (calls : List (Tenant × Call)) (t : Tenant) (id : String) :
    (s.after calls).revision t id ≤ s.revision t id + calls.length := by
  induction calls generalizing s with
  | nil => exact Nat.le_refl _
  | cons call rest ih =>
    obtain ⟨u, call⟩ := call
    have hfirst := s.revision_answer_le u call t id
    have hrest := ih (s.answer u call).2
    rw [List.length_cons]
    exact Nat.le_trans hrest (by omega)

/-- Until a new store has been called `2 ^ 64` times, every revision is a word of 64 bits. -/
theorem revision_after_lt {calls : List (Tenant × Call)} (h : calls.length < Nat.pow 2 64)
    (t : Tenant) (id : String) : (after {} calls).revision t id < Nat.pow 2 64 := by
  have hle := revision_after_le {} calls t id
  have hnew : revision {} t id = 0 := rfl
  omega

/-! ## Listing documents -/

/-- There are as many documents as a range without ends has. -/
theorem length_within_all (s : Store) (t : Tenant) : (s.within t {}).length = s.count t := by
  have hall : ((s.partition t).filter fun field => IdRange.includes {} field.1) = s.partition t :=
    List.filter_eq_self.2 fun _ _ => rfl
  rw [within, List.length_map, hall, count]

variable {s : Store}

/-- The ids of a list of documents ascend strictly. -/
def Ascending (ds : List Document) : Prop :=
  ds.Pairwise fun d e => Text.before d.id e.id = true

/-- The documents of a range are listed by ascending id. -/
theorem ascending_within (hs : Fields.Ordered (s.partition t)) (range : IdRange) :
    Ascending (s.within t range) :=
  List.pairwise_map.2 (hs.filter _)

/-- A document is in a range if it is found under its id and the range includes that. -/
theorem mem_within_iff (hs : Fields.Ordered (s.partition t)) {range : IdRange} {d : Document} :
    d ∈ s.within t range ↔ s.get? t d.id = some d ∧ range.includes d.id = true := by
  rw [within, List.mem_map, get?]
  constructor
  · rintro ⟨field, hfield, rfl⟩
    obtain ⟨hmem, hincludes⟩ := List.mem_filter.1 hfield
    rw [Revision.document, Fields.lookup_of_mem hs.nodup hmem]
    exact ⟨rfl, hincludes⟩
  · rintro ⟨hfound, hincludes⟩
    obtain ⟨r, hr, hd⟩ := Option.map_eq_some_iff.1 hfound
    exact ⟨(d.id, r), List.mem_filter.2 ⟨Fields.mem_of_lookup hr, hincludes⟩, hd⟩

/-- An id is in a range if it is between the ends that the range has. -/
theorem includes_iff {range : IdRange} :
    range.includes id = true ↔
      (∀ first, range.first = some first → Text.atMost first id = true) ∧
        ∀ last, range.last = some last → Text.atMost id last = true := by
  rw [IdRange.includes, Bool.and_eq_true, Option.all_eq_true, Option.all_eq_true]

/-! ## What a tenant observes -/

/-- The answer to a tenant depends on its own partition only, and so does its partition after. -/
theorem answer_congr {s' : Store} (hsame : s.partition t = s'.partition t) (call : Call) :
    (s.answer t call).1 = (s'.answer t call).1 ∧
      (s.answer t call).2.partition t = (s'.answer t call).2.partition t := by
  have hget (id : String) : s.get? t id = s'.get? t id := by rw [get?, hsame, get?]
  cases call with
  | put d =>
    have hnext : s.next t d = s'.next t d := by rw [next, revision, hsame, next, revision]
    refine ⟨congrArg (fun r : Revision => Answer.written (r.document d.id)) hnext, ?_⟩
    rw [answer, answer, partition_put, partition_put, hsame, hnext]
  | get id => exact ⟨congrArg Answer.found (hget id), hsame⟩
  | remove id =>
    rw [answer, answer, remove?, remove?, hget]
    cases s'.get? t id with
    | none => exact ⟨rfl, hsame⟩
    | some d =>
      refine ⟨rfl, ?_⟩
      dsimp only [Option.map_some]
      rw [partition_set_same, partition_set_same, hsame]
  | list range =>
    refine ⟨?_, hsame⟩
    rw [answer, answer, documents_eq, documents_eq, within, hsame, within]
  | count => exact ⟨by rw [answer, answer, count, hsame, count], hsame⟩

/-- A call of another tenant keeps the partition. -/
theorem partition_answer_of_ne {u : Tenant} (hne : u ≠ t) (call : Call) :
    (s.answer u call).2.partition t = s.partition t := by
  cases call with
  | put d => exact partition_set_other s hne.symm _
  | get id => rfl
  | list range => rfl
  | count => rfl
  | remove id =>
    rw [answer, remove?]
    cases s.get? u id with
    | none => rfl
    | some d => exact partition_set_other s hne.symm _

/-- A call to take a document out that is not there leaves the store as it is. -/
theorem answer_of_notFound {u : Tenant} {call : Call}
    (hanswer : (s.answer u call).1 = .notFound id) : (s.answer u call).2 = s := by
  cases call with
  | put d => cases hanswer
  | get _ => rfl
  | list range => rfl
  | count => rfl
  | remove id' =>
    rw [answer] at hanswer ⊢
    cases hremove : s.remove? u id' with
    | none => rfl
    | some removed =>
      rw [hremove] at hanswer
      cases hanswer

/-- What a tenant is answered depends on its own partition only. -/
theorem answersTo_history {s' : Store} (hsame : s.partition t = s'.partition t)
    (calls : List (Tenant × Call)) :
    answersTo t (s.history calls) = answersTo t (s'.history calls) := by
  induction calls generalizing s s' with
  | nil => rfl
  | cons call rest ih =>
    obtain ⟨u, call⟩ := call
    rw [history, history, answersTo, answersTo]
    by_cases hu : u = t
    · subst hu
      obtain ⟨hanswer, hnext⟩ := answer_congr hsame call
      rw [List.filter_cons_of_pos (by simp), List.filter_cons_of_pos (by simp), hanswer]
      exact congrArg _ (ih hnext)
    · rw [List.filter_cons_of_neg (by simpa using hu), List.filter_cons_of_neg (by simpa using hu)]
      refine ih ?_
      rw [partition_answer_of_ne hu, partition_answer_of_ne hu, hsame]

/-- What a tenant observes of a store agrees with a history. A document is found if it was written
and no later call has taken it out; then its body is the last that was written, and its revision the
number of writes since it was last taken out. Documents are listed by ascending ids, all that are
found in the range up to the limit. -/
structure Observed (s : Store) (h : List Answered) (t : Tenant) : Prop where
  found : ∀ id, s.get? t id =
    (writes h t id).getLast?.map fun d => ⟨id, (writes h t id).length, d.body⟩
  present : ∀ id, (s.get? t id).isSome = true ↔
    ∃ before a after d, h = before ++ a :: after ∧ a.written? t id = some d ∧
      ∀ b ∈ after, b.removes t id = false
  written : ∀ d, (s.answer t (.put d)).1 = .written ⟨d.id, (writes h t d.id).length + 1, d.body⟩
  removed : ∀ id, (s.answer t (.remove id)).1 = (s.get? t id).elim (.notFound id) .removed
  listed : ∀ range : IdRange, ∃ all, Ascending all ∧
    s.documents t range = range.limit.elim all all.take ∧
    ∀ d, d ∈ all ↔ s.get? t d.id = some d ∧
      (∀ first, range.first = some first → Text.atMost first d.id = true) ∧
        ∀ last, range.last = some last → Text.atMost d.id last = true
  counted : s.count t = (s.documents t {}).length

/-- A store in step with a history is observed as the history says. -/
theorem Recorded.observed (hs : s.Recorded h) (t : Tenant) : s.Observed h t where
  found id := by
    rw [hs.get?, lastOf, Option.map_map]
    rfl
  present id := by rw [hs.get?, Option.isSome_map, isSome_lastOf_writes]
  written d := by
    rw [Store.answer, Store.put, hs.revision]
    rfl
  removed id := by
    rw [Store.answer, remove?]
    cases s.get? t id <;> rfl
  listed range := by
    refine ⟨s.within t range, ascending_within (hs.ordered t) range, documents_eq .., fun d => ?_⟩
    rw [mem_within_iff (hs.ordered t), includes_iff]
  counted := by
    rw [documents_eq]
    exact (length_within_all s t).symm

/-- After all calls of all tenants to a new store, each tenant observes what its own writes and
removals say. A call of another tenant, or one to take out a document that is not there, changes no
answer to the tenant from then on. -/
theorem observed_after (calls : List (Tenant × Call)) (t : Tenant) :
    (after {} calls).Observed (history {} calls) t ∧
      ∀ (u : Tenant) (call : Call) (later : List (Tenant × Call)),
        (u ≠ t ∨ ∃ id, ((after {} calls).answer u call).1 = .notFound id) →
          answersTo t (((after {} calls).answer u call).2.history later) =
            answersTo t ((after {} calls).history later) := by
  refine ⟨(recorded_after calls).observed t, fun u call later hcall => ?_⟩
  rcases hcall with hne | ⟨id, hnotFound⟩
  · exact answersTo_history (partition_answer_of_ne hne call) later
  · rw [answer_of_notFound hnotFound]

/-- A document is written, taken out and written twice more, with revisions that its tenant makes
up; another tenant then takes out its own document with the same id. -/
theorem observed_after_rewritten :
    let ours : Tenant := ⟨"ours"⟩
    let theirs : Tenant := ⟨"theirs"⟩
    let calls : List (Tenant × Call) :=
      [(ours, .put ⟨"x", 7, .null⟩), (theirs, .put ⟨"x", 3, .null⟩), (ours, .remove "x"),
        (ours, .put ⟨"x", 9, .bool false⟩), (ours, .remove "y"), (ours, .put ⟨"x", 0, .bool true⟩)]
    (after {} calls).get? ours "x" = some ⟨"x", 2, .bool true⟩ ∧
      answersTo ours (((after {} calls).answer theirs (.remove "x")).2.history [(ours, .get "x")]) =
        answersTo ours ((after {} calls).history [(ours, .get "x")]) :=
  ⟨((observed_after _ ⟨"ours"⟩).1.found "x").trans rfl,
    (observed_after _ ⟨"ours"⟩).2 ⟨"theirs"⟩ (.remove "x") [(⟨"ours"⟩, .get "x")]
      (.inl (by decide))⟩

end Automation.Store
