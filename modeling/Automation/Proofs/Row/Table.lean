import Automation.Proofs.Execution.Inputs
import Automation.Proofs.Execution.Requests
import Automation.Proofs.Row.History
import Automation.Proofs.Row.Id
import Automation.Proofs.Step.Task
import Automation.Proofs.Store

/-!
# Tables

The documents of a tenant whose steps are all that writes them are the rows that the changes leave
which these steps have reported (`Services.Mirrors`). One execution keeps that, whatever it does
(`Services.Mirrors.once`), and so does everything that leaves the tenant's documents alone; so it is
so after any history (`Execution.Played.mirrors`). A query then lists the rows of its table that
have the values of its filters, in the order of their ids (`Execution.played_query`).
-/

namespace Automation

open Row

/-- What the store has under an id is the row with that id, if there is one. The row has a suffix
that has been given out. -/
inductive Row.Kept (suffix : Nat → String) (count : Nat) (id : String) :
    Option Revision → Option Entry → Prop
  | gone : Kept suffix count id none none
  | here {r : Revision} {e : Entry} {n : Nat} (name : id = idOf e.table (suffix n))
      (given : n ≤ count) (row : e.In r) : Kept suffix count id (some r) (some e)

/-- A suffix that has been given out stays given out. -/
theorem Row.Kept.mono {suffix : Nat → String} {count later : Nat} {id : String}
    {r : Option Revision} {e : Option Entry} (h : Kept suffix count id r e)
    (hle : count ≤ later) : Kept suffix later id r e := by
  cases h with
  | gone => exact .gone
  | here name given row => exact .here name (Nat.le_trans given hle) row

namespace Services

/-- The documents of a tenant are the rows that some changes leave. -/
structure Mirrors (tenant : Tenant) (s : Services) (changes : List Change) : Prop where
  ordered : Fields.Ordered (s.store.partition tenant)
  rows : ∀ id, Kept s.rowSuffix s.rowsCreated id ((s.store.partition tenant).lookup id)
    (current? changes id)

namespace Mirrors

variable {tenant : Tenant} {s later : Services} {changes : List Change}

/-- A tenant without documents has no rows. -/
theorem empty (h : s.store.partition tenant = []) : Mirrors tenant s [] :=
  ⟨by rw [h]; exact .nil, fun _ => by rw [h]; exact .gone⟩

/-- What leaves the documents of the tenant alone changes no rows. -/
theorem of_same (h : Mirrors tenant s changes)
    (hdocuments : later.store.partition tenant = s.store.partition tenant)
    (hsuffix : later.rowSuffix = s.rowSuffix) (hrows : s.rowsCreated ≤ later.rowsCreated) :
    Mirrors tenant later changes := by
  refine ⟨by rw [hdocuments]; exact h.ordered, fun id => ?_⟩
  rw [hdocuments, hsuffix]
  exact (h.rows id).mono hrows

/-- There is no document under the id that the next row will have, if its suffix is fresh. -/
theorem lookup_next (h : Mirrors tenant s changes)
    (hfresh : FreshSuffixes s.rowSuffix (s.rowsCreated + 1)) (table : String) :
    (s.store.partition tenant).lookup (idOf table (s.rowSuffix (s.rowsCreated + 1))) = none := by
  generalize hid : idOf table (s.rowSuffix (s.rowsCreated + 1)) = id
  have hkept := h.rows id
  generalize (s.store.partition tenant).lookup id = found at hkept ⊢
  generalize current? changes id = e at hkept
  cases hkept with
  | gone => rfl
  | @here r e n name given row =>
    have hlater := Nat.le_succ_of_le given
    have hsuffix := suffix_eq (hfresh.isSuffix _ (Nat.le_refl _)) (hfresh.isSuffix n hlater)
      (hid.trans name)
    have hnumber := hfresh.distinct _ (Nat.le_refl _) n hlater hsuffix
    omega

/-- A new document with the next suffix is a new row. -/
theorem created (h : Mirrors tenant s changes) {table : String} {fields : RowFields}
    (hfields : Fields.Ordered fields)
    (hdocuments : later.store.partition tenant =
      Fields.insert (idOf table (s.rowSuffix (s.rowsCreated + 1)))
        ⟨1, .object (Row.created table fields)⟩ (s.store.partition tenant))
    (hsuffix : later.rowSuffix = s.rowSuffix) (hrows : later.rowsCreated = s.rowsCreated + 1) :
    Mirrors tenant later
      (changes ++ [.created (idOf table (s.rowSuffix (s.rowsCreated + 1))) table fields]) := by
  refine ⟨by rw [hdocuments]; exact Fields.ordered_insert _ _ h.ordered, fun id => ?_⟩
  rw [current?_append, hdocuments, hsuffix, hrows, Change.apply]
  by_cases hid : id = idOf table (s.rowSuffix (s.rowsCreated + 1))
  · rw [hid, Fields.lookup_insert_self, if_pos rfl]
    exact .here rfl (Nat.le_refl _) (Entry.in_created table hfields)
  · rw [Fields.lookup_insert_ne hid, if_neg (Ne.symm hid)]
    exact (h.rows id).mono (Nat.le_succ _)

/-- The next revision of a row with a patch is the row patched. -/
theorem updated (h : Mirrors tenant s changes) {id : String} {r : Revision} {patch : RowFields}
    (hpatch : Fields.Ordered patch) (hfound : (s.store.partition tenant).lookup id = some r)
    (hdocuments : later.store.partition tenant =
      Fields.insert id ⟨r.number + 1, .object (patched (fieldsOf r.body) patch)⟩
        (s.store.partition tenant))
    (hsuffix : later.rowSuffix = s.rowSuffix) (hrows : later.rowsCreated = s.rowsCreated) :
    Mirrors tenant later (changes ++ [.updated id patch]) := by
  refine ⟨by rw [hdocuments]; exact Fields.ordered_insert _ _ h.ordered, fun other => ?_⟩
  rw [current?_append, hdocuments, hsuffix, hrows, Change.apply]
  by_cases hid : other = id
  · have hkept := h.rows id
    rw [hfound] at hkept
    rw [hid, Fields.lookup_insert_self, if_pos rfl]
    generalize current? changes id = e at hkept ⊢
    cases hkept with | here name given row => exact .here name given (row.patched hpatch)
  · rw [Fields.lookup_insert_ne hid, if_neg (Ne.symm hid)]
    exact h.rows other

/-- Taking a document out removes the row. -/
theorem deleted (h : Mirrors tenant s changes) {id : String}
    (hdocuments : later.store.partition tenant = Fields.erase id (s.store.partition tenant))
    (hsuffix : later.rowSuffix = s.rowSuffix) (hrows : later.rowsCreated = s.rowsCreated) :
    Mirrors tenant later (changes ++ [.deleted id]) := by
  refine ⟨by rw [hdocuments]; exact h.ordered.erase id, fun other => ?_⟩
  rw [current?_append, hdocuments, hsuffix, hrows, Change.apply, Fields.lookup_erase]
  by_cases hid : other = id
  · rw [if_pos hid, if_pos hid.symm]
    exact .gone
  · rw [if_neg hid, if_neg (Ne.symm hid)]
    exact h.rows other

end Mirrors

end Services

/-! ## One execution -/

namespace Task

/-- What a task has done to the rows if this is its result. -/
def change? (task : Task) (result : Except StepFault Json) : Option Change :=
  match task, result with
  | .createRow table fields, .ok outputs =>
    ((outputs.field? "id").bind Json.asString?).map fun id => .created id table fields
  | .updateRow id patch, .ok _ => some (.updated id patch)
  | .deleteRow id, .ok _ => some (.deleted id)
  | _, _ => none

/-- A task that fails changes no row. -/
theorem change?_error (task : Task) (fault : StepFault) : task.change? (.error fault) = none := by
  cases task <;> rfl

variable {x : Setting} {s : Services} {changes : List Change} {task : Task}

/-- What a task leaves mirrors the changes so far and the one that it reports. -/
def Keeps (x : Setting) (changes : List Change) (task : Task) (done : Performed) : Prop :=
  done.2.Mirrors x.tenant (changes ++ (task.change? (done.1.map Outputs.normalize)).toList)

/-- A task that fails changes no rows if it leaves the documents alone. -/
theorem keeps_error {fault : StepFault} (h : s.Mirrors x.tenant changes) :
    Keeps x changes task (.error fault, s) := by
  rw [Keeps, Except.map, change?_error, Option.toList, List.append_nil]
  exact h

/-- A new row takes a suffix, also if it cannot be written. -/
theorem rowsCreated_performCreate (table : String) (fields : RowFields) :
    (performCreate x table fields s).2.rowsCreated = s.rowsCreated + 1 := by
  let d : Document :=
    { id := idOf table s.freshRowSuffix.1, body := .object (Row.created table fields) }
  change (rowResult (s.freshRowSuffix.2.putDocument x.tenant d)).2.rowsCreated = _
  rcases s.freshRowSuffix.2.putDocument_cases x.tenant d with ⟨fault, hput⟩ | hput
  · rw [hput]
    rfl
  · rw [hput]
    rfl

/-- A task that creates a row reports it, if the suffix of the row is fresh. -/
theorem keeps_create {table : String} {fields : RowFields} (h : s.Mirrors x.tenant changes)
    (hfields : Fields.Ordered fields)
    (hfresh : FreshSuffixes s.rowSuffix (performCreate x table fields s).2.rowsCreated) :
    Keeps x changes (.createRow table fields) (performCreate x table fields s) := by
  rw [rowsCreated_performCreate] at hfresh
  let counted : Services := s.freshRowSuffix.2
  let d : Document :=
    { id := idOf table (s.rowSuffix (s.rowsCreated + 1)),
      body := .object (Row.created table fields) }
  have hcounted : counted.Mirrors x.tenant changes := h.of_same rfl rfl (Nat.le_succ _)
  change Keeps x changes _ (rowResult (counted.putDocument x.tenant d))
  rcases counted.putDocument_cases x.tenant d with ⟨fault, hput⟩ | hput
  · rw [hput]
    exact keeps_error hcounted
  · rw [hput]
    have hrevision : counted.store.revision x.tenant d.id = 0 :=
      Store.revision_of_absent _ _ (h.lookup_next hfresh table)
    have hdocuments := counted.store.partition_put x.tenant d
    rw [Store.next, hrevision] at hdocuments
    exact h.created hfields hdocuments rfl rfl

/-- A task that changes a row reports it. -/
theorem keeps_update {id : String} {patch : RowFields} (h : s.Mirrors x.tenant changes)
    (hpatch : Fields.Ordered patch) :
    Keeps x changes (.updateRow id patch) (performUpdate x id patch s) := by
  unfold performUpdate
  split
  · exact keeps_error h
  · split
    · exact keeps_error h
    · exact keeps_error h
    · next d hget =>
      have hfound : s.store.get? x.tenant id = some d := by
        unfold Services.getDocument Services.ifStored at hget
        split at hget
        · cases hget
        · exact Except.ok.inj hget
      obtain ⟨r, hr, rfl⟩ := Option.map_eq_some_iff.1 hfound
      rcases s.putDocument_cases x.tenant (patchedDocument (r.document id) patch) with
        ⟨fault, hput⟩ | hput
      · rw [hput]
        exact keeps_error h
      · rw [hput]
        have hrevision : s.store.revision x.tenant (patchedDocument (r.document id) patch).id =
            r.number := Store.revision_of_found _ _ hr
        have hdocuments := s.store.partition_put x.tenant (patchedDocument (r.document id) patch)
        rw [Store.next, hrevision] at hdocuments
        exact h.updated hpatch hr hdocuments rfl rfl

/-- A task that removes a row reports it. -/
theorem keeps_delete {id : String} (h : s.Mirrors x.tenant changes) :
    Keeps x changes (.deleteRow id) (performDelete x id s) := by
  unfold performDelete
  split
  · exact keeps_error h
  · rcases s.removeDocument_cases x.tenant id with ⟨fault, hremoved⟩ | ⟨d, hremoved⟩
    · rw [hremoved]
      exact keeps_error h
    · rw [hremoved]
      exact h.deleted (PerTenant.get_set_same _ _ _) rfl rfl

/-- A task that changes no rows and reports no change. -/
theorem keeps_of_sameRows {done : Performed} (h : s.Mirrors x.tenant changes)
    (htask : ∀ result, task.change? result = none) (hsame : s.SameRows done.2) :
    Keeps x changes task done := by
  rw [Keeps, htask, Option.toList, List.append_nil]
  exact h.of_same (by rw [hsame.store]) hsame.rowSuffix (Nat.le_of_eq hsame.rowsCreated.symm)

/-- What a task leaves mirrors the changes so far and the one that it reports. -/
theorem keeps_perform (h : s.Mirrors x.tenant changes) (hsorted : task.Sorted)
    (hfresh : FreshSuffixes s.rowSuffix (task.perform x s).2.rowsCreated) :
    Keeps x changes task (task.perform x s) := by
  cases task with
  | createRow table fields => exact keeps_create h hsorted hfresh
  | updateRow id patch => exact keeps_update h hsorted
  | deleteRow id => exact keeps_delete h
  | _ => exact keeps_of_sameRows h (fun _ => rfl) (perform_quiet x rfl s).sameRows

end Task

namespace Execution

variable (c : Config) (tenant : Tenant) (step : Step) (context : Context) (s : Services)

/-- What an execution of a step has done to the rows, by its inputs and what it reports. -/
def change? : Option Change :=
  match taskOf step.kind (inputsOf c step context) with
  | .ok task => task.change? (once c tenant step context s).1
  | .error _ => none

/-- The values in a task are sorted, as those of the inputs are. -/
theorem sorted_of_taskOf {kind : StepKind} {inputs : Resolver.ResolvedInputs} {task : Task}
    (hordered : Fields.Ordered inputs.values) (h : taskOf kind inputs = .ok task) :
    task.Sorted := by
  unfold taskOf at h
  split at h
  · cases h
  · exact ((Task.ofInputs_eq_ok_iff hordered).1 h).sorted

/-- What one execution leaves mirrors the changes so far and the one that it reports, if the
suffixes given out until then are fresh. -/
theorem mirrors_once {changes : List Change} (h : s.Mirrors tenant changes)
    (hfresh : FreshSuffixes s.rowSuffix (once c tenant step context s).2.rowsCreated) :
    (once c tenant step context s).2.Mirrors tenant
      (changes ++ (change? c tenant step context s).toList) := by
  have hresolved : (resolvedAt c step context s).Mirrors tenant changes :=
    h.of_same rfl rfl (Nat.le_refl _)
  rw [once_eq, prepared] at hfresh
  rw [change?, once_eq, prepared]
  cases hover : (settingOf c tenant context s).overdue? (resolvedAt c step context s) with
  | some late =>
    cases taskOf step.kind (inputsOf c step context) with
    | error fault =>
      rw [Option.toList, List.append_nil]
      exact hresolved
    | ok task =>
      dsimp only
      rw [Task.change?_error, Option.toList, List.append_nil]
      exact hresolved
  | none =>
    rw [hover] at hfresh
    cases htask : taskOf step.kind (inputsOf c step context) with
    | error fault =>
      rw [Option.toList, List.append_nil]
      exact hresolved
    | ok task =>
      rw [htask] at hfresh
      have hsorted := sorted_of_taskOf Resolver.ordered_resolveInputs htask
      exact Task.keeps_perform (x := settingOf c tenant context s) hresolved hsorted hfresh

/-! ## Histories -/

/-- A tenant's steps have been executed, from a first state of the services to a later one, and have
reported some changes of rows. In between anything may have happened that left the tenant's
documents and the source of suffixes alone, and took none of its suffixes back. -/
inductive Played (tenant : Tenant) (first : Services) : List Change → Services → Prop
  | start : Played tenant first [] first
  | execution {changes : List Change} {s : Services} (h : Played tenant first changes s)
      (c : Config) (step : Step) (context : Context) :
      Played tenant first (changes ++ (change? c tenant step context s).toList)
        (once c tenant step context s).2
  | meanwhile {changes : List Change} {s later : Services} (h : Played tenant first changes s)
      (documents : later.store.partition tenant = s.store.partition tenant)
      (suffixes : later.rowSuffix = s.rowSuffix) (rows : s.rowsCreated ≤ later.rowsCreated) :
      Played tenant first changes later

variable {tenant s}

/-- The changes of rows that steps report which are executed one after the other. -/
def changesOf (c : Config) (tenant : Tenant) (context : Context) :
    List Step → Services → List Change
  | [], _ => []
  | step :: rest, s =>
    (change? c tenant step context s).toList ++
      changesOf c tenant context rest (once c tenant step context s).2

/-- Steps that are executed one after the other are a history. -/
theorem Played.executions {first : Services} {changes : List Change}
    (h : Played tenant first changes s) (c : Config) (context : Context) (steps : List Step) :
    Played tenant first (changes ++ changesOf c tenant context steps s)
      (steps.foldl (fun s step => (once c tenant step context s).2) s) := by
  induction steps generalizing changes s with
  | nil =>
    rw [changesOf, List.append_nil]
    exact h
  | cons step rest ih =>
    rw [changesOf, ← List.append_assoc, List.foldl_cons]
    exact ih (h.execution c step context)

/-- After any history of a tenant that had no documents, its documents are the rows that the changes
leave, if the suffixes given out until then are fresh. -/
theorem Played.mirrors {first : Services} {changes : List Change}
    (h : Played tenant first changes s) (hfirst : first.store.partition tenant = [])
    (hfresh : FreshSuffixes s.rowSuffix s.rowsCreated) : s.Mirrors tenant changes := by
  induction h with
  | start => exact .empty hfirst
  | @execution changes s _ c step context ih =>
    obtain ⟨hsuffix, hrows⟩ := (once_requests c tenant step context s).suffixes
    rw [hsuffix] at hfresh
    exact mirrors_once c tenant step context s (ih (hfresh.mono hrows)) hfresh
  | meanwhile _ hdocuments hsuffix hrows ih =>
    rw [hsuffix] at hfresh
    exact (ih (hfresh.mono hrows)).of_same hdocuments hsuffix hrows

end Execution

/-! ## Queries -/

/-- The first of some rows, or all of them. -/
def Row.upTo {α : Type} (limit : Option Nat) (rows : List α) : List α :=
  match limit with
  | some n => rows.take n
  | none => rows

namespace Services

/-- The documents among which a query of a table looks, with what the table shows of them. -/
def shownRows (s : Services) (tenant : Tenant) (table : String) (filters : RowFields) :
    List (String × RowFields) :=
  ((s.store.documents tenant (.startingWith (tableStart table))).filter
    (isMatch table filters)).map fun d => (d.id, fieldsOf (shown d))

variable {tenant : Tenant} {s : Services} {changes : List Change}

/-- A query selects the rows that are shown of the documents in the range of its table. -/
theorem select_documents (tenant : Tenant) (table : String) (filters : RowFields)
    (limit : Option Nat) :
    select table filters limit (s.store.documents tenant (.startingWith (tableStart table))) =
      (upTo limit (s.shownRows tenant table filters)).map fun row => .object row.2 := by
  unfold select shownRows upTo
  cases limit with
  | none =>
    rw [List.map_map]
    rfl
  | some n =>
    dsimp only
    rw [← List.map_take, List.map_map]
    rfl

/-- The rows that are shown are ordered by id. -/
theorem ordered_shownRows (h : s.Mirrors tenant changes) (table : String) (filters : RowFields) :
    Fields.Ordered (s.shownRows tenant table filters) := by
  rw [Fields.Ordered, shownRows, List.pairwise_map]
  refine List.Pairwise.filter _ (List.pairwise_map.2 ?_)
  exact h.ordered.filter _

/-- A row is shown if its document is in the range of the table and matches. -/
theorem mem_shownRows (hordered : Fields.Ordered (s.store.partition tenant)) {table : String}
    {filters : RowFields} {id : String} {fields : RowFields} :
    (id, fields) ∈ s.shownRows tenant table filters ↔
      ∃ r, (s.store.partition tenant).lookup id = some r ∧
        (IdRange.startingWith (tableStart table)).includes id = true ∧
        isMatch table filters (r.document id) = true ∧
        fieldsOf (shown (r.document id)) = fields := by
  unfold shownRows Store.documents
  simp only [IdRange.startingWith, List.mem_map, List.mem_filter]
  constructor
  · rintro ⟨d, ⟨⟨⟨found, r⟩, ⟨hmem, hrange⟩, rfl⟩, hmatch⟩, heq⟩
    obtain ⟨rfl, hfields⟩ := Prod.mk.inj heq
    exact ⟨r, Fields.lookup_of_mem hordered.nodup hmem, hrange, hmatch, hfields⟩
  · rintro ⟨r, hr, hrange, hmatch, rfl⟩
    exact ⟨r.document id, ⟨⟨(id, r), ⟨Fields.mem_of_lookup hr, hrange⟩, rfl⟩, hmatch⟩, rfl⟩

/-- The rows that are shown are those of the table that have the values of the filters. -/
theorem mem_shownRows_iff (h : s.Mirrors tenant changes)
    (hfresh : FreshSuffixes s.rowSuffix s.rowsCreated) {table : String} {filters : RowFields}
    {id : String} {fields : RowFields} :
    (id, fields) ∈ s.shownRows tenant table filters ↔
      ∃ e, current? changes id = some e ∧ e.table = table ∧ e.Matches filters ∧
        e.ShownAs id fields := by
  rw [mem_shownRows h.ordered]
  have hkept := h.rows id
  constructor
  · rintro ⟨r, hr, -, hmatch, rfl⟩
    rw [hr] at hkept
    generalize current? changes id = found at hkept ⊢
    cases hkept with
    | here name given row =>
      obtain ⟨fields, hshown, hfields⟩ := row.shown
      obtain ⟨htable, hfilters⟩ := row.isMatch_iff.1 hmatch
      rw [hshown]
      exact ⟨_, rfl, htable, hfilters, hfields⟩
  · rintro ⟨e, he, rfl, hfilters, hfields⟩
    rw [he] at hkept
    generalize (s.store.partition tenant).lookup id = found at hkept ⊢
    cases hkept with
    | here name given row =>
      obtain ⟨fields', hshown, hfields'⟩ := row.shown
      refine ⟨_, rfl, ?_, row.isMatch_iff.2 ⟨rfl, hfilters⟩, ?_⟩
      · rw [name]
        exact includes_id _ (hfresh.isSuffix _ given)
      · rw [hshown]
        exact hfields'.unique hfields

end Services

namespace Execution

variable {c : Config} {tenant : Tenant} {step : Step} {context : Context} {first s : Services}

/-- Suppose that a tenant had no documents and has played some history since, in which the suffixes
of rows were fresh, in whatever order. A query of a table then lists rows in the order of their ids,
the first ones up to its limit: the rows that have been created in the table and not been deleted
since, and whose fields, those of their creation with the patches since put over them, have the
values of its filters; each is shown with its fields, its id and a revision that counts the
updates. -/
theorem played_query {changes : List Change} (h : Played tenant first changes s)
    (hfirst : first.store.partition tenant = [])
    (hfresh : FreshSuffixes s.rowSuffix s.rowsCreated) {table : String} {filters : RowFields}
    {limit : Option Nat}
    (htask : prepared c tenant step context s = .ok (.queryRows table filters limit))
    (hserved : s.storeOutages.lookup .list = none) :
    ∃ rows : List (String × RowFields), Fields.Ordered rows ∧
      (∀ id fields, (id, fields) ∈ rows ↔
        ∃ e, current? changes id = some e ∧ e.table = table ∧ e.Matches filters ∧
          e.ShownAs id fields) ∧
      once c tenant step context s =
        (.ok (.object
          [("rows", .array ((upTo limit rows).map fun row => .object row.2)),
            ("success", .bool true)]),
          resolvedAt c step context s) := by
  have hmirrors := h.mirrors hfirst hfresh
  refine ⟨s.shownRows tenant table filters, Services.ordered_shownRows hmirrors table filters,
    fun id fields => Services.mem_shownRows_iff hmirrors hfresh, ?_⟩
  have hlist : (resolvedAt c step context s).listDocuments (settingOf c tenant context s).tenant
      (.startingWith (tableStart table)) =
        .ok (s.store.documents tenant (.startingWith (tableStart table))) :=
    (resolvedAt c step context s).listDocuments_of_served tenant _ hserved
  rw [once_eq, htask, ← Services.select_documents]
  dsimp only
  rw [Task.perform, Task.performQuery, hlist]
  rfl

/-- A query after four rows have been created, two of them in tables of which the ids of one begin
like those of the other, with suffixes that descend. One row has been updated since and another one
has been deleted. -/
theorem played_query_two :
    let c : Config := {}
    let tenant : Tenant := ⟨"t"⟩
    let context : Context := { tenant, trigger := .object [] }
    let suffix (n : Nat) : String :=
      String.ofList (List.replicate 31 '0' ++ [Char.ofNat (102 - n)])
    let create (table : String) (n : Int) : Step :=
      { id := "c", kind := .createRow,
        inputs := ⟨[("table_id", .string table), ("row", .object [("n", .int n)])], by simp⟩ }
    let update : Step :=
      { id := "u", kind := .updateRow,
        inputs := ⟨[("row_id", .string (idOf "a" (suffix 3))),
          ("row", .object [("n", .int 1)])], by simp⟩ }
    let delete : Step :=
      { id := "d", kind := .deleteRow,
        inputs := ⟨[("row_id", .string (idOf "a" (suffix 1)))], by simp⟩ }
    let query : Step :=
      { id := "q", kind := .queryRows,
        inputs := ⟨[("table_id", .string "a"), ("filters", .object [("n", .int 1)])], by decide⟩ }
    let first : Services := { clock := default, rowSuffix := suffix }
    let steps := [create "a" 1, create "a_b" 1, create "a" 2, create "a" 1, update, delete]
    let s := steps.foldl (fun s step => (once c tenant step context s).2) first
    let changes : List Change :=
      [.created (idOf "a" (suffix 1)) "a" [("n", .int 1)],
        .created (idOf "a_b" (suffix 2)) "a_b" [("n", .int 1)],
        .created (idOf "a" (suffix 3)) "a" [("n", .int 2)],
        .created (idOf "a" (suffix 4)) "a" [("n", .int 1)],
        .updated (idOf "a" (suffix 3)) [("n", .int 1)], .deleted (idOf "a" (suffix 1))]
    let row (id : String) (revision : Int) : RowFields :=
      [("_id", .string id), ("_rev", .int revision), ("n", .int 1), ("table_id", .string "a")]
    Played tenant first changes s ∧ first.store.partition tenant = [] ∧
      FreshSuffixes s.rowSuffix s.rowsCreated ∧
      prepared c tenant query context s = .ok (.queryRows "a" [("n", .int 1)] none) ∧
      s.storeOutages.lookup .list = none ∧
      ∃ rows : List (String × RowFields), Fields.Ordered rows ∧
        (∀ id fields, (id, fields) ∈ rows ↔
          ∃ e, current? changes id = some e ∧ e.table = "a" ∧ e.Matches [("n", .int 1)] ∧
            e.ShownAs id fields) ∧
        rows.map (fun row => Json.object row.2) =
          [.object (row (idOf "a" (suffix 4)) 1), .object (row (idOf "a" (suffix 3)) 2)] ∧
        once c tenant query context s =
          (.ok (.object
            [("rows", .array (rows.map fun row => .object row.2)), ("success", .bool true)]),
            resolvedAt c query context s) := by
  intro c tenant context suffix create update delete query first steps s changes row
  have hchanges : changesOf c tenant context steps first = changes := by
    decide +kernel
  have hplayed : Played tenant first ([] ++ changesOf c tenant context steps first) s :=
    Played.start.executions c context steps
  rw [List.nil_append, hchanges] at hplayed
  have hstate : FreshSuffixes s.rowSuffix s.rowsCreated ∧
      (settingOf c tenant context s).overdue? (resolvedAt c query context s) = none ∧
      s.storeOutages.lookup .list = none ∧
      (once c tenant query context s).1.toOption = some (.object [("rows", .array
        [.object (row (idOf "a" (suffix 4)) 1), .object (row (idOf "a" (suffix 3)) 2)]),
        ("success", .bool true)]) := by
    decide +kernel
  obtain ⟨hfresh, hlate, hserved, hlist⟩ := hstate
  have htask : prepared c tenant query context s = .ok (.queryRows "a" [("n", .int 1)] none) := by
    rw [prepared, hlate]
    rfl
  obtain ⟨rows, hordered, hrows, hquery⟩ := played_query hplayed rfl hfresh htask hserved
  rw [hquery] at hlist
  have hshown : rows.map (fun row => Json.object row.2) =
      [.object (row (idOf "a" (suffix 4)) 1), .object (row (idOf "a" (suffix 3)) 2)] := by
    simpa [Except.toOption, upTo] using hlist
  exact ⟨hplayed, rfl, hfresh, htask, hserved, rows, hordered, hrows, hshown, hquery⟩

end Execution

end Automation
