import Automation.Proofs.Execution.Inputs
import Automation.Proofs.Execution.Iteration
import Automation.Proofs.Json.Sorted
import Automation.Proofs.Step.Task
import Automation.Proofs.Store

/-!
# Outputs in order

The objects in the outputs of a step are in order, whatever its inputs are and however it ends
(`Execution.step_sorted`). What a task takes from its inputs and what a script returns are values of
trees and maps, which are in order by themselves; for the rows that a task shows and the answers to
webhooks it is a property of the services (`Services.Orderly`), which all tasks keep.
-/

namespace Automation

/-! ## Scripts -/

namespace Script

open Json

mutual

/-- The objects in the result of a script are in order. -/
theorem Value.sorted_of_toJson : ∀ (v : Value) {j : Json}, v.toJson = .ok j → j.Sorted
  | .unit, _, rfl | .bool _, _, rfl | .int _, _, rfl | .char _, _, rfl | .string _, _, rfl =>
    trivial
  | .float d, _, rfl => by
    split
    · trivial
    · trivial
  | .array items, j, h => by
    obtain ⟨values, hvalues, rfl⟩ := map_eq_ok_iff.1 h
    exact sorted_array_iff.2 (Value.sorted_of_toItems items hvalues)
  | .map fields, j, h => by
    obtain ⟨values, hvalues, rfl⟩ := map_eq_ok_iff.1 h
    exact sorted_ofList (Value.sorted_of_toFields fields hvalues)
  | .function _, _, h | .range _ _ _, _, h => nomatch h

/-- The items of a script's array are in order. -/
theorem Value.sorted_of_toItems : ∀ (items : List Value) {values : List Json},
    Value.toItems items = .ok values → ∀ v ∈ values, v.Sorted
  | [], _, rfl => List.forall_mem_nil _
  | item :: rest, values, h => by
    rw [Value.toItems] at h
    obtain ⟨first, hfirst, h⟩ := bind_eq_ok_iff.1 h
    obtain ⟨others, hothers, h⟩ := bind_eq_ok_iff.1 h
    cases pure_eq_ok_iff.1 h
    exact List.forall_mem_cons.2
      ⟨Value.sorted_of_toJson item hfirst, Value.sorted_of_toItems rest hothers⟩

/-- The values of a script's object are in order. -/
theorem Value.sorted_of_toFields : ∀ (fields : List (String × Value))
    {values : List (String × Json)},
    Value.toFields fields = .ok values → ∀ field ∈ values, field.2.Sorted
  | [], _, rfl => List.forall_mem_nil _
  | (name, value) :: rest, values, h => by
    rw [Value.toFields] at h
    obtain ⟨first, hfirst, h⟩ := bind_eq_ok_iff.1 h
    obtain ⟨others, hothers, h⟩ := bind_eq_ok_iff.1 h
    cases pure_eq_ok_iff.1 h
    exact List.forall_mem_cons.2
      ⟨Value.sorted_of_toJson value hfirst, Value.sorted_of_toFields rest hothers⟩

end

/-- What a script answers is in order. -/
theorem sorted_of_convert {v : Value} {j : Json} (h : convert v = .ok j) : j.Sorted := by
  unfold convert at h
  cases hv : v.toJson with
  | error type =>
    rw [hv] at h
    cases h
  | ok value =>
    rw [hv] at h
    cases h
    exact Value.sorted_of_toJson v hv

/-- What a run of a script answers is in order. -/
theorem sorted_of_run {limits : Limits} {millis : Nat} {source : String} {context v : Json}
    (h : (run limits millis source context).answer = .ok v) : v.Sorted := by
  unfold run at h
  dsimp only at h
  split at h
  · cases h
  · split at h
    · exact sorted_of_convert h
    · next halt s hhalt =>
      cases halt with
      | fault f p => exact nomatch h
      | timeout => cases h
      | leave v => exact sorted_of_convert h
      | break_ v => exact sorted_of_convert h
      | continue_ =>
        have hunit : convert .unit = .ok v := h
        exact sorted_of_convert hunit

end Script

/-! ## Services -/

namespace Services

/-- The objects in the documents of a tenant are in order, and so are those in the bodies of all
answers to webhooks that are still to come. -/
structure Orderly (tenant : Tenant) (s : Services) : Prop where
  documents : ∀ field ∈ s.store.partition tenant, field.2.body.Sorted
  answers : ∀ response, .ok response ∈ s.webhooks.beyond :: s.webhooks.answers →
    response.body.Sorted

variable {tenant : Tenant} {s t : Services}

/-- Only the store and the webhooks have values that have to be in order. -/
theorem Orderly.of_eq (h : Orderly tenant s) (hstore : t.store = s.store)
    (hwebhooks : t.webhooks = s.webhooks) : Orderly tenant t :=
  ⟨by rw [hstore]; exact h.documents, by rw [hwebhooks]; exact h.answers⟩

/-- Time that passes brings nothing out of order. -/
theorem Orderly.elapse (h : Orderly tenant s) (millis : Nat) : Orderly tenant (s.elapse millis) :=
  h.of_eq rfl rfl

/-- An event that is published brings nothing out of order. -/
theorem Orderly.publish (h : Orderly tenant s) (e : Event) : Orderly tenant (s.publish e) := by
  unfold Services.publish
  split
  · exact h
  · exact h.of_eq rfl rfl

/-- The answer to a webhook is one of those to come, and the others are left. -/
theorem Orderly.send (h : Orderly tenant s) (request : WebhookRequest) :
    (∀ response, (s.send request).1 = .ok response → response.body.Sorted) ∧
      Orderly tenant (s.send request).2 := by
  have hmem : (s.send request).1 ∈ s.webhooks.beyond :: s.webhooks.answers := by
    change s.webhooks.answers.headD s.webhooks.beyond ∈ _
    cases s.webhooks.answers with
    | nil => exact List.mem_cons_self ..
    | cons answer rest => exact List.mem_cons_of_mem _ (List.mem_cons_self ..)
  refine ⟨fun response hanswer => h.answers response (hanswer ▸ hmem), h.documents, ?_⟩
  intro response hresponse
  refine h.answers response ?_
  rcases List.mem_cons.1 hresponse with hbeyond | hrest
  · exact List.mem_cons.2 (.inl hbeyond)
  · exact List.mem_cons_of_mem _ (List.mem_of_mem_tail hrest)

/-- The document that is found is in order. -/
theorem Orderly.get? (h : Orderly tenant s) {id : String} {d : Document}
    (hfound : s.store.get? tenant id = some d) : d.body.Sorted := by
  obtain ⟨revision, hrevision, rfl⟩ := Option.map_eq_some_iff.1 hfound
  exact h.documents _ (Fields.mem_of_lookup hrevision)

/-- The documents that are listed are in order. -/
theorem Orderly.documents_sorted (h : Orderly tenant s) {range : IdRange} {d : Document}
    (hd : d ∈ s.store.documents tenant range) : d.body.Sorted := by
  obtain ⟨field, hfield, rfl⟩ := List.mem_map.1 (s.store.mem_within_of_mem_documents tenant hd)
  exact h.documents field (List.mem_filter.1 hfield).1

/-- The request has given a document that is in order if any, and has kept the services so. -/
structure OrderlyResult (tenant : Tenant) (r : Except StoreFault Document × Services) : Prop where
  document : ∀ d, r.1 = .ok d → d.body.Sorted
  services : Orderly tenant r.2

/-- Writing a document in order keeps all in order. -/
theorem Orderly.putDocument (h : Orderly tenant s) {d : Document} (hbody : d.body.Sorted) :
    OrderlyResult tenant (s.putDocument tenant d) := by
  rcases s.putDocument_cases tenant d with ⟨fault, hput⟩ | hput
  · rw [hput]
    exact ⟨fun _ hd => (nomatch hd), h⟩
  · rw [hput]
    refine ⟨fun written hwritten => ?_, fun field hfield => ?_, h.answers⟩
    · cases hwritten
      exact hbody
    · rw [Store.partition_put] at hfield
      rcases Fields.mem_insert hfield with rfl | hmem
      · exact hbody
      · exact h.documents field hmem

/-- Removing a document keeps all in order. -/
theorem Orderly.removeDocument (h : Orderly tenant s) (id : String) :
    OrderlyResult tenant (s.removeDocument tenant id) := by
  unfold Services.removeDocument ifStored Store.remove?
  cases s.storeOutages.lookup .remove with
  | some message => exact ⟨fun _ hd => (nomatch hd), h⟩
  | none =>
    cases hfound : s.store.get? tenant id with
    | none => exact ⟨fun _ hd => (nomatch hd), h⟩
    | some d =>
      refine ⟨fun removed hremoved => ?_, fun field hfield => ?_, h.answers⟩
      · cases hremoved
        exact h.get? hfound
      · dsimp only [Option.map_some] at hfield
        rw [Store.partition_set_same] at hfield
        exact h.documents field (List.mem_filter.1 hfield).1

end Services

open Services Json

/-! ## Rows -/

namespace Row

variable {fields patch : RowFields}

/-- The fields of a body in order are in order. -/
theorem sorted_fieldsOf {body : Json} (h : body.Sorted) : (object (fieldsOf body)).Sorted := by
  cases body with
  | object fields => exact h
  | null | bool | number | string | array => exact sorted_object_nil

/-- The row that is shown of a document in order is in order. -/
theorem sorted_shown {d : Document} (h : d.body.Sorted) : (shown d).Sorted := by
  have hid : (Json.string d.id).Sorted := trivial
  have hrevision : (Json.int d.revision).Sorted := trivial
  exact ((sorted_fieldsOf h).insert "_id" hid).insert "_rev" hrevision

/-- A row that is created with fields in order is in order. -/
theorem sorted_created (table : String) (h : (object fields).Sorted) :
    (object (created table fields)).Sorted := by
  have htable : (Json.string table).Sorted := trivial
  exact ((h.erase "_id").erase "_rev").insert tableField htable

/-- Fields in order stay so with a patch in order. -/
theorem sorted_patched (h : (object fields).Sorted) (hpatch : (object patch).Sorted) :
    (object (patched fields patch)).Sorted :=
  h.foldl_insert
    (sorted_object_iff.1 (((hpatch.erase "_id").erase "_rev").erase tableField)).2

end Row

/-! ## Tasks -/

namespace Task

/-- The objects in the values that a task writes or gives back are in order. -/
def ValuesSorted : Task → Prop
  | collect value => value.Sorted
  | createRow _ row => (object row).Sorted
  | updateRow _ patch => (object patch).Sorted
  | _ => True

/-- A value that is read is in order. -/
theorem sorted_of_asJson {t : Tree} {v : Json} (h : t.asJson = .ok v) : v.Sorted := by
  unfold Tree.asJson at h
  cases hvalue : t.toJson? with
  | none =>
    rw [hvalue] at h
    cases h
  | some value =>
    rw [hvalue] at h
    cases h
    exact Tree.sorted_of_toJson? t hvalue

/-- The values of entries that are read are in order. -/
theorem sorted_of_asEntries {t : Tree} {entries : List (String × Json)}
    (h : t.asEntries Tree.asJson = .ok entries) : ∀ entry ∈ entries, entry.2.Sorted := by
  unfold Tree.asEntries at h
  split at h
  · next written =>
    induction written generalizing entries with
    | nil =>
      cases h
      exact List.forall_mem_nil _
    | cons entry rest ih =>
      obtain ⟨name, value⟩ := entry
      simp only [List.mapM_cons, bind_eq_ok_iff, pure_eq_ok_iff] at h
      obtain ⟨_, ⟨v, hv, rfl⟩, others, hothers, rfl⟩ := h
      exact List.forall_mem_cons.2 ⟨sorted_of_asJson hv, ih hothers⟩
  · cases h
    exact List.forall_mem_nil _
  · cases h

/-- The fields of a row that are read are in order. -/
theorem sorted_of_asRow {t : Tree} {row : RowFields} (h : asRow t = .ok row) :
    (object row).Sorted := by
  obtain ⟨entries, hentries, rfl⟩ := map_eq_ok_iff.1 h
  exact sorted_ofList (sorted_of_asEntries hentries)

/-- The values of tasks come from trees, and are in order whatever the inputs are. -/
theorem valuesSorted_of_ofInputs {kind : StepKind} {values : List (String × Json)} {task : Task}
    (hvalues : Fields.Ordered values) (h : ofInputs kind values = .ok task) :
    task.ValuesSorted := by
  cases (ofInputs_eq_ok_iff hvalues).1 h with
  | collect collection =>
    obtain ⟨t, -, ht⟩ := collection
    exact sorted_of_asJson ht
  | createRow _ row | updateRow _ row =>
    obtain ⟨t, -, ht⟩ := row
    exact sorted_of_asRow ht
  | log | filter | delay | deleteRow | queryRows | script | webhook => trivial

/-- The outputs are in order if there are any, and the services are kept so. -/
structure Sound (tenant : Tenant) (performed : Performed) : Prop where
  outputs : ∀ v, performed.1 = .ok v → v.Sorted
  services : Orderly tenant performed.2

section
variable {tenant : Tenant} {s : Services}

/-- A fault leaves no outputs that could be out of order. -/
theorem Sound.error (h : Orderly tenant s) (fault : StepFault) : Sound tenant (.error fault, s) :=
  ⟨fun _ hv => (nomatch hv), h⟩

/-- Outputs in order, and services in order, are sound. -/
theorem Sound.ok (h : Orderly tenant s) {v : Json} (hv : v.Sorted) : Sound tenant (.ok v, s) := by
  refine ⟨fun v' hv' => ?_, h⟩
  cases hv'
  exact hv

/-- Outputs with values in order are in order. -/
theorem sorted_outputs (success : Bool) {entries : List (String × Json)}
    (h : ∀ entry ∈ entries, entry.2.Sorted) : (outputs success entries).Sorted :=
  sorted_ofList (List.forall_mem_cons.2 ⟨trivial, h⟩)

/-- Outputs with one value in order are in order. -/
theorem sorted_outputs_one (success : Bool) {name : String} {v : Json} (hv : v.Sorted) :
    (outputs success [(name, v)]).Sorted :=
  sorted_outputs success (List.forall_mem_singleton.2 hv)

/-- A row that a request gives is shown in order. -/
theorem sound_rowResult {r : Except StoreFault Document × Services} (h : OrderlyResult tenant r) :
    Sound tenant (rowResult r) := by
  refine ⟨fun v hv => ?_, h.services⟩
  unfold rowResult at hv
  cases hr : r.1 with
  | error fault =>
    rw [hr] at hv
    cases hv
  | ok d =>
    rw [hr] at hv
    cases hv
    have hid : (Json.string d.id).Sorted := trivial
    exact sorted_outputs true (List.forall_mem_cons.2
      ⟨hid, List.forall_mem_singleton.2 (Row.sorted_shown (h.document d hr))⟩)

end

variable {x : Setting} {s : Services} (h : Orderly x.tenant s)
include h

/-- A delay keeps all in order. -/
theorem sound_performDelay (millis : Nat) : Sound x.tenant (performDelay x millis s) := by
  have hslept (n : Nat) : (outputs true [("slept_ms", .int n)]).Sorted :=
    sorted_outputs_one true (v := .int n) trivial
  unfold performDelay
  dsimp only
  split
  · split
    · exact .ok (h.elapse _) (hslept _)
    · exact .error (h.elapse _) _
  · exact .ok (h.elapse _) (hslept _)

/-- A script keeps all in order. -/
theorem sound_performScript (code : String) : Sound x.tenant (performScript x code s) := by
  unfold performScript
  dsimp only
  split
  · next v hanswer =>
    exact .ok (h.elapse _) (sorted_outputs_one true (Script.sorted_of_run hanswer))
  · split
    · exact .error (h.elapse _) _
    · exact .error (h.elapse _) _

/-- A new row with fields in order keeps all in order. -/
theorem sound_performCreate (table : String) {row : RowFields} (hrow : (object row).Sorted) :
    Sound x.tenant (performCreate x table row s) := by
  have hnumbered : Orderly x.tenant s.freshRowSuffix.2 := h.of_eq rfl rfl
  exact sound_rowResult (hnumbered.putDocument (Row.sorted_created table hrow))

/-- An update with a patch in order keeps all in order. -/
theorem sound_performUpdate (id : String) {patch : RowFields} (hpatch : (object patch).Sorted) :
    Sound x.tenant (performUpdate x id patch s) := by
  unfold performUpdate
  split
  · exact .error h _
  · split
    · exact .error h _
    · exact .error h _
    · next d hget =>
      have hbody : d.body.Sorted := by
        unfold getDocument ifStored at hget
        split at hget
        · cases hget
        · exact h.get? (Except.ok.inj hget)
      exact sound_rowResult (h.putDocument (Row.sorted_patched (Row.sorted_fieldsOf hbody) hpatch))

/-- A removal keeps all in order. -/
theorem sound_performDelete (id : String) : Sound x.tenant (performDelete x id s) := by
  unfold performDelete
  split
  · exact .error h _
  · exact sound_rowResult (h.removeDocument id)

/-- A query keeps all in order. -/
theorem sound_performQuery (table : String) (filters : RowFields) (limit : Option Nat) :
    Sound x.tenant (performQuery x table filters limit s) := by
  unfold performQuery
  split
  · exact .error h _
  · next ds hlist =>
    refine .ok h (sorted_outputs_one true (sorted_array_iff.2 fun v hv => ?_))
    have hds : ∀ d ∈ ds, d.body.Sorted := by
      unfold listDocuments ifStored at hlist
      split at hlist
      · cases hlist
      · cases hlist
        exact fun d hd => h.documents_sorted hd
    obtain ⟨d, hd, rfl⟩ := List.mem_map.1 hv
    have hfound : d ∈ ds.filter (Row.isMatch table filters) := by
      cases limit with
      | none => exact hd
      | some n => exact List.mem_of_mem_take hd
    exact Row.sorted_shown (hds d (List.mem_filter.1 hfound).1)

/-- A webhook keeps all in order. -/
theorem sound_performWebhook (request : WebhookRequest) :
    Sound x.tenant (performWebhook request s) := by
  obtain ⟨hanswer, hnext⟩ := h.send request
  unfold performWebhook
  dsimp only
  split
  · exact .error hnext _
  · next response hresponse =>
    have hstatus : (Json.int response.status).Sorted := trivial
    exact .ok hnext (sorted_outputs _ (List.forall_mem_cons.2
      ⟨hstatus, List.forall_mem_singleton.2 (hanswer response hresponse)⟩))

/-- The outputs of a task are in order. -/
theorem sound_perform {task : Task} (htask : task.ValuesSorted) :
    Sound x.tenant (perform x task s) := by
  cases task with
  | collect value => exact .ok h (sorted_outputs_one true htask)
  | log text => exact .ok h (sorted_outputs_one true (v := .string _) trivial)
  | filter condition field value => exact .ok h (sorted_outputs_one _ (v := .bool _) trivial)
  | delay millis => exact sound_performDelay h millis
  | createRow table row => exact sound_performCreate h table htask
  | updateRow id patch => exact sound_performUpdate h id htask
  | deleteRow id => exact sound_performDelete h id
  | queryRows table filters limit => exact sound_performQuery h table filters limit
  | script code => exact sound_performScript h code
  | webhook request => exact sound_performWebhook h request

end Task

/-! ## Steps -/

namespace Outputs

/-- Outputs in order stay so when they are normalized. -/
theorem sorted_normalize {v : Json} (h : v.Sorted) : (normalize v).Sorted := by
  have hvalue : (object [(flag, .bool true), ("value", v)]).Sorted :=
    sorted_object_iff.2 ⟨Fields.ofList_eq_self_iff.1 rfl,
      List.forall_mem_cons.2 ⟨trivial, List.forall_mem_singleton.2 h⟩⟩
  cases v with
  | object fields =>
    have hflag : (Json.bool (successOf fields)).Sorted := trivial
    exact Sorted.insert h flag hflag
  | null | bool | number | string | array => exact hvalue

/-- What a failure leaves is in order. -/
theorem sorted_ofFault (fault : StepFault) : (ofFault fault).Sorted :=
  ⟨Fields.ofList_eq_self_iff.1 rfl, trivial, trivial, trivial⟩

/-- What an execution leaves is in order if its outputs are. -/
theorem sorted_ofResult {r : Except StepFault Json} (h : ∀ v, r = .ok v → v.Sorted) :
    (ofResult r).Sorted := by
  cases r with
  | error fault => exact sorted_ofFault fault
  | ok v => exact h v rfl

end Outputs

/-- The outputs of a loop are in order if those of its iterations are. -/
theorem LoopEnd.sorted_outputs {e : LoopEnd} (h : ∀ v ∈ e.items, v.Sorted) : e.outputs.Sorted := by
  have hitems : (array e.items).Sorted := sorted_array_iff.2 h
  unfold LoopEnd.outputs
  cases e.conditionFault with
  | none => exact ⟨Fields.ofList_eq_self_iff.1 rfl, hitems, trivial, trivial, trivial⟩
  | some fault =>
    exact ⟨Fields.ofList_eq_self_iff.1 rfl, trivial, hitems, trivial, trivial, trivial⟩

namespace Execution

variable (c : Config) (tenant : Tenant)

/-- A step with resolved inputs in order keeps all in order. -/
theorem sound_performWith {x : Task.Setting} {kind : StepKind} {inputs : Resolver.ResolvedInputs}
    {s : Services} (hinputs : Fields.Ordered inputs.values) (h : Orderly x.tenant s) :
    Task.Sound x.tenant (performWith x kind inputs s) := by
  unfold performWith
  split
  · exact .error h _
  · split
    · exact .error h _
    · next task htask => exact Task.sound_perform h (Task.valuesSorted_of_ofInputs hinputs htask)

/-- The outputs of one execution of a step are in order. -/
theorem sound_once (step : Step) (context : Context) {s : Services} (h : Orderly tenant s) :
    Task.Sound tenant (once c tenant step context s) := by
  have htime : Orderly tenant (s.elapse (c.stepResolver.timeOfFields context step.inputs)) :=
    h.elapse _
  unfold once
  dsimp only
  split
  · exact .error htime _
  · generalize hperformed : performWith _ _ _ _ = performed
    have hsound : Task.Sound tenant performed := by
      rw [← hperformed]
      exact @sound_performWith (setting c tenant context s.clock.elapsed) _ _ _
        Resolver.ordered_resolveInputs htime
    obtain ⟨result, s'⟩ := performed
    cases result with
    | error fault => exact .error hsound.services fault
    | ok v => exact .ok hsound.services (Outputs.sorted_normalize (hsound.outputs v rfl))

/-- What a loop has gathered is in order, and so are the services with which it goes on. -/
theorem sound_stateAt (plan : LoopPlan) (context : Context) (items : List Json)
    {start : List Json × Services} (hdone : ∀ v ∈ start.1, v.Sorted)
    (h : Orderly tenant start.2) (i : Nat) :
    (∀ v ∈ (stateAt c tenant plan context items start i).1, v.Sorted) ∧
      Orderly tenant (stateAt c tenant plan context items start i).2 := by
  unfold stateAt
  induction items.take i generalizing start with
  | nil => exact ⟨hdone, h⟩
  | cons item rest ih =>
    have honce := sound_once c tenant plan.step
      (context.withFrame (some (openFrame start.1 item))) h
    refine ih (fun v hv => ?_) (honce.services.elapse _)
    rcases List.mem_append.1 hv with hbefore | hlast
    · exact hdone v hbefore
    · rw [List.mem_singleton.1 hlast]
      exact Outputs.sorted_ofResult honce.outputs

/-- A step that is executed once or in a loop keeps all in order. -/
theorem sorted_attempt (step : Step) {p : Progress} (h : Orderly tenant p.services) :
    (∀ v, (attempt c tenant step p).1 = .ok v → v.Sorted) ∧
      Orderly tenant (attempt c tenant step p).2.services := by
  unfold attempt
  split
  · next loop _ =>
    cases hitems : loopItems c p.context loop with
    | error fault =>
      rw [looped_of_error c tenant hitems]
      exact ⟨fun _ hv => (nomatch hv), h.elapse _⟩
    | ok items =>
      obtain ⟨m, e, hends, he⟩ := looped_of_items c tenant step hitems
      obtain ⟨hgathered, hservices⟩ := @sound_stateAt c tenant
        ⟨step, loop.condition?, c.iterations loop.maxIterations⟩ p.context items
        ([], p.services.elapse (c.resolver.timeOf p.context loop.input))
        (List.forall_mem_nil _) (h.elapse _) m
      rw [he]
      refine ⟨fun v hv => ?_, hservices⟩
      cases hv
      exact LoopEnd.sorted_outputs (by rw [hends.items_eq]; exact hgathered)
  · have honce := sound_once c tenant step p.context h
    exact ⟨honce.outputs, honce.services⟩

/-- The outputs of a step are in order, and so are the services after it. -/
theorem step_sorted (step : Step) {p : Progress} (h : Orderly tenant p.services) :
    (Execution.step c tenant step p).1.outputs.Sorted ∧
      Orderly tenant (Execution.step c tenant step p).2.services := by
  obtain ⟨houtputs, hservices⟩ := sorted_attempt c tenant step h
  refine ⟨?_, hservices⟩
  rw [step_outputs]
  exact Outputs.sorted_ofResult houtputs

end Execution

end Automation
