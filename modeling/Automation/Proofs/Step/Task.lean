import Automation.Proofs.Tree.Normal
import Automation.Proofs.Tree.Record
import Automation.Step.Task

/-!
# Tasks read from inputs

What the inputs of a kind have to be for a task (`Task.Reads`): each field that the kind knows has a
value of its own sort, and of the fields that may be absent those that are. Decoding gives a task
exactly if the inputs read so (`Task.ofTree_eq_ok_iff`).
-/

namespace Automation

open Text Automation.Tree Record

variable {entries : List (String × Tree)}

namespace Task

/-- The entries are the inputs of a kind for a task. -/
inductive Reads (entries : List (String × Tree)) : StepKind → Task → Prop
  | collect {value : Json} (collection : Holds entries "collection" asJson value) :
      Reads entries .collect (.collect value)
  | log {message : String} (text : Holds entries "text" asString message) :
      Reads entries .serverLog (.log message)
  | filter {c : FilterCondition} {a b : Json}
      (condition : HoldsD entries "condition" FilterCondition.ofTree .equal c)
      (field : HoldsD entries "field" asJson .null a)
      (value : HoldsD entries "value" asJson .null b) :
      Reads entries .filter (.filter c a b)
  | delay {millis : Nat} (time : Holds entries "time" asMillis millis) :
      Reads entries .delay (.delay millis)
  | createRow {table : String} {fields : RowFields}
      (table_id : Holds entries "table_id" asString table)
      (row : Holds entries "row" asRow fields) :
      Reads entries .createRow (.createRow table fields)
  | updateRow {id : String} {patch : RowFields} (row_id : Holds entries "row_id" asString id)
      (row : Holds entries "row" asRow patch) :
      Reads entries .updateRow (.updateRow id patch)
  | deleteRow {id : String} (row_id : Holds entries "row_id" asString id) :
      Reads entries .deleteRow (.deleteRow id)
  | queryRows {table : String} {wanted : RowFields} {most : Option Nat}
      (table_id : Holds entries "table_id" asString table)
      (filters : HoldsD entries "filters" asRow [] wanted)
      (limit : HoldsD entries "limit" (asOption (asWord maxWord64 "usize")) none most) :
      Reads entries .queryRows (.queryRows table wanted most)
  | script {source : String} (code : Holds entries "code" asString source) :
      Reads entries .executeScript (.script source)
  | webhook {address : String} {m : HttpMethod} {hs : Entries String} {b : Option Json}
      (url : Holds entries "url" asString address)
      (method : HoldsD entries "method" HttpMethod.ofTree .post m)
      (headers : HoldsD entries "headers" (asOrdered asString) ∅ hs)
      (body : HoldsD entries "body" (asOption asJson) none b) :
      Reads entries .outgoingWebhook (.webhook ⟨m, address, hs, WebhookRequest.bodyOf? b⟩)

/-- A record of one field. -/
theorem one_eq_ok_iff {α : Type} {title name : String} {decode : Tree → Except DecodeFault α}
    {build : α → Task} {task : Task} (h : (entries.map (·.1)).Nodup) :
    (do
      let r ← Tree.record title [.required name decode] (.mapping entries)
      return build (← r.get name decode)) = .ok task ↔
      ∃ a, Holds entries name decode a ∧ task = build a := by
  rw [record_bind_eq_ok_iff (by simp) h]
  · simp only [bind_eq_ok_iff, get_eq_ok_iff, pure_eq_ok_iff]
  · intro r hr
    simp only [Record.get, hr name (by simp [FieldShape.required])]
  · simp only [bind_eq_ok_iff, get_eq_ok_iff]
    rintro ⟨a, ha, -⟩
    exact .required ha .nil

/-- A record of two fields. -/
theorem two_eq_ok_iff {α β : Type} {title name other : String} (hne : name ≠ other)
    {decode : Tree → Except DecodeFault α} {decode' : Tree → Except DecodeFault β}
    {build : α → β → Task} {task : Task} (h : (entries.map (·.1)).Nodup) :
    (do
      let r ← Tree.record title [.required name decode, .required other decode'] (.mapping entries)
      return build (← r.get name decode) (← r.get other decode')) = .ok task ↔
      ∃ a, Holds entries name decode a ∧ ∃ b, Holds entries other decode' b ∧
        task = build a b := by
  rw [record_bind_eq_ok_iff (by simpa [FieldShape.required] using hne) h]
  · simp only [bind_eq_ok_iff, get_eq_ok_iff, pure_eq_ok_iff]
  · intro r hr
    simp only [Record.get, hr name (by simp [FieldShape.required]),
      hr other (by simp [FieldShape.required])]
  · simp only [bind_eq_ok_iff, get_eq_ok_iff]
    rintro ⟨a, ha, b, hb, -⟩
    exact .required ha (.required hb .nil)

/-- The inputs of a filter are read field by field. -/
theorem filterOfTree_eq_ok_iff {task : Task} (h : (entries.map (·.1)).Nodup) :
    filterOfTree (.mapping entries) = .ok task ↔ Reads entries .filter task := by
  rw [filterOfTree, record_bind_eq_ok_iff (by decide) h]
  · simp only [bind_eq_ok_iff, getD_eq_ok_iff, pure_eq_ok_iff]
    constructor
    · rintro ⟨c, hc, a, ha, b, hb, rfl⟩
      exact .filter hc ha hb
    · intro hreads
      cases hreads with | filter hc ha hb => exact ⟨_, hc, _, ha, _, hb, rfl⟩
  · intro r hr
    simp only [Record.getD, hr "condition" (by decide), hr "field" (by decide),
      hr "value" (by decide)]
  · simp only [bind_eq_ok_iff, getD_eq_ok_iff]
    rintro ⟨c, hc, a, ha, b, hb, -⟩
    exact .optional ha (.optional hc (.optional hb .nil))

/-- The inputs of a query are read field by field. -/
theorem queryOfTree_eq_ok_iff {task : Task} (h : (entries.map (·.1)).Nodup) :
    queryOfTree (.mapping entries) = .ok task ↔ Reads entries .queryRows task := by
  rw [queryOfTree, record_bind_eq_ok_iff (by decide) h]
  · simp only [bind_eq_ok_iff, Record.get?, get_eq_ok_iff, getD_eq_ok_iff, pure_eq_ok_iff]
    constructor
    · rintro ⟨table, ht, filters, hf, limit, hl, rfl⟩
      exact .queryRows ht hf hl
    · intro hreads
      cases hreads with | queryRows ht hf hl => exact ⟨_, ht, _, hf, _, hl, rfl⟩
  · intro r hr
    simp only [Record.get, Record.get?, Record.getD, hr "table_id" (by decide),
      hr "filters" (by decide), hr "limit" (by decide)]
  · simp only [bind_eq_ok_iff, Record.get?, get_eq_ok_iff, getD_eq_ok_iff]
    rintro ⟨table, ht, filters, hf, limit, hl, -⟩
    exact .required ht (.optional hf (.optional hl .nil))

/-- The inputs of a webhook are read field by field. -/
theorem webhookOfTree_eq_ok_iff {task : Task} (h : (entries.map (·.1)).Nodup) :
    webhookOfTree (.mapping entries) = .ok task ↔ Reads entries .outgoingWebhook task := by
  rw [webhookOfTree, record_bind_eq_ok_iff (by decide) h]
  · simp only [bind_eq_ok_iff, Record.get?, get_eq_ok_iff, getD_eq_ok_iff, pure_eq_ok_iff]
    constructor
    · rintro ⟨m, hm, address, hu, headers, hh, body, hb, rfl⟩
      exact .webhook hu hm hh hb
    · intro hreads
      cases hreads with | webhook hu hm hh hb => exact ⟨_, hm, _, hu, _, hh, _, hb, rfl⟩
  · intro r hr
    simp only [Record.get, Record.get?, Record.getD, hr "url" (by decide), hr "method" (by decide),
      hr "headers" (by decide), hr "body" (by decide)]
  · simp only [bind_eq_ok_iff, Record.get?, get_eq_ok_iff, getD_eq_ok_iff]
    rintro ⟨m, hm, address, hu, headers, hh, body, hb, -⟩
    exact .required hu (.optional hm (.optional hh (.optional hb .nil)))

/-- Decoding gives a task exactly if the inputs are those of the kind for it. -/
theorem ofTree_eq_ok_iff {kind : StepKind} {task : Task} (h : (entries.map (·.1)).Nodup) :
    ofTree kind (.mapping entries) = .ok task ↔ Reads entries kind task := by
  cases kind with
  | filter => exact filterOfTree_eq_ok_iff h
  | queryRows => exact queryOfTree_eq_ok_iff h
  | outgoingWebhook => exact webhookOfTree_eq_ok_iff h
  | collect =>
    rw [ofTree, one_eq_ok_iff h]
    exact ⟨fun ⟨_, ha, e⟩ => e ▸ .collect ha, fun (.collect ha) => ⟨_, ha, rfl⟩⟩
  | serverLog =>
    rw [ofTree, one_eq_ok_iff h]
    exact ⟨fun ⟨_, ha, e⟩ => e ▸ .log ha, fun (.log ha) => ⟨_, ha, rfl⟩⟩
  | delay =>
    rw [ofTree, one_eq_ok_iff h]
    exact ⟨fun ⟨_, ha, e⟩ => e ▸ .delay ha, fun (.delay ha) => ⟨_, ha, rfl⟩⟩
  | deleteRow =>
    rw [ofTree, one_eq_ok_iff h]
    exact ⟨fun ⟨_, ha, e⟩ => e ▸ .deleteRow ha, fun (.deleteRow ha) => ⟨_, ha, rfl⟩⟩
  | executeScript =>
    rw [ofTree, one_eq_ok_iff h]
    exact ⟨fun ⟨_, ha, e⟩ => e ▸ .script ha, fun (.script ha) => ⟨_, ha, rfl⟩⟩
  | createRow =>
    rw [ofTree, two_eq_ok_iff (by decide) h]
    exact ⟨fun ⟨_, ha, _, hb, e⟩ => e ▸ .createRow ha hb,
      fun (.createRow ha hb) => ⟨_, ha, _, hb, rfl⟩⟩
  | updateRow =>
    rw [ofTree, two_eq_ok_iff (by decide) h]
    exact ⟨fun ⟨_, ha, _, hb, e⟩ => e ▸ .updateRow ha hb,
      fun (.updateRow ha hb) => ⟨_, ha, _, hb, rfl⟩⟩

/-- Sorted inputs give the tasks that they can be read for. -/
theorem ofInputs_eq_ok_iff {kind : StepKind} {values : List (String × Json)} {task : Task}
    (h : Fields.Ordered values) :
    ofInputs kind values = .ok task ↔ Reads (Tree.ofFields values) kind task := by
  have hnodup : ((Tree.ofFields values).map (·.1)).Nodup := by
    rw [Tree.ofFields_eq_map, List.map_map]
    exact h.nodup
  rw [← ofTree_eq_ok_iff hnodup, ofInputs, Tree.ofJson]
  cases ofTree kind (.mapping (Tree.ofFields values)) with
  | error fault => exact iff_of_false nofun nofun
  | ok task' =>
    constructor
    · rintro ⟨⟩
      rfl
    · rintro ⟨⟩
      rfl

/-- The fields that a task has for a row are sorted. -/
def Sorted : Task → Prop
  | createRow _ fields => Fields.Ordered fields
  | updateRow _ patch => Fields.Ordered patch
  | _ => True

/-- A task that is read off values in order has its values in order. -/
theorem Reads.sorted {kind : StepKind} {task : Task} (h : Reads entries kind task) :
    task.Sorted := by
  have hrow {name : String} {fields : RowFields} (h : Holds entries name asRow fields) :
      Fields.Ordered fields := by
    obtain ⟨t, -, hfields⟩ := h
    unfold asRow asSorted at hfields
    cases hentries : asEntries asJson t with
    | error fault =>
      rw [hentries] at hfields
      cases hfields
    | ok read =>
      rw [hentries] at hfields
      cases hfields
      exact Fields.ordered_ofList read
  cases h with
  | createRow _ row | updateRow _ row => exact hrow row
  | collect | log | filter | delay | deleteRow | queryRows | script | webhook => trivial

end Task

end Automation
