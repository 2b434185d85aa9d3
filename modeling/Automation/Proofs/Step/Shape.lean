import Automation.Proofs.Step.Task
import Automation.Proofs.Tree.Normal
import Automation.Step.Schema

/-!
# Inputs that may be absent

An input that a kind does not require may be absent, and if it is there it has to be of the shape
that the kind has for it (`StepKind.optionalShape`). Few of the shapes take null: so null in the
place of an input that has been left out is not always the same as nothing
(`Task.exists_reads_iff`, `Task.Reads.of_null`).
-/

namespace Automation

open Text Automation.Tree Record

/-- What an input that may be absent has to be if it is there: any value, one of some names, an
object, an object of texts, or a number of 64 bits or null. -/
inductive InputShape where
  | anything
  | name (names : List String)
  | fields
  | texts
  | count
  deriving DecidableEq, Repr

namespace InputShape

/-- The value is of the shape. A name may also be the only field of an object, with null. -/
def takes : InputShape → Json → Bool
  | anything, _ => true
  | name names, .string s => names.contains s
  | name names, .object [(s, .null)] => names.contains s
  | fields, .object _ => true
  | texts, .object entries => entries.all fun entry => entry.2.asString?.isSome
  | count, .null => true
  | count, .number (.int n) => 0 ≤ n ∧ n ≤ maxWord64
  | _, _ => false

end InputShape

namespace StepKind

/-- The inputs of a kind that may be absent and are not just any value, with their shapes. -/
def shapes : StepKind → List (String × InputShape)
  | .filter => [("condition", .name (FilterCondition.all.map (·.wireName)))]
  | .queryRows => [("filters", .fields), ("limit", .count)]
  | .outgoingWebhook =>
    [("method", .name (HttpMethod.all.map (·.wireName))), ("headers", .texts)]
  | _ => []

/-- The shape of an input of a kind that may be absent. -/
def optionalShape (k : StepKind) (name : String) : InputShape :=
  (k.shapes.lookup name).getD .anything

end StepKind

/-! ## Shapes and decoders -/

namespace InputShape

/-- A decoder accepts the values of a shape. -/
def Decodes {α : Type} (shape : InputShape) (decode : Tree → Except DecodeFault α) : Prop :=
  ∀ v, (∃ a, decode (ofJson v) = .ok a) ↔ shape.takes v = true

/-- The tree of a value is read as a value. -/
theorem exists_asJson (v : Json) : ∃ a, asJson (ofJson v) = .ok a := by
  obtain ⟨a, ha⟩ := Option.isSome_iff_exists.1 (isSome_toJson?_ofJson v)
  exact ⟨a, by rw [asJson, ha]⟩

/-- Any value is read as a value. -/
theorem decodes_asJson : anything.Decodes asJson :=
  fun v => iff_of_true (exists_asJson v) rfl

/-- A value that may be null is read as what it is if it is not null. -/
theorem asOption_ofJson {α : Type} (decode : Tree → Except DecodeFault α) {v : Json}
    (h : v ≠ .null) : asOption decode (ofJson v) = some <$> decode (ofJson v) := by
  cases v with
  | null => exact absurd rfl h
  | bool | number | string | array | object => rfl

/-- Any value, null included, is read as a value that may be absent. -/
theorem decodes_asOption_asJson : anything.Decodes (asOption asJson) := by
  intro v
  refine iff_of_true ?_ rfl
  by_cases h : v = .null
  · exact ⟨none, by rw [h]; rfl⟩
  · obtain ⟨a, ha⟩ := exists_asJson v
    exact ⟨some a, by rw [asOption_ofJson _ h, ha]; rfl⟩

/-- A variant is read off a text that is one of the names. -/
theorem decodes_asVariant {α : Type} (named : List (String × α)) :
    (name (named.map (·.1))).Decodes (asVariant named) := by
  have hnamed (s : String) :
      (∃ a, namedValue named s = .ok a) ↔ (named.map (·.1)).contains s = true := by
    rw [List.contains_iff_mem, namedValue]
    cases h : named.lookup s with
    | none => simpa using Fields.lookup_eq_none_iff.1 h
    | some a => exact iff_of_true ⟨a, rfl⟩ (List.mem_map_of_mem (Fields.mem_of_lookup h))
  intro v
  cases v with
  | null | bool | number | array => exact iff_of_false (fun ⟨_, h⟩ => nomatch h) Bool.noConfusion
  | string s => exact hnamed s
  | object entries =>
    match entries with
    | [] => exact iff_of_false (fun ⟨_, h⟩ => nomatch h) Bool.noConfusion
    | [(s, content)] =>
      rw [ofJson, ofFields, ofFields, asVariant]
      simp only [bind_eq_ok_iff]
      cases content with
      | null =>
        simp only [ofJson, pure_eq_ok_iff]
        rw [takes, ← hnamed]
        exact ⟨fun ⟨_, a, ha, _⟩ => ⟨a, ha⟩, fun ⟨a, ha⟩ => ⟨a, a, ha, rfl⟩⟩
      | bool | number | string | array | object =>
        exact iff_of_false (fun ⟨_, _, _, h⟩ => nomatch h) Bool.noConfusion
    | first :: second :: rest =>
      exact iff_of_false (fun ⟨_, h⟩ => nomatch h) (by simp [takes])

/-- The entries of an object can be decoded if each of its values can. -/
theorem exists_asEntries_iff {α : Type} {decode : Tree → Except DecodeFault α}
    {entries : List (String × Json)} :
    (∃ decoded, asEntries decode (ofJson (.object entries)) = .ok decoded) ↔
      ∀ entry ∈ entries, ∃ a, decode (ofJson entry.2) = .ok a := by
  rw [ofJson, asEntries]
  induction entries with
  | nil => exact iff_of_true ⟨[], rfl⟩ fun _ h => nomatch h
  | cons entry rest ih =>
    rw [List.forall_mem_cons, ← ih, ofFields]
    simp only [List.mapM_cons, bind_eq_ok_iff, pure_eq_ok_iff]
    constructor
    · rintro ⟨-, -, ⟨a, ha, -⟩, decoded, hdecoded, -⟩
      exact ⟨⟨a, ha⟩, decoded, hdecoded⟩
    · rintro ⟨⟨a, ha⟩, decoded, hdecoded⟩
      exact ⟨_, _, ⟨a, ha, rfl⟩, decoded, hdecoded, rfl⟩

/-- What is made of entries can be made if they can be decoded. -/
theorem exists_map_iff {α β : Type} {f : α → β} {x : Except DecodeFault α} :
    (∃ b, f <$> x = .ok b) ↔ ∃ a, x = .ok a := by
  cases x with
  | error fault => exact iff_of_false (fun ⟨_, h⟩ => nomatch h) (fun ⟨_, h⟩ => nomatch h)
  | ok a => exact iff_of_true ⟨f a, rfl⟩ ⟨a, rfl⟩

/-- The fields of a row are read off an object. -/
theorem decodes_asRow : fields.Decodes Task.asRow := by
  intro v
  unfold Task.asRow asSorted
  rw [exists_map_iff]
  cases v with
  | null | bool | number | string | array =>
    exact iff_of_false (fun ⟨_, h⟩ => nomatch h) Bool.noConfusion
  | object entries =>
    exact iff_of_true (exists_asEntries_iff.2 fun entry _ => exists_asJson entry.2) rfl

/-- Texts in order are read off an object of texts. -/
theorem decodes_texts : texts.Decodes (asOrdered asString) := by
  intro v
  unfold asOrdered
  rw [exists_map_iff]
  cases v with
  | null | bool | number | string | array =>
    exact iff_of_false (fun ⟨_, h⟩ => nomatch h) Bool.noConfusion
  | object entries =>
    rw [exists_asEntries_iff, takes, List.all_eq_true]
    refine forall₂_congr fun entry _ => ?_
    cases entry.2 with
    | string s => exact iff_of_true ⟨s, rfl⟩ rfl
    | null | bool | number | array | object =>
      exact iff_of_false (fun ⟨_, h⟩ => nomatch h) Bool.noConfusion

/-- A count that may be absent is read off null or a number that fits. -/
theorem decodes_count : count.Decodes (asOption (asWord maxWord64 "usize")) := by
  intro v
  cases v with
  | null => exact iff_of_true ⟨none, rfl⟩ rfl
  | bool | string | array | object =>
    exact iff_of_false (fun ⟨_, h⟩ => nomatch h) Bool.noConfusion
  | number n =>
    rw [asOption_ofJson _ (by simp), exists_map_iff]
    cases n with
    | double d => exact iff_of_false (fun ⟨_, h⟩ => nomatch h) Bool.noConfusion
    | int n =>
      rw [ofJson, asWord, takes]
      by_cases h : 0 ≤ n ∧ n ≤ maxWord64
      · rw [if_pos h]
        exact iff_of_true ⟨_, rfl⟩ (decide_eq_true h)
      · rw [if_neg h]
        exact iff_of_false (fun ⟨_, h⟩ => nomatch h) (by simpa using h)

end InputShape

/-! ## Inputs that are left out -/

/-- The values without those of some names. -/
def LeavesOut (out : String → Bool) (values kept : List (String × Json)) : Prop :=
  ∀ name, kept.lookup name = if out name then none else values.lookup name

namespace LeavesOut

variable {α : Type} {out : String → Bool} {values kept : List (String × Json)} {name : String}
  {decode : Tree → Except DecodeFault α} {absent a : α}

/-- The trees of fields are found under their names. -/
theorem lookup_ofFields (name : String) :
    (ofFields values).lookup name = (values.lookup name).map ofJson := by
  rw [ofFields_eq_map]
  exact Fields.lookup_map _ _ _

/-- A required field holds the same without the fields that are left out. -/
theorem holds_iff (h : LeavesOut out values kept) (hname : out name = false) :
    Holds (ofFields kept) name decode a ↔ Holds (ofFields values) name decode a := by
  rw [Holds, Holds, lookup_ofFields, lookup_ofFields, h name, hname]
  exact Iff.rfl

/-- An optional field holds the same without the fields that are left out. -/
theorem holdsD_iff (h : LeavesOut out values kept) (hname : out name = false) :
    HoldsD (ofFields kept) name decode absent a ↔
      HoldsD (ofFields values) name decode absent a := by
  rw [HoldsD, HoldsD, lookup_ofFields, lookup_ofFields, h name, hname]
  exact Iff.rfl

/-- An input that may be absent can be decoded if it is not one of those that are left out, or else
if it is of its shape. -/
theorem exists_holdsD_iff {shape : InputShape} (h : LeavesOut out values kept)
    (hshape : shape.Decodes decode) (hkept : HoldsD (ofFields kept) name decode absent a) :
    (∃ a, HoldsD (ofFields values) name decode absent a) ↔
      (out name = true → ∀ v, values.lookup name = some v → shape.takes v = true) := by
  cases hname : out name with
  | false =>
    rw [h.holdsD_iff hname] at hkept
    exact iff_of_true ⟨a, hkept⟩ Bool.noConfusion
  | true =>
    unfold HoldsD
    rw [lookup_ofFields]
    cases values.lookup name with
    | none => exact iff_of_true ⟨absent, rfl⟩ fun _ _ h => nomatch h
    | some v =>
      refine (hshape v).trans ?_
      simp

/-- Null in the place of an input that has been left out is the same as nothing if its shape takes
null and null stands for the default. -/
theorem holdsD_of_null (h : LeavesOut out values kept) (hnull : decode .null = .ok absent)
    (hout : out name = true → values.lookup name = some .null)
    (hkept : HoldsD (ofFields kept) name decode absent a) :
    HoldsD (ofFields values) name decode absent a := by
  cases hname : out name with
  | false => exact (h.holdsD_iff hname).1 hkept
  | true =>
    unfold HoldsD at hkept ⊢
    rw [lookup_ofFields, h name, if_pos hname] at hkept
    rw [lookup_ofFields, hout hname, hkept]
    exact hnull

end LeavesOut

namespace Task

variable {out : String → Bool} {values kept : List (String × Json)} {kind : StepKind} {task : Task}

/-- The inputs that are left out, if they are there, have the shapes that the kind has for them. -/
def Fitting (kind : StepKind) (out : String → Bool) (values : List (String × Json)) : Prop :=
  ∀ name, out name = true →
    ∀ v, values.lookup name = some v → (kind.optionalShape name).takes v = true

/-- Values fit if the kind takes every optional one that is there. -/
theorem fitting_iff :
    Fitting kind out values ↔ ∀ entry ∈ kind.shapes, out entry.1 = true →
      ∀ v, values.lookup entry.1 = some v → entry.2.takes v = true := by
  have hnodup : (kind.shapes.map (·.1)).Nodup := by cases kind <;> decide
  constructor
  · intro h entry hmem
    have hshape : kind.optionalShape entry.1 = entry.2 := by
      rw [StepKind.optionalShape, Fields.lookup_of_mem hnodup hmem]
      rfl
    rw [← hshape]
    exact h entry.1
  · intro h name hout v hv
    rw [StepKind.optionalShape]
    cases hshape : kind.shapes.lookup name with
    | none => rfl
    | some shape => exact h _ (Fields.mem_of_lookup hshape) hout v hv

/-- What a task needs is there. -/
theorem Reads.isSome_required (h : Reads (ofFields values) kind task) :
    ∀ name ∈ kind.requiredInputs, (values.lookup name).isSome := by
  have hsome {α : Type} {name : String} {decode : Tree → Except DecodeFault α} {a : α}
      (h : Holds (ofFields values) name decode a) : (values.lookup name).isSome := by
    obtain ⟨t, ht, -⟩ := h
    rw [LeavesOut.lookup_ofFields] at ht
    obtain ⟨v, hv, -⟩ := Option.map_eq_some_iff.1 ht
    rw [hv]
    rfl
  cases h with
  | filter => exact fun _ h => nomatch h
  | collect h | log h | delay h | deleteRow h | script h | queryRows h | webhook h =>
    exact List.forall_mem_singleton.2 (hsome h)
  | createRow h h' | updateRow h h' =>
    exact List.forall_mem_cons.2 ⟨hsome h, List.forall_mem_singleton.2 (hsome h')⟩

/-- A kind whose inputs are all required, or any value, does not look at what has been left out. -/
theorem Reads.of_plain (h : LeavesOut out values kept)
    (hrequired : ∀ name ∈ kind.requiredInputs, out name = false) (hplain : kind.shapes = [])
    (hkept : Reads (ofFields kept) kind task) : Reads (ofFields values) kind task := by
  cases hkept with
  | filter | queryRows | webhook => cases hplain
  | collect hv => exact .collect ((h.holds_iff (hrequired _ (by decide))).1 hv)
  | log hv => exact .log ((h.holds_iff (hrequired _ (by decide))).1 hv)
  | delay hv => exact .delay ((h.holds_iff (hrequired _ (by decide))).1 hv)
  | deleteRow hv => exact .deleteRow ((h.holds_iff (hrequired _ (by decide))).1 hv)
  | script hv => exact .script ((h.holds_iff (hrequired _ (by decide))).1 hv)
  | createRow hv hw =>
    exact .createRow ((h.holds_iff (hrequired _ (by decide))).1 hv)
      ((h.holds_iff (hrequired _ (by decide))).1 hw)
  | updateRow hv hw =>
    exact .updateRow ((h.holds_iff (hrequired _ (by decide))).1 hv)
      ((h.holds_iff (hrequired _ (by decide))).1 hw)

/-- Inputs of which some have been left out, none of which is required, give a task together with
these exactly if these are fitting. -/
theorem exists_reads_iff (h : LeavesOut out values kept)
    (hrequired : ∀ name ∈ kind.requiredInputs, out name = false)
    (hkept : Reads (ofFields kept) kind task) :
    (∃ task, Reads (ofFields values) kind task) ↔ Fitting kind out values := by
  rw [fitting_iff]
  by_cases hplain : kind.shapes = []
  · rw [hplain]
    exact iff_of_true ⟨task, hkept.of_plain h hrequired hplain⟩ (List.forall_mem_nil _)
  cases hkept with
  | collect | log | delay | deleteRow | script | createRow | updateRow => exact absurd rfl hplain
  | filter hc ha hb =>
    obtain ⟨a, ha⟩ := (h.exists_holdsD_iff InputShape.decodes_asJson ha).2 fun _ _ _ => rfl
    obtain ⟨b, hb⟩ := (h.exists_holdsD_iff InputShape.decodes_asJson hb).2 fun _ _ _ => rfl
    have hcondition := h.exists_holdsD_iff (InputShape.decodes_asVariant _) hc
    rw [StepKind.shapes, List.forall_mem_singleton]
    refine Iff.trans ?_ hcondition
    constructor
    · rintro ⟨task, hreads⟩
      cases hreads with | filter hc => exact ⟨_, hc⟩
    · rintro ⟨c, hc⟩
      exact ⟨_, .filter hc ha hb⟩
  | queryRows ht hf hl =>
    have ht := (h.holds_iff (hrequired _ (by decide))).1 ht
    have hfilters := h.exists_holdsD_iff InputShape.decodes_asRow hf
    have hlimit := h.exists_holdsD_iff InputShape.decodes_count hl
    rw [StepKind.shapes, List.forall_mem_cons, List.forall_mem_singleton]
    refine Iff.trans ?_ (and_congr hfilters hlimit)
    constructor
    · rintro ⟨task, hreads⟩
      cases hreads with | queryRows _ hf hl => exact ⟨⟨_, hf⟩, ⟨_, hl⟩⟩
    · rintro ⟨⟨filters, hf⟩, ⟨limit, hl⟩⟩
      exact ⟨_, .queryRows ht hf hl⟩
  | webhook hu hm hh hb =>
    have hu := (h.holds_iff (hrequired _ (by decide))).1 hu
    obtain ⟨b, hb⟩ := (h.exists_holdsD_iff InputShape.decodes_asOption_asJson hb).2 fun _ _ _ => rfl
    have hmethod := h.exists_holdsD_iff (InputShape.decodes_asVariant _) hm
    have hheaders := h.exists_holdsD_iff InputShape.decodes_texts hh
    rw [StepKind.shapes, List.forall_mem_cons, List.forall_mem_singleton]
    refine Iff.trans ?_ (and_congr hmethod hheaders)
    constructor
    · rintro ⟨task, hreads⟩
      cases hreads with | webhook _ hm hh => exact ⟨⟨_, hm⟩, ⟨_, hh⟩⟩
    · rintro ⟨⟨m, hm⟩, ⟨headers, hh⟩⟩
      exact ⟨_, .webhook hu hm hh hb⟩

/-- Null in the place of inputs that have been left out is the same as nothing if their shapes take
null. -/
theorem Reads.of_null (h : LeavesOut out values kept)
    (hrequired : ∀ name ∈ kind.requiredInputs, out name = false)
    (hout : ∀ name, out name = true →
      values.lookup name = some .null ∧ (kind.optionalShape name).takes .null = true)
    (hkept : Reads (ofFields kept) kind task) : Reads (ofFields values) kind task := by
  by_cases hplain : kind.shapes = []
  · exact hkept.of_plain h hrequired hplain
  -- A shape that does not take null is that of no input that has been left out.
  have hstays {name : String} (hshape : (kind.optionalShape name).takes .null = false) :
      out name = false := by
    cases hname : out name with
    | false => rfl
    | true =>
      rw [(hout name hname).2] at hshape
      cases hshape
  have hnull (name : String) (hname : out name = true) := (hout name hname).1
  cases hkept with
  | collect | log | delay | deleteRow | script | createRow | updateRow => exact absurd rfl hplain
  | filter hc ha hb =>
    exact .filter ((h.holdsD_iff (hstays (by decide))).1 hc)
      (h.holdsD_of_null rfl (hnull _) ha) (h.holdsD_of_null rfl (hnull _) hb)
  | queryRows ht hf hl =>
    exact .queryRows ((h.holds_iff (hrequired _ (by decide))).1 ht)
      ((h.holdsD_iff (hstays (by decide))).1 hf) (h.holdsD_of_null rfl (hnull _) hl)
  | webhook hu hm hh hb =>
    exact .webhook ((h.holds_iff (hrequired _ (by decide))).1 hu)
      ((h.holdsD_iff (hstays (by decide))).1 hm) ((h.holdsD_iff (hstays (by decide))).1 hh)
      (h.holdsD_of_null rfl (hnull _) hb)

end Task

end Automation
