import Automation.Proofs.Context.Lookup
import Automation.Proofs.Json.Numeral

/-!
# Written paths

A node of a value is reached by the names of fields and the indices of items (`Json.Node`). A path
to it writes each of them as a segment, after a dot or in brackets, as `Path.Spelling` lists the
ways. The segments of a path are what was written (`Path.segments_written`), however the ways are
mixed, so the path leads to that node (`Context.lookup?_written`).

A segment does not say whether it is a name or an index. Where it leads depends on the value: in an
object it is the name of a field, and in an array a numeral (`Json.Selected`). A path whose segments
select nothing leads nowhere.
-/

namespace Automation

open Text

/-! ## Nodes -/

/-- A field of an object or an item of an array. An index is a word. -/
inductive Json.Place where
  | field (name : String)
  | item (index : UInt64)

namespace Json

/-- The node of a value that is reached by some places, one inside the other. -/
inductive Node : Json → List Place → Json → Prop
  | root (v : Json) : Node v [] v
  | field {fields : List (String × Json)} {name : String} {v node : Json} {places : List Place}
      (hv : fields.lookup name = some v) (h : Node v places node) :
      Node (.object fields) (.field name :: places) node
  | item {items : List Json} {index : UInt64} {v node : Json} {places : List Place}
      (hv : items[index.toNat]? = some v) (h : Node v places node) :
      Node (.array items) (.item index :: places) node

/-- The node of a value that some segments select: one of the fields of an object by its name, and
the item of an array whose index the segment spells. -/
inductive Selected : Json → List String → Json → Prop
  | root (v : Json) : Selected v [] v
  | field {fields : List (String × Json)} {segment : String} {v node : Json}
      {segments : List String} (hv : fields.lookup segment = some v)
      (h : Selected v segments node) : Selected (.object fields) (segment :: segments) node
  | item {items : List Json} {segment : String} {i : Nat} {v node : Json}
      {segments : List String} (hi : Path.index? segment = some i) (hv : items[i]? = some v)
      (h : Selected v segments node) : Selected (.array items) (segment :: segments) node

/-- The characters of a name, or the digits of an index. -/
def Place.chars : Place → List Char
  | field name => name.toList
  | item index => digits index.toNat

/-- A place as a segment of a path. -/
def Place.segment (p : Place) : String :=
  String.ofList p.chars

/-- The segment of a field is its name. -/
theorem Place.segment_field (name : String) : (Place.field name).segment = name :=
  String.ofList_toList

/-- The segment of an index spells the index. -/
theorem Place.index?_segment_item (index : UInt64) :
    Path.index? (Place.item index).segment = some index.toNat := by
  have hword : index.toNat ≤ maxWord64 := Nat.le_pred_of_lt index.toNat_lt
  rw [Path.index?, segment, String.toList_ofList, chars, readWord?_digits, if_pos hword]

/-- A node is selected by the segments of the places that it is reached by. -/
theorem Node.selected {v node : Json} {places : List Place} (h : Node v places node) :
    Selected v (places.map Place.segment) node := by
  induction h with
  | root => exact .root _
  | @field fields name v node places hv h ih =>
    rw [List.map_cons, Place.segment_field]
    exact .field hv ih
  | @item items index v node places hv h ih =>
    rw [List.map_cons]
    exact .item (Place.index?_segment_item index) hv ih

end Json

/-- Following segments leads to what they select. -/
theorem Path.follow?_eq_some_iff {v node : Json} {segments : List String} :
    follow? v segments = some node ↔ Json.Selected v segments node := by
  constructor
  · intro h
    induction segments generalizing v with
    | nil =>
      cases h
      exact .root _
    | cons segment rest ih =>
      obtain ⟨next, hnext, hrest⟩ := Option.bind_eq_some_iff.1 h
      cases v with
      | object fields => exact .field hnext (ih hrest)
      | array items =>
        obtain ⟨i, hi, hitem⟩ := Option.bind_eq_some_iff.1 hnext
        exact .item hi hitem (ih hrest)
      | null | bool b | number n | string s => cases hnext
  · intro h
    induction h with
    | root => rfl
    | field hv _ ih =>
      rw [follow?, step?, hv]
      exact ih
    | item hi hv _ ih =>
      rw [follow?, step?, hi, Option.bind_some, hv]
      exact ih

/-! ## Spellings -/

namespace Path

/-- A text that may stand after a dot. -/
structure Bare (cs : List Char) : Prop where
  ne_nil : cs ≠ []
  plain : ∀ c ∈ cs, c ≠ '.' ∧ c ≠ '[' ∧ isBlank c = false

/-- A quote of either kind. -/
def isQuote (c : Char) : Bool :=
  c == '"' || c == '\''

/-- A text that may stand in brackets and double quotes. -/
structure Quotable (cs : List Char) : Prop where
  ne_nil : cs ≠ []
  closed : ']' ∉ cs
  head : ∀ c ∈ cs.head?, isQuote c = false
  last : ∀ c ∈ cs.getLast?, isQuote c = false

/-- A name may be written bare if it is not empty and has no dots, opening brackets and blanks. -/
theorem bare_iff {cs : List Char} :
    Bare cs ↔ cs ≠ [] ∧ cs.all (fun c => c != '.' && c != '[' && !isBlank c) = true := by
  refine ⟨fun h => ⟨h.ne_nil, ?_⟩, fun h => ⟨h.1, ?_⟩⟩
  · simpa [and_assoc] using h.plain
  · simpa [and_assoc] using h.2

instance (cs : List Char) : Decidable (Bare cs) :=
  decidable_of_iff _ bare_iff.symm

/-- A name may be quoted if it is not empty, has no closing bracket and no quotes at its ends. -/
theorem quotable_iff {cs : List Char} :
    Quotable cs ↔ cs ≠ [] ∧ ']' ∉ cs ∧ cs.head?.all (!isQuote ·) = true ∧
      cs.getLast?.all (!isQuote ·) = true := by
  have hall (o : Option Char) : o.all (!isQuote ·) = true ↔ ∀ c ∈ o, isQuote c = false := by
    cases o <;> simp
  rw [hall, hall]
  exact ⟨fun h => ⟨h.ne_nil, h.closed, h.head, h.last⟩, fun h => ⟨h.1, h.2.1, h.2.2.1, h.2.2.2⟩⟩

instance (cs : List Char) : Decidable (Quotable cs) :=
  decidable_of_iff _ quotable_iff.symm

/-- A way of writing a place: after a dot, a name in brackets and double quotes, or an index in
brackets. -/
inductive Spelling where
  | dotted (place : Json.Place) (bare : Bare place.chars)
  | quoted (name : String) (quotable : Quotable name.toList)
  | bracketed (index : UInt64)

namespace Spelling

/-- The place that is written. -/
def place : Spelling → Json.Place
  | dotted place _ => place
  | quoted name _ => .field name
  | bracketed index => .item index

/-- The characters that are written. -/
def chars : Spelling → List Char
  | dotted place _ => '.' :: place.chars
  | quoted name _ => '[' :: ('"' :: (name.toList ++ ['"']) ++ [']'])
  | bracketed index => '[' :: (digits index.toNat ++ [']'])

end Spelling

/-- The word before the places in the trigger. -/
def triggerRoot : List Char := ['t', 'r', 'i', 'g', 'g', 'e', 'r']

/-- The path to a place in the trigger. -/
def written (spellings : List Spelling) : String :=
  String.ofList (triggerRoot ++ spellings.flatMap Spelling.chars)

/-! ## Brackets -/

/-- A bracket ends at the first closing one. -/
theorem bracketFrom_append {u : List Char} (h : ']' ∉ u) (inner v : List Char) :
    bracketFrom inner (u ++ ']' :: v) = push (bracketed (inner ++ u)) (segmentsFrom [] v) := by
  induction u generalizing inner with
  | nil => rw [List.append_nil, List.nil_append, bracketFrom]
  | cons c u ih =>
    rw [List.mem_cons, not_or] at h
    have hgo : bracketFrom inner (c :: (u ++ ']' :: v)) =
        bracketFrom (inner ++ [c]) (u ++ ']' :: v) := by
      rw [bracketFrom]
      exact fun heq => h.1 heq.symm
    rw [List.cons_append, hgo, ih h.2, List.append_assoc, List.singleton_append]

/-- Nothing is dropped from a text whose ends do not satisfy the test. -/
theorem trimBoth_eq_self {p : Char → Bool} {cs : List Char} (hhead : ∀ c ∈ cs.head?, p c = false)
    (hlast : ∀ c ∈ cs.getLast?, p c = false) : trimBoth p cs = cs := by
  have hdrop : cs.dropWhile p = cs := by
    cases cs with
    | nil => rfl
    | cons c cs => exact List.dropWhile_cons_of_neg (by simp [hhead c rfl])
  rw [trimBoth, hdrop, dropEndWhile_eq_self hlast]

/-- Double quotes around a text are dropped if the text does not start or end with a quote. -/
theorem bracketed_quoted {cs : List Char} (h : Quotable cs) :
    bracketed ('"' :: (cs ++ ['"'])) = cs := by
  have hquote {c : Char} (hc : isQuote c = false) : (c == '"') = false ∧ (c == '\'') = false :=
    Bool.or_eq_false_iff.1 hc
  have hmark : Solid ['"'] := solid_of_any (by simp) (by decide)
  have hsolid : Solid ('"' :: (cs ++ ['"'])) := hmark.append cs hmark
  have hdrop : (cs ++ ['"']).dropWhile (· == '"') = cs ++ ['"'] := by
    cases cs with
    | nil => exact absurd rfl h.ne_nil
    | cons c cs => exact List.dropWhile_cons_of_neg (by simp [(hquote (h.head c rfl)).1])
  have hdouble : trimBoth (· == '"') ('"' :: (cs ++ ['"'])) = cs := by
    rw [trimBoth, List.dropWhile_cons_of_pos (by simp), hdrop,
      dropEndWhile_append cs (by simp), dropEndWhile_eq_self fun c hc => (hquote (h.last c hc)).1]
  rw [bracketed, hsolid.trim_eq, hdouble]
  exact trimBoth_eq_self (fun c hc => (hquote (h.head c hc)).2) fun c hc => (hquote (h.last c hc)).2

/-- Digits have nothing to be dropped around them. -/
theorem bracketed_of_digits {cs : List Char} (hne : cs ≠ [])
    (h : ∀ c ∈ cs, isDigit c = true) : bracketed cs = cs := by
  have hblank : cs.any isBlank = false := by
    rw [List.any_eq_false]
    intro c hc
    simp [isBlank_of_isDigit (h c hc)]
  have hquote (q : Char) (hq : isDigit q = false) (c : Char) (hc : c ∈ cs) : (c == q) = false := by
    rw [beq_eq_false_iff_ne]
    rintro rfl
    rw [h c hc] at hq
    cases hq
  have htrim (q : Char) (hq : isDigit q = false) : trimBoth (· == q) cs = cs :=
    trimBoth_eq_self (fun c hc => hquote q hq c (List.mem_of_head? hc))
      fun c hc => hquote q hq c (List.mem_of_getLast? hc)
  rw [bracketed, (solid_of_any hne hblank).trim_eq, htrim '"' (by decide), htrim '\'' (by decide)]

/-! ## Texts that are one segment -/

/-- The text is read as one segment, whatever is in front of it, if what comes after it starts a
segment of its own. -/
def ReadAs (text segment : List Char) : Prop :=
  ∀ (v : List Char) (others : List (List Char)),
    (∀ current, segmentsFrom current v = push current others) →
      ∀ current, segmentsFrom current (text ++ v) = push current (segment :: others)

/-- A segment that stands after a dot. -/
theorem ReadAs.dotted {cs : List Char} (hne : cs ≠ []) (h : ∀ c ∈ cs, c ≠ '.' ∧ c ≠ '[') :
    ReadAs ('.' :: cs) cs := by
  intro v others hv current
  rw [List.cons_append, segmentsFrom, segmentsFrom_append h, List.nil_append, hv,
    push_of_ne_nil hne]

/-- A segment that stands in brackets, possibly with something around it that is dropped. -/
theorem ReadAs.bracketed {inner cs : List Char} (hne : cs ≠ []) (hclosed : ']' ∉ inner)
    (h : bracketed inner = cs) : ReadAs ('[' :: (inner ++ [']'])) cs := by
  intro v others hv current
  rw [List.cons_append, segmentsFrom, List.append_assoc, List.singleton_append,
    bracketFrom_append hclosed, List.nil_append, h, hv, push_of_ne_nil hne]
  rfl

/-- Texts one after the other that are read as one segment each. -/
theorem segmentsFrom_flatMap {α : Type} {text segment : α → List Char}
    (h : ∀ a, ReadAs (text a) (segment a)) (l : List α) :
    ∀ current, segmentsFrom current (l.flatMap text) = push current (l.map segment) := by
  induction l with
  | nil => exact fun _ => rfl
  | cons a l ih =>
    rw [List.flatMap_cons, List.map_cons]
    exact h a _ _ ih

/-! ## The segments of a written path -/

/-- A place that is written is a segment. -/
theorem Spelling.readAs (s : Spelling) : ReadAs s.chars s.place.chars := by
  cases s with
  | dotted place bare =>
    exact .dotted bare.ne_nil fun c hc => ⟨(bare.plain c hc).1, (bare.plain c hc).2.1⟩
  | quoted name quotable =>
    have hclosed : ']' ∉ '"' :: (name.toList ++ ['"']) := by simp [quotable.closed]
    exact .bracketed quotable.ne_nil hclosed (bracketed_quoted quotable)
  | bracketed index =>
    have hdigits := isDigit_of_mem_digits index.toNat
    have hclosed : ']' ∉ digits index.toNat := fun hmem => absurd (hdigits _ hmem) (by decide)
    exact .bracketed (digits_ne_nil _) hclosed (bracketed_of_digits (digits_ne_nil _) hdigits)

/-- What is written after a solid text leaves it solid. -/
theorem Spelling.solid_append {u : List Char} (hu : Solid u) (s : Spelling) :
    Solid (u ++ s.chars) := by
  have hbracket : Solid [']'] := solid_of_any (by simp) (by decide)
  cases s with
  | dotted place bare =>
    have hblank : place.chars.any isBlank = false := by
      rw [List.any_eq_false]
      intro c hc
      simp [(bare.plain c hc).2.2]
    exact hu.append ['.'] (solid_of_any bare.ne_nil hblank)
  | quoted name quotable => exact hu.append ('[' :: '"' :: (name.toList ++ ['"'])) hbracket
  | bracketed index => exact hu.append ('[' :: digits index.toNat) hbracket

/-- A written path has no blanks around it. -/
theorem solid_written (ss : List Spelling) : Solid (written ss).toList := by
  have hroot : Solid triggerRoot := solid_of_any (by simp [triggerRoot]) (by decide)
  have hgo (u : List Char) (hu : Solid u) : Solid (u ++ ss.flatMap Spelling.chars) := by
    induction ss generalizing u with
    | nil => rwa [List.flatMap_nil, List.append_nil]
    | cons s rest ih =>
      rw [List.flatMap_cons, ← List.append_assoc]
      exact ih _ (s.solid_append hu)
  rw [written, String.toList_ofList]
  exact hgo _ hroot

/-- The segments of a written path are the root and the places that were written. -/
theorem segments_written (ss : List Spelling) :
    segments (trim (written ss).toList) = "trigger" :: ss.map fun s => s.place.segment := by
  have hroot : ∀ c ∈ triggerRoot, c ≠ '.' ∧ c ≠ '[' := by simp [triggerRoot]
  rw [(solid_written ss).trim_eq, written, String.toList_ofList, segments,
    segmentsFrom_append hroot, List.nil_append, segmentsFrom_flatMap Spelling.readAs,
    push_of_ne_nil (by simp [triggerRoot]), List.map_cons, List.map_map]
  rfl

end Path

/-! ## Where written paths lead -/

namespace Context

variable (ctx : Context)

/-- A written path leads to the node that is reached by the places that were written, and to nothing
but what their segments select. -/
theorem lookup?_written (ss : List Path.Spelling) :
    (∀ node, Json.Node ctx.trigger (ss.map Path.Spelling.place) node →
      ctx.lookup? (Path.written ss) = some node) ∧
    (∀ node, ctx.lookup? (Path.written ss) = some node ↔
      Json.Selected ctx.trigger (ss.map fun s => s.place.segment) node) ∧
    (ctx.lookup? (Path.written ss) = none ↔
      ∀ node, ¬Json.Selected ctx.trigger (ss.map fun s => s.place.segment) node) := by
  have hselected (node : Json) : ctx.lookup? (Path.written ss) = some node ↔
      Json.Selected ctx.trigger (ss.map fun s => s.place.segment) node := by
    rw [lookup?, Path.segments_written, lookupSegments?]
    exact Path.follow?_eq_some_iff
  refine ⟨fun node h => ?_, hselected, ?_⟩
  · have hnode := h.selected
    rw [List.map_map] at hnode
    exact (hselected node).2 hnode
  · rw [Option.eq_none_iff_forall_ne_some]
    exact forall_congr' fun node => not_congr (hselected node)

/-- A path with brackets and dots to a field of the second item of an array. Written in the same way
an index that the array does not have leads nowhere. -/
theorem lookup?_written_mixed :
    let item : Json := .object [("k]", .object [("it's", .int 5)])]
    let ctx : Context :=
      { tenant := ⟨"t"⟩, trigger := .object [("a b", .array [.null, item])] }
    Json.Node ctx.trigger [.field "a b", .item 1, .field "k]", .field "it's"] (.int 5) ∧
      ctx.lookup? "trigger[\"a b\"][1].k][\"it's\"]" = some (.int 5) ∧
      ctx.lookup? "trigger[\"a b\"].7" = none := by
  intro item ctx
  have hnode : Json.Node ctx.trigger [.field "a b", .item 1, .field "k]", .field "it's"]
      (.int 5) :=
    .field rfl (.item rfl (.field rfl (.field rfl (.root _))))
  let array : Path.Spelling := .quoted "a b" (by decide)
  let path : List Path.Spelling :=
    [array, .bracketed 1, .dotted (.field "k]") (by decide),
      .quoted "it's" (by decide)]
  let beyond : List Path.Spelling := [array, .dotted (.field "7") (by decide)]
  have hpath : Path.written path = "trigger[\"a b\"][1].k][\"it's\"]" := by decide +kernel
  have hbeyond : Path.written beyond = "trigger[\"a b\"].7" := by decide +kernel
  have hnone : ∀ node, ¬Json.Selected ctx.trigger ["a b", "7"] node := by
    intro node h
    cases h with
    | field hv h =>
      cases hv
      cases h with
      | item hi hv h =>
        cases hi
        cases hv
  rw [← hpath, ← hbeyond]
  exact ⟨hnode, (lookup?_written ctx path).1 _ hnode, (lookup?_written ctx beyond).2.2.2 hnone⟩

end Context

end Automation
