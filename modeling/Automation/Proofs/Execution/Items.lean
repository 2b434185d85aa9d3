import Automation.Execution.Loop
import Automation.Proofs.Text.Pieces

/-!
# The items of texts

A loop over a text goes over its items. `Execution.Delimited` says how a text is written for some
items: in cells, with a separator between every two of them, where a cell is blank or holds an item
with blanks around it. If the separator is one character, the items of a text are those that it is
written for, and no others (`Execution.collectionItems_text`). The separator may be a blank; then
the blanks around an item may hold separators too. Whatever the separator is, the items are solid
and do not have it in them.
-/

namespace Automation.Execution

open Text

/-- The cells of some items, in order. There may be blank cells anywhere. -/
inductive Cells : List String → List (List Char) → Prop
  | nil : Cells [] []
  | blank {items : List String} {cells : List (List Char)} {b : List Char} (hb : Blanks b)
      (rest : Cells items cells) : Cells items (b :: cells)
  | item {items : List String} {cells : List (List Char)} {item : String} {b d : List Char}
      (hb : Blanks b) (hd : Blanks d) (rest : Cells items cells) :
      Cells (item :: items) ((b ++ (item.toList ++ d)) :: cells)

/-- The text is written for some items, which are solid and do not have the separator in them. -/
structure Delimited (sep : Char) (items : List String) (text : String) : Prop where
  cells : ∃ cells, Cells items cells ∧ text.toList = [sep].intercalate cells
  solid : ∀ item ∈ items, Solid item.toList
  free : ∀ item ∈ items, sep ∉ item.toList

section
variable {sep : Char} {items : List String} {cells : List (List Char)}

/-- The items of a text are the cores of its pieces. An empty separator cuts nothing. -/
theorem textItems_eq (separator text : String) :
    textItems separator text =
      (cores (pieces separator.toList text.toList)).map String.ofList := by
  unfold textItems cores
  by_cases h : separator = ""
  · subst h
    rfl
  · rw [if_neg (by simpa using h)]

/-- The items of a text between single characters are the cores of its pieces. -/
theorem textItems_singleton (sep : Char) (text : String) :
    textItems (String.singleton sep) text =
      (cores (text.toList.splitOn sep)).map String.ofList := by
  rw [textItems_eq, String.toList_singleton, pieces_singleton]

/-- Splitting at the separator goes through one cell after the other. -/
theorem cores_splitOn_intercalate (cell : List Char) (cells : List (List Char)) :
    cores (([sep].intercalate (cell :: cells)).splitOn sep) =
      cores (cell.splitOn sep) ++ cores (([sep].intercalate cells).splitOn sep) := by
  cases cells with
  | nil =>
    rw [List.intercalate_singleton, List.intercalate_nil, cores_splitOn_blanks blanks_nil,
      List.append_nil]
  | cons next cells =>
    rw [List.intercalate_cons_cons, List.append_assoc, List.singleton_append,
      List.splitOn_append_cons_self, cores_append]

/-- The cores of the pieces of cells are the items. -/
theorem Cells.cores_eq (h : Cells items cells) (hsolid : ∀ item ∈ items, Solid item.toList)
    (hfree : ∀ item ∈ items, sep ∉ item.toList) :
    cores (([sep].intercalate cells).splitOn sep) = items.map String.toList := by
  induction h with
  | nil => rfl
  | blank hb _ ih =>
    rw [cores_splitOn_intercalate, cores_splitOn_blanks hb, ih hsolid hfree, List.nil_append]
  | item hb hd _ ih =>
    obtain ⟨hitem, hrest⟩ := List.forall_mem_cons.1 hsolid
    obtain ⟨hnot, hothers⟩ := List.forall_mem_cons.1 hfree
    rw [cores_splitOn_intercalate, cores_splitOn_append hb, cores_splitOn_solid hitem hnot hd,
      ih hrest hothers]
    rfl

/-- All texts are cells of their cores. -/
theorem cells_cores (texts : List (List Char)) :
    Cells ((cores texts).map String.ofList) texts := by
  induction texts with
  | nil => exact .nil
  | cons first rest ih =>
    obtain ⟨b, d, hb, hd, hfirst, -⟩ := exists_around_trim first
    by_cases hnil : trim first = []
    · rw [cores_cons_of_nil hnil]
      refine .blank ?_ ih
      rw [hfirst, hnil]
      exact List.forall_mem_append.2 ⟨hb, hd⟩
    · rw [cores_cons_of_ne hnil, List.map_cons]
      have hcell : first = b ++ ((String.ofList (trim first)).toList ++ d) := by
        rw [String.toList_ofList]
        exact hfirst
      generalize String.ofList (trim first) = item at hcell ⊢
      subst hcell
      exact .item hb hd ih

/-- The items of a text are those that it is written for. -/
theorem textItems_eq_iff {text : String} :
    textItems (String.singleton sep) text = items ↔ Delimited sep items text := by
  rw [textItems_singleton]
  constructor
  · rintro rfl
    have hcore {item : String}
        (h : item ∈ (cores (text.toList.splitOn sep)).map String.ofList) :
        Solid item.toList ∧ sep ∉ item.toList := by
      obtain ⟨core, hmem, rfl⟩ := List.mem_map.1 h
      obtain ⟨hsolid, piece, hpiece, rfl⟩ := mem_cores hmem
      rw [← pieces_singleton] at hpiece
      have hfree := occurs_trim (occurs_of_mem_pieces (List.cons_ne_nil sep []) hpiece)
      rw [String.toList_ofList]
      exact ⟨hsolid, occurs_singleton_eq_false.1 hfree⟩
    exact ⟨⟨_, cells_cores _, (List.intercalate_splitOn sep).symm⟩, fun _ h => (hcore h).1,
      fun _ h => (hcore h).2⟩
  · rintro ⟨⟨cells, hcells, htext⟩, hsolid, hfree⟩
    rw [htext, hcells.cores_eq hsolid hfree, List.map_map]
    exact (List.map_congr_left fun _ _ => String.ofList_toList).trans (List.map_id items)

end

/-- A loop over a text goes over the items that the text is written for, if the separator is one
character. Whatever the separator is, a text is a collection, and its items are solid and do not
have the separator in them unless that is empty. -/
theorem collectionItems_text (text : String) :
    (∀ (sep : Char) (items : List String),
      collectionItems (.string text) (String.singleton sep) = .ok (items.map .string) ↔
        Delimited sep items text) ∧
    ∀ separator : String, ∃ items : List String,
      collectionItems (.string text) separator = .ok (items.map .string) ∧
        ∀ item ∈ items, Solid item.toList ∧
          (separator ≠ "" → occurs separator.toList item.toList = false) := by
  constructor
  · intro sep items
    rw [← textItems_eq_iff, collectionItems, Except.ok.injEq]
    exact List.map_inj_right fun _ _ h => Json.string.inj h
  · intro separator
    refine ⟨textItems separator text, rfl, fun item hitem => ?_⟩
    rw [textItems_eq] at hitem
    obtain ⟨core, hmem, rfl⟩ := List.mem_map.1 hitem
    obtain ⟨hsolid, piece, hpiece, rfl⟩ := mem_cores hmem
    rw [String.toList_ofList]
    refine ⟨hsolid, fun hne => ?_⟩
    exact occurs_trim (occurs_of_mem_pieces (by simpa using hne) hpiece)

/-- The separator is a blank, and one of the items has another blank in it. -/
example : textItems "\n" " a \n \n\tb c\n" = ["a", "b c"] := by decide +kernel

end Automation.Execution
