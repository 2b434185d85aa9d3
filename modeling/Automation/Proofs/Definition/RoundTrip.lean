import Automation.Proofs.Definition.Layout
import Automation.Proofs.Json.RoundTrip

/-!
# Definitions as texts

The text of a definition has the entries of all its records in a fixed order, and the inputs of each
step and the filter of the trigger in theirs. If the values in the definition are ones that a text
can hold (`Definition.Readable`), its tree is (`Definition.fits_toTree`), and then reading the text
gives the same definition again (`Definition.readTree?_text`).
-/

namespace Automation

open Automation.Tree
open Json (maxDepth)

namespace Tree

variable {depth : Nat}

/-- Items fit if each of them does. -/
theorem fitsItems_iff {items : List Tree} :
    FitsItems depth items ↔ ∀ item ∈ items, item.Fits depth := by
  induction items with
  | nil => simp [FitsItems]
  | cons item rest ih => rw [FitsItems, ih, List.forall_mem_cons]

/-- Entries fit if the value of each does. -/
theorem fitsEntries_iff {entries : List (String × Tree)} :
    FitsEntries depth entries ↔ ∀ entry ∈ entries, entry.2.Fits depth := by
  induction entries with
  | nil => simp [FitsEntries]
  | cons entry rest ih =>
    obtain ⟨name, value⟩ := entry
    rw [FitsEntries, ih, List.forall_mem_cons]

/-- Entries fit if their values do, one level further in. -/
theorem fits_ofEntries {entries : List (String × Json)} (hdepth : 0 < depth)
    (h : ∀ entry ∈ entries, entry.2.Fits (depth - 1)) : (ofEntries entries).Fits depth := by
  refine ⟨hdepth, fitsEntries_iff.2 fun entry hentry => ?_⟩
  obtain ⟨field, hfield, rfl⟩ := List.mem_map.1 hentry
  exact Json.fits_ofJson _ _ (h field hfield)

/-- The tree of a word fits at any depth. -/
theorem fits_ofNat {n : Nat} (h : n ≤ Text.maxWord32) : (ofNat n).Fits depth := by
  have hn : n < Nat.pow 2 64 := Nat.lt_of_le_of_lt h (by decide)
  exact ⟨by omega, Int.ofNat_lt.2 hn⟩

end Tree

/-- The input of a loop can be read where containers may be nested so deep. -/
theorem Loop.fits_toTree {l : Loop} {depth : Nat} (hl : l.WellFormed) (hdepth : 0 < depth)
    (h : l.input.Fits (depth - 1)) : l.toTree.Fits depth := by
  refine ⟨hdepth, fitsEntries_iff.2 ?_⟩
  simp only [List.forall_mem_cons, List.forall_mem_append, forall_mem_entry?]
  exact ⟨Json.fits_ofJson _ _ h,
    ⟨fun _ _ => trivial, fun n hn => fits_ofNat (hl.maxIterations n hn)⟩, fun _ _ => trivial⟩

/-- The values in a step can be read where containers may be nested so deep: its inputs and the
input of its loop. -/
structure Step.Readable (s : Step) (depth : Nat) : Prop where
  inputs : ∀ entry ∈ s.inputs.list, entry.2.Fits depth
  loop : ∀ l ∈ s.loop, l.input.Fits depth

/-- The tree of a step fits if the values in the step do. -/
theorem Step.fits_toTree {s : Step} {depth : Nat} (hs : s.WellFormed) (hdepth : 1 < depth)
    (h : s.Readable (depth - 2)) : s.toTree.Fits depth := by
  have hinner : 0 < depth - 1 := Nat.sub_pos_of_lt hdepth
  refine ⟨Nat.lt_trans Nat.zero_lt_one hdepth, fitsEntries_iff.2 ?_⟩
  simp only [List.forall_mem_cons, List.forall_mem_append, forall_mem_entry?]
  exact ⟨⟨trivial, trivial, fits_ofEntries hinner h.inputs, List.forall_mem_nil _⟩,
    fun l hl => Loop.fits_toTree (hs.loop l hl) hinner (h.loop l hl), fun _ _ => trivial⟩

/-- The tree of a trigger fits if the values of its filter do. -/
theorem Trigger.fits_toTree {t : Trigger} {depth : Nat} (hdepth : 1 < depth)
    (h : ∀ entry ∈ t.filter.list, entry.2.Fits (depth - 2)) : t.toTree.Fits depth := by
  refine ⟨Nat.lt_trans Nat.zero_lt_one hdepth, fitsEntries_iff.2 ?_⟩
  rw [List.forall_mem_cons]
  refine ⟨trivial, ?_⟩
  split
  · exact List.forall_mem_nil _
  · exact List.forall_mem_singleton.2 (fits_ofEntries (Nat.sub_pos_of_lt hdepth) h)

namespace Definition

/-- The values in a definition can be read: their numbers are integers of 64 bits, and they are
nested no deeper than is left for them inside the definition. A filter is three levels in, inputs
are four. -/
structure Readable (d : Definition) : Prop where
  filter : ∀ entry ∈ d.trigger.filter.list, entry.2.Fits (maxDepth - 3)
  steps : ∀ s ∈ d.steps, s.Readable (maxDepth - 4)

/-- The tree of a definition that can be read fits. -/
theorem fits_toTree {d : Definition} (hd : d.WellFormed) (h : d.Readable) :
    d.toTree.Fits maxDepth := by
  have hsteps : ∀ t ∈ d.steps.map Step.toTree, t.Fits (maxDepth - 2) := by
    intro t ht
    obtain ⟨s, hs, rfl⟩ := List.mem_map.1 ht
    exact Step.fits_toTree (hd.steps s hs) (by decide) (h.steps s hs)
  refine ⟨by decide, fitsEntries_iff.2 ?_⟩
  simp only [List.forall_mem_cons, List.forall_mem_append, forall_mem_entry?]
  exact ⟨⟨trivial, trivial, List.forall_mem_nil _⟩, fun _ _ => trivial,
    Trigger.fits_toTree (by decide) h.filter, ⟨rfl, by decide, fitsItems_iff.2 hsteps⟩,
    List.forall_mem_nil _⟩

/-- A definition is what its text is read to, with the inputs of its steps and the filter of its
trigger in their order. -/
theorem readTree?_text {d : Definition} (hd : d.WellFormed) (h : d.Readable) :
    (Json.readTree? d.toTree.text.toList).map ofTree = some (.ok d) := by
  rw [text, String.toList_ofList, Json.readTree?_write (fits_toTree hd h), Option.map_some,
    ofTree_toTree hd]

/-- A definition whose inputs and filter are out of order, with a loop over null that has no
separator. -/
theorem readTree?_text_loop :
    let step : Step :=
      { id := "a", kind := .queryRows,
        inputs :=
          ⟨[("table_id", .string "t\n"), ("filters", .object [("n", .int (-1)), ("x", .null)])],
            by decide⟩,
        loop := some { input := .null, maxIterations := some 0 } }
    let d : Definition :=
      { id := "au", tenant := ⟨"t"⟩, steps := [step, { id := "b", kind := .filter }],
        trigger := {
          event := .rowCreated, filter := ⟨[("z", .array []), ("a", .bool true)], by decide⟩ } }
    (d.WellFormed ∧ d.Readable) ∧
      (Json.readTree? d.toTree.text.toList).map ofTree = some (.ok d) := by
  intro step d
  have hinputs : ∀ entry ∈ step.inputs.list, entry.2.Fits (maxDepth - 4) := by
    refine List.forall_mem_cons.2 ⟨trivial, List.forall_mem_singleton.2 ⟨by decide, ?_, ?_⟩⟩
    · exact Fields.ofList_eq_self_iff.1 rfl
    · exact ⟨⟨by decide, by decide⟩, trivial, trivial⟩
  have hfilter : ∀ entry ∈ d.trigger.filter.list, entry.2.Fits (maxDepth - 3) :=
    List.forall_mem_cons.2 ⟨⟨by decide, trivial⟩, List.forall_mem_singleton.2 trivial⟩
  have hstep : step.WellFormed := by
    refine ⟨fun entry hentry => Json.sorted_of_fits _ _ (hinputs entry hentry), ?_⟩
    rintro l ⟨⟩
    exact ⟨trivial, by simp [Text.maxWord32]⟩
  have hd : d.WellFormed := by
    refine ⟨fun entry hentry => Json.sorted_of_fits _ _ (hfilter entry hentry),
      List.forall_mem_cons.2 ⟨hstep, List.forall_mem_singleton.2 ⟨?_, ?_⟩⟩⟩
    · exact List.forall_mem_nil _
    · exact fun _ hmem => nomatch hmem
  have hreadable : d.Readable := by
    refine ⟨hfilter, List.forall_mem_cons.2 ⟨⟨hinputs, ?_⟩, List.forall_mem_singleton.2 ⟨?_, ?_⟩⟩⟩
    · rintro l ⟨⟩
      exact trivial
    · exact List.forall_mem_nil _
    · exact fun _ hmem => nomatch hmem
  exact ⟨⟨hd, hreadable⟩, readTree?_text hd hreadable⟩

end Definition

end Automation
