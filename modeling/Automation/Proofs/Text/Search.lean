import Automation.Text.Search

/-!
# Markers in texts

Removing a marker at an end undoes putting it there (`Text.stripStart?_eq_some_iff`,
`Text.stripEnd?_eq_some_iff`). A text is cut where its marker stands (`Text.cut?_eq_some`), and a
text in front of a marker is what stands before the cut, if its characters do not start the marker
(`Text.cut?_append`), or if the marker does not occur in it and does not overlap itself
(`Text.cut?_of_occurs`).
-/

namespace Automation.Text

/-- A marker is taken off the start of a text just if the text starts with it. -/
theorem stripStart?_eq_some_iff {marker cs rest : List Char} :
    stripStart? marker cs = some rest ↔ cs = marker ++ rest := by
  induction marker generalizing cs with
  | nil => rw [stripStart?, List.nil_append, Option.some_inj]
  | cons m marker ih =>
    cases cs with
    | nil => simp [stripStart?]
    | cons c cs =>
      rw [stripStart?]
      split
      · next hm => rw [ih, List.cons_append, hm, List.cons_inj_right]
      · next hm => simp [Ne.symm hm]

/-- A marker is taken off the end of a text just if the text ends in it. -/
theorem stripEnd?_eq_some_iff {marker cs rest : List Char} :
    stripEnd? marker cs = some rest ↔ cs = rest ++ marker := by
  rw [stripEnd?, Option.map_eq_some_iff]
  constructor
  · rintro ⟨tser, hstrip, rfl⟩
    have hcs := congrArg List.reverse (stripStart?_eq_some_iff.1 hstrip)
    rwa [List.reverse_reverse, List.reverse_append, List.reverse_reverse] at hcs
  · rintro rfl
    exact ⟨rest.reverse, stripStart?_eq_some_iff.2 (List.reverse_append ..),
      List.reverse_reverse rest⟩

/-- A marker that has been put in front is taken off again. -/
theorem stripStart?_append (marker rest : List Char) :
    stripStart? marker (marker ++ rest) = some rest :=
  stripStart?_eq_some_iff.2 rfl

/-- A marker that has been put at the end is taken off again. -/
theorem stripEnd?_append (rest marker : List Char) :
    stripEnd? marker (rest ++ marker) = some rest :=
  stripEnd?_eq_some_iff.2 rfl

/-- A marker that does not stand at the start is not removed there. -/
theorem stripStartAll_of_none {marker cs : List Char} (h : stripStart? marker cs = none)
    (fuel : Nat) : stripStartAll marker fuel cs = cs := by
  cases fuel with
  | zero => rfl
  | succ fuel =>
    unfold stripStartAll
    rw [h]
    cases marker <;> rfl

/-- A text is cut at a place where the marker stands. -/
theorem cut?_eq_some {marker cs before after : List Char}
    (h : cut? marker cs = some (before, after)) : cs = before ++ (marker ++ after) := by
  induction cs generalizing before with
  | nil =>
    rw [cut?] at h
    split at h
    · next hempty =>
      cases h
      rw [List.isEmpty_iff.1 hempty]
      rfl
    · cases h
  | cons c cs ih =>
    rw [cut?] at h
    split at h
    · next rest hstrip =>
      cases h
      rw [stripStart?_eq_some_iff.1 hstrip]
      rfl
    · obtain ⟨⟨before', after'⟩, hcut, heq⟩ := Option.map_eq_some_iff.1 h
      cases heq
      exact congrArg (c :: ·) (ih hcut)

/-- A marker occurs in a text that it is a part of. -/
theorem occurs_iff {marker cs : List Char} :
    occurs marker cs = true ↔ ∃ before after, cs = before ++ (marker ++ after) := by
  rw [occurs, Option.isSome_iff_exists]
  constructor
  · rintro ⟨⟨before, after⟩, hcut⟩
    exact ⟨before, after, cut?_eq_some hcut⟩
  · rintro ⟨before, after, rfl⟩
    induction before with
    | nil =>
      cases marker with
      | nil => cases after <;> exact ⟨_, rfl⟩
      | cons m marker =>
        have hstrip := stripStart?_append (m :: marker) after
        rw [List.cons_append] at hstrip
        rw [List.nil_append, List.cons_append, cut?, hstrip]
        exact ⟨_, rfl⟩
    | cons c before ih =>
      obtain ⟨⟨u, v⟩, hcut⟩ := ih
      rw [List.cons_append, cut?]
      split
      · exact ⟨_, rfl⟩
      · rw [hcut]
        exact ⟨_, rfl⟩

/-- A text is not cut at a marker whose first character it does not have. -/
theorem cut?_eq_none {m : Char} {marker cs : List Char} (h : m ∉ cs) :
    cut? (m :: marker) cs = none := by
  cases hcut : cut? (m :: marker) cs with
  | none => rfl
  | some parts =>
    have hcs := cut?_eq_some hcut
    exact absurd (by simp [hcs]) h

/-- A text is cut behind a part in which the marker does not start. -/
theorem cut?_append_of_not_mem {m : Char} {marker u : List Char} (h : m ∉ u) (cs : List Char) :
    cut? (m :: marker) (u ++ cs) =
      (cut? (m :: marker) cs).map fun (before, after) => (u ++ before, after) := by
  induction u with
  | nil => exact Option.map_id'.symm
  | cons c u ih =>
    have hne : m ≠ c := fun hm => h (hm ▸ List.mem_cons_self ..)
    rw [List.cons_append, cut?, stripStart?, if_neg hne]
    dsimp only
    rw [ih fun hmem => h (List.mem_cons_of_mem _ hmem), Option.map_map]
    rfl

/-- A text is cut at a marker if that does not start in the text before it. -/
theorem cut?_append {m : Char} {marker u : List Char} (h : m ∉ u) (v : List Char) :
    cut? (m :: marker) (u ++ (m :: marker ++ v)) = some (u, v) := by
  have hstrip := stripStart?_append (m :: marker) v
  rw [List.cons_append] at hstrip
  have hfirst : cut? (m :: marker) (m :: marker ++ v) = some ([], v) := by
    rw [List.cons_append, cut?, hstrip]
  rw [cut?_append_of_not_mem h, hfirst, Option.map_some]
  dsimp only
  rw [List.append_nil]

/-- A marker that does not occur in a text does not occur in the rest of it. -/
theorem occurs_of_cons {marker cs : List Char} {c : Char} (h : occurs marker (c :: cs) = false) :
    occurs marker cs = false := by
  rw [Bool.eq_false_iff, ne_eq, occurs_iff] at h ⊢
  rintro ⟨before, after, rfl⟩
  exact h ⟨c :: before, after, rfl⟩

/-- A text is cut at a marker that does not occur in the text before it, if the first character of
the marker is not repeated in it: then no marker starts in that text and ends after it. -/
theorem cut?_of_occurs {m : Char} {marker u : List Char} (hm : m ∉ marker)
    (h : occurs (m :: marker) u = false) (v : List Char) :
    cut? (m :: marker) (u ++ (m :: marker ++ v)) = some (u, v) := by
  induction u with
  | nil => exact cut?_append (List.not_mem_nil) v
  | cons c u ih =>
    have hnone : stripStart? (m :: marker) (c :: (u ++ (m :: marker ++ v))) = none := by
      refine Option.eq_none_iff_forall_ne_some.2 fun rest hrest => ?_
      have heq : c :: (u ++ (m :: marker ++ v)) = m :: (marker ++ rest) :=
        stripStart?_eq_some_iff.1 hrest
      obtain ⟨rfl, heq⟩ := List.cons.inj heq
      obtain ⟨a, hmarker, htail⟩ | ⟨a, rfl, -⟩ := List.append_eq_append_iff.1 heq
      · cases a with
        | nil =>
          rw [List.append_nil] at hmarker
          rw [Bool.eq_false_iff, ne_eq, occurs_iff] at h
          exact h ⟨[], [], by simp [hmarker]⟩
        | cons d a =>
          obtain ⟨rfl, -⟩ := List.cons.inj htail
          exact hm (by simp [hmarker])
      · rw [Bool.eq_false_iff, ne_eq, occurs_iff] at h
        exact h ⟨[], a, rfl⟩
    rw [List.cons_append, cut?, hnone]
    dsimp only
    rw [ih (occurs_of_cons h)]
    rfl

end Automation.Text
