import Automation.Proofs.Tree.Record

/-!
# Records with repeated entries

A mapping may have entries that are no fields of a record more than once, but no field twice
(`Record.Once`). Other than that a record asks nothing of how often names occur
(`Record.record_eq_ok_iff_once`), so only the entries under the names of the fields matter for what
is made of them (`Record.record_bind_eq_ok_iff_once`).
-/

namespace Automation.Record

variable {shapes : List FieldShape} {entries : List (String × Tree)}

/-- The entries of a mapping that have a name. -/
def named (name : String) (entries : List (String × Tree)) : List (String × Tree) :=
  entries.filter (·.1 == name)

/-- None of some names is there twice. -/
def Once (names : List String) (entries : List (String × Tree)) : Prop :=
  ∀ name ∈ names, (named name entries).length ≤ 1

/-- The first entry of a name is found under it. -/
theorem lookup_eq_named (name : String) (entries : List (String × Tree)) :
    entries.lookup name = (named name entries).head?.map (·.2) := by
  induction entries with
  | nil => rfl
  | cons entry rest ih =>
    obtain ⟨k, t⟩ := entry
    rw [named] at ih ⊢
    by_cases hname : k = name
    · subst hname
      rw [List.lookup_cons_self, List.filter_cons_of_pos (by simp)]
      rfl
    · rw [List.lookup_cons, beq_eq_false_iff_ne.2 (Ne.symm hname),
        List.filter_cons_of_neg (by simpa using hname)]
      exact ih

/-! ## Entries that are fields -/

/-- A known name stands among the known entries as often as in the mapping, any other never. -/
theorem count_known (name : String) :
    ((known shapes entries).map (·.1)).count name =
      if (shapes.find? (·.name == name)).isSome then (named name entries).length else 0 := by
  induction entries with
  | nil =>
    rw [named]
    split <;> rfl
  | cons entry rest ih =>
    rw [known, named] at ih ⊢
    rw [List.filter_cons, List.filter_cons]
    by_cases hname : entry.1 = name
    · subst hname
      cases hfind : (shapes.find? (·.name == entry.1)).isSome with
      | true =>
        rw [hfind] at ih
        simp [ih]
      | false =>
        rw [hfind] at ih
        simpa using ih
    · split
      · simpa [hname] using ih
      · simpa [hname] using ih

/-- The names of the entries that are fields differ if no field is there twice. -/
theorem nodup_known_iff :
    ((known shapes entries).map (·.1)).Nodup ↔ Once (shapes.map (·.name)) entries := by
  rw [List.nodup_iff_count, Once, List.forall_mem_map]
  constructor
  · intro h shape hshape
    have hfind : (shapes.find? (·.name == shape.name)).isSome :=
      List.find?_isSome.2 ⟨shape, hshape, beq_self_eq_true _⟩
    have hcount := h shape.name
    rwa [count_known, if_pos hfind] at hcount
  · intro h name
    rw [count_known]
    split
    · next hfind =>
      obtain ⟨shape, hshape, hname⟩ := List.find?_isSome.1 hfind
      rw [← beq_iff_eq.1 hname]
      exact h shape hshape
    · exact Nat.zero_le 1

/-- All of the known entries are known. -/
theorem known_known : known shapes (known shapes entries) = known shapes entries := by
  rw [known, known, List.filter_filter]
  simp only [Bool.and_self]

/-- Fitting depends on what is found under the names of the fields. -/
theorem Fits.congr {others : List (String × Tree)}
    (hlookup : ∀ shape ∈ shapes, others.lookup shape.name = entries.lookup shape.name)
    (h : Fits shapes entries) : Fits shapes others := by
  refine ⟨fun shape hshape => ?_, fun shape hshape => ?_⟩
  · rw [hlookup shape hshape]
    exact h.checks shape hshape
  · rw [hlookup shape hshape]
    exact h.complete shape hshape

/-- Entries that are no fields are left out. -/
theorem visit_known (seen : Record) :
    visit shapes seen (known shapes entries) = visit shapes seen entries := by
  induction entries generalizing seen with
  | nil => rfl
  | cons entry rest ih =>
    obtain ⟨name, t⟩ := entry
    rw [known] at ih ⊢
    cases hfind : shapes.find? (·.name == name) with
    | none =>
      rw [List.filter_cons_of_neg (by simp [hfind]), ih, visit, hfind]
    | some shape =>
      rw [List.filter_cons_of_pos (by simp [hfind]), visit, visit, hfind]
      simp only [ih]

/-- Where the visit finds no fault, no field comes twice. -/
theorem nodup_of_visit {seen r : Record} (h : visit shapes seen entries = .ok r)
    (hseen : (seen.map (·.1)).Nodup) : ((seen ++ known shapes entries).map (·.1)).Nodup := by
  induction entries generalizing seen with
  | nil =>
    rw [known, List.filter_nil, List.append_nil]
    exact hseen
  | cons entry rest ih =>
    obtain ⟨name, t⟩ := entry
    rw [visit] at h
    rw [known] at ih ⊢
    cases hfind : shapes.find? (·.name == name) with
    | none =>
      rw [hfind] at h
      rw [List.filter_cons_of_neg (by simp [hfind])]
      exact ih h hseen
    | some shape =>
      rw [hfind] at h
      dsimp only at h
      split at h
      · cases h
      · next hnew =>
        obtain ⟨-, -, h⟩ := bind_eq_ok_iff.1 h
        have hfresh : name ∉ seen.map (·.1) :=
          Fields.lookup_eq_none_iff.1 (Option.not_isSome_iff_eq_none.1 hnew)
        have hnodup : ((seen ++ [(name, t)]).map (·.1)).Nodup := by
          rw [List.map_append, List.nodup_append]
          refine ⟨hseen, by simp, fun other hother last hlast => ?_⟩
          rw [List.mem_singleton.1 hlast]
          rintro rfl
          exact hfresh hother
        rw [List.filter_cons_of_pos (by simp [hfind]), List.append_cons]
        exact ih h hnodup

/-! ## Decoding -/

/-- A mapping is a record exactly if its entries fit and no field is there twice. -/
theorem record_eq_ok_iff_once {title : String} {r : Record}
    (hshapes : (shapes.map (·.name)).Nodup) :
    Tree.record title shapes (.mapping entries) = .ok r ↔
      Once (shapes.map (·.name)) entries ∧ Fits shapes entries ∧ r = known shapes entries := by
  have hrecord : Tree.record title shapes (.mapping (known shapes entries)) =
      Tree.record title shapes (.mapping entries) := by
    rw [Tree.record, Tree.record, visit_known]
  have hlookup : ∀ shape ∈ shapes, (known shapes entries).lookup shape.name =
      entries.lookup shape.name := fun shape => lookup_known hshapes
  have hfits : Fits shapes (known shapes entries) ↔ Fits shapes entries :=
    ⟨.congr fun shape hshape => (hlookup shape hshape).symm, .congr hlookup⟩
  rw [← nodup_known_iff]
  constructor
  · intro h
    have hnodup : ((known shapes entries).map (·.1)).Nodup := by
      obtain ⟨seen, hseen, -⟩ := bind_eq_ok_iff.1 h
      exact nodup_of_visit hseen List.nodup_nil
    rw [← hrecord, record_eq_ok_iff hshapes hnodup, hfits, known_known] at h
    exact ⟨hnodup, h⟩
  · rintro ⟨hnodup, h⟩
    rw [← hrecord, record_eq_ok_iff hshapes hnodup, hfits, known_known]
    exact h

/-- What is made of the fields of a record is made of the entries of the mapping, if no field is
there twice. -/
theorem record_bind_eq_ok_iff_once {β : Type} {title : String}
    {build : Record → Except DecodeFault β} {b : β} (hshapes : (shapes.map (·.name)).Nodup)
    (hbuild : ∀ r : Record, (∀ name ∈ shapes.map (·.name), r.lookup name = entries.lookup name) →
      build r = build entries)
    (hfits : build entries = .ok b → Fits shapes entries) :
    (Tree.record title shapes (.mapping entries) >>= build) = .ok b ↔
      Once (shapes.map (·.name)) entries ∧ build entries = .ok b := by
  have hknown : build (known shapes entries) = build entries := by
    refine hbuild _ fun name hname => ?_
    obtain ⟨shape, hshape, rfl⟩ := List.mem_map.1 hname
    exact lookup_known hshapes hshape
  rw [bind_eq_ok_iff]
  constructor
  · rintro ⟨r, hr, hb⟩
    obtain ⟨honce, -, rfl⟩ := (record_eq_ok_iff_once hshapes).1 hr
    exact ⟨honce, by rw [← hknown, hb]⟩
  · rintro ⟨honce, hb⟩
    exact ⟨_, (record_eq_ok_iff_once hshapes).2 ⟨honce, hfits hb, rfl⟩, by rw [hknown, hb]⟩

end Automation.Record
