import Automation.Proofs.Fields

/-!
# Fields in order

The operations on fields keep their names in strictly ascending order (`Fields.ordered_insert`,
`Fields.ordered_ofList`, `Fields.Ordered.filter`). Fields in order are determined by what is found
under their names (`Fields.Ordered.ext`). Sorting entries with different names rearranges them
(`Fields.perm_ofList`), and changes nothing exactly if they are in order
(`Fields.ofList_eq_self_iff`).
-/

namespace Automation.Fields

variable {α : Type}

/-! ## Keeping the order -/

/-- The fields after an insertion are the new one and some of the old ones. -/
theorem mem_insert {name : String} {value : α} {field : String × α} {fields : List (String × α)}
    (h : field ∈ insert name value fields) : field = (name, value) ∨ field ∈ fields := by
  induction fields with
  | nil => exact .inl (List.mem_singleton.1 h)
  | cons first rest ih =>
    obtain ⟨k, v⟩ := first
    rw [insert] at h
    split at h
    · exact (List.mem_cons.1 h).imp_right (List.mem_cons_of_mem _)
    · split at h
      · exact List.mem_cons.1 h
      · rcases List.mem_cons.1 h with hfirst | hrest
        · exact .inr (hfirst ▸ List.mem_cons_self ..)
        · exact (ih hrest).imp_right (List.mem_cons_of_mem _)

/-- An insertion keeps the names in order. -/
theorem ordered_insert (name : String) (value : α) {fields : List (String × α)}
    (h : Ordered fields) : Ordered (insert name value fields) := by
  induction fields with
  | nil => exact List.pairwise_singleton _ _
  | cons first rest ih =>
    obtain ⟨k, v⟩ := first
    obtain ⟨hfirst, hrest⟩ := List.pairwise_cons.1 h
    rw [insert]
    split
    · next hname =>
      subst hname
      exact List.pairwise_cons.2 ⟨hfirst, hrest⟩
    · next hne =>
      split
      · next hbefore =>
        refine List.pairwise_cons.2 ⟨fun field hfield => ?_, h⟩
        rcases List.mem_cons.1 hfield with rfl | hmem
        · exact hbefore
        · exact Text.before_trans hbefore (hfirst field hmem)
      · next hafter =>
        refine List.pairwise_cons.2 ⟨fun field hfield => ?_, ih hrest⟩
        rcases mem_insert hfield with rfl | hmem
        · rcases Text.before_total k name with hkn | hkn | hnk
          · exact hkn
          · exact absurd hkn.symm hne
          · exact absurd hnk hafter
        · exact hfirst field hmem

/-- Fields stay in order when entries are put into them. -/
theorem Ordered.foldl_insert {fields : List (String × α)} (h : Ordered fields)
    (entries : List (String × α)) :
    Ordered (entries.foldl (fun fields (k, v) => insert k v fields) fields) := by
  induction entries generalizing fields with
  | nil => exact h
  | cons entry rest ih => exact ih (ordered_insert _ _ h)

/-- Entries that have been put into an object are in order. -/
theorem ordered_ofList (entries : List (String × α)) : Ordered (ofList entries) :=
  Ordered.foldl_insert .nil entries

/-- Some of the fields of an object in order are in order. -/
theorem Ordered.filter {fields : List (String × α)} (h : Ordered fields)
    (p : String × α → Bool) : Ordered (fields.filter p) :=
  List.Pairwise.filter p h

/-- Fields in order stay so without one of them. -/
theorem Ordered.erase {fields : List (String × α)} (h : Ordered fields) (name : String) :
    Ordered (Fields.erase name fields) :=
  h.filter _

/-! ## What the order determines -/

/-- Names that are in order are all different. -/
theorem Ordered.nodup {fields : List (String × α)} (h : Ordered fields) :
    (fields.map (·.1)).Nodup := by
  refine List.pairwise_map.2 (List.Pairwise.imp (fun {a b} hab heq => ?_) h)
  rw [heq, Text.before_irrefl] at hab
  cases hab

/-- A name that comes before those of the fields is none of them. -/
theorem lookup_of_before {name : String} {fields : List (String × α)}
    (h : ∀ field ∈ fields, Text.before name field.1 = true) : fields.lookup name = none := by
  rw [lookup_eq_none_iff]
  intro hmem
  obtain ⟨field, hfield, rfl⟩ := List.mem_map.1 hmem
  have hself := h field hfield
  rw [Text.before_irrefl] at hself
  cases hself

/-- Fields in order with the same values under all names are the same. -/
theorem Ordered.ext {fields others : List (String × α)} (h : Ordered fields)
    (h' : Ordered others) (hsame : ∀ name, fields.lookup name = others.lookup name) :
    fields = others := by
  induction fields generalizing others with
  | nil =>
    cases others with
    | nil => rfl
    | cons other rest =>
      have hother := hsame other.1
      rw [List.lookup_cons_self] at hother
      cases hother
  | cons first rest ih =>
    cases others with
    | nil =>
      have hfirst := hsame first.1
      rw [List.lookup_cons_self] at hfirst
      cases hfirst
    | cons other rest' =>
      obtain ⟨k, v⟩ := first
      obtain ⟨l, w⟩ := other
      obtain ⟨hk, hrest⟩ := List.pairwise_cons.1 h
      obtain ⟨hl, hrest'⟩ := List.pairwise_cons.1 h'
      have habsent {a b : String} {u : α} {more : List (String × α)}
          (hab : Text.before a b = true) (hmore : ∀ field ∈ more, Text.before b field.1 = true) :
          ((b, u) :: more).lookup a = none := by
        refine lookup_of_before fun field hfield => ?_
        rcases List.mem_cons.1 hfield with rfl | hmem
        · exact hab
        · exact Text.before_trans hab (hmore field hmem)
      -- The first names agree, because each is found in the other fields too.
      rcases Text.before_total k l with hkl | rfl | hlk
      · have hfirst := hsame k
        rw [List.lookup_cons_self, habsent hkl hl] at hfirst
        cases hfirst
      · have hvalue := hsame k
        rw [List.lookup_cons_self, List.lookup_cons_self] at hvalue
        cases hvalue
        have htail : rest = rest' := by
          refine ih hrest hrest' fun name => ?_
          by_cases hname : name = k
          · subst hname
            rw [lookup_of_before hk, lookup_of_before hl]
          · have hboth := hsame name
            rwa [List.lookup_cons, List.lookup_cons, beq_eq_false_iff_ne.2 hname] at hboth
        rw [htail]
      · have hother := hsame l
        rw [List.lookup_cons_self, habsent hlk hk] at hother
        cases hother

/-- Fields that are in order are not moved when they are put into an object. -/
theorem ofList_of_ordered {fields : List (String × α)} (h : Ordered fields) :
    ofList fields = fields :=
  (ordered_ofList fields).ext h (lookup_ofList h.nodup)

/-- Sorting changes nothing exactly if the entries are in order already. -/
theorem ofList_eq_self_iff {entries : List (String × α)} :
    ofList entries = entries ↔ Ordered entries :=
  ⟨fun h => h ▸ ordered_ofList entries, ofList_of_ordered⟩

/-! ## What sorting keeps -/

/-- A new name is put somewhere among the others. -/
theorem perm_insert {name : String} {fields : List (String × α)}
    (h : name ∉ fields.map (·.1)) (value : α) :
    (insert name value fields).Perm ((name, value) :: fields) := by
  induction fields with
  | nil => exact .refl _
  | cons first rest ih =>
    obtain ⟨k, v⟩ := first
    rw [List.map_cons, List.mem_cons, not_or] at h
    rw [insert, if_neg h.1]
    split
    · exact .refl _
    · exact ((ih h.2).cons _).trans (.swap ..)

/-- Sorting rearranges entries with different names. -/
theorem perm_ofList {entries : List (String × α)} (h : (entries.map (·.1)).Nodup) :
    (ofList entries).Perm entries := by
  have hfold : ∀ sorted : List (String × α), ((sorted ++ entries).map (·.1)).Nodup →
      (entries.foldl (fun fields (k, v) => insert k v fields) sorted).Perm (sorted ++ entries) := by
    induction entries with
    | nil =>
      intro sorted _
      rw [List.append_nil]
      exact .refl _
    | cons entry rest ih =>
      intro sorted hnodup
      obtain ⟨k, v⟩ := entry
      have hmiddle : (sorted ++ (k, v) :: rest).Perm ((k, v) :: sorted ++ rest) :=
        List.perm_middle
      have hnew : k ∉ sorted.map (·.1) := by
        have hcons := (hmiddle.map (·.1)).nodup hnodup
        rw [List.cons_append, List.map_cons, List.map_append] at hcons
        exact fun hmem => (List.nodup_cons.1 hcons).1 (List.mem_append_left _ hmem)
      have hinsert : (insert k v sorted ++ rest).Perm ((k, v) :: sorted ++ rest) :=
        (perm_insert hnew v).append_right rest
      have hnext := hinsert.trans hmiddle.symm
      exact (ih (List.nodup_cons.1 h).2 _ ((hnext.map (·.1)).symm.nodup hnodup)).trans hnext
  exact hfold [] h

/-! ## What is found -/

/-- What is found after entries have been put into fields. -/
theorem lookup_foldl_insert {entries : List (String × α)} (h : (entries.map (·.1)).Nodup)
    (fields : List (String × α)) (name : String) :
    (entries.foldl (fun fields (k, v) => insert k v fields) fields).lookup name =
      (entries.lookup name).or (fields.lookup name) := by
  induction entries generalizing fields with
  | nil => rfl
  | cons entry rest ih =>
    obtain ⟨k, v⟩ := entry
    obtain ⟨hfirst, hrest⟩ := List.nodup_cons.1 h
    rw [List.foldl_cons, ih hrest, List.lookup_cons]
    by_cases hname : name = k
    · subst hname
      rw [lookup_eq_none_iff.2 hfirst, lookup_insert_self, beq_self_eq_true]
      rfl
    · rw [lookup_insert_ne hname, beq_eq_false_iff_ne.2 hname]

/-- What is found after a name was removed. -/
theorem lookup_erase (name other : String) (fields : List (String × α)) :
    (erase name fields).lookup other = if other = name then none else fields.lookup other := by
  split
  · next hsame =>
    rw [lookup_eq_none_iff]
    intro hmem
    obtain ⟨field, hfield, hname⟩ := List.mem_map.1 hmem
    have hne := (List.mem_filter.1 hfield).2
    exact absurd (hname.trans hsame) (of_decide_eq_true hne)
  · next hother =>
    induction fields with
    | nil => rfl
    | cons first rest ih =>
      obtain ⟨k, v⟩ := first
      rw [erase] at ih ⊢
      by_cases hk : k = name
      · subst hk
        rw [List.filter_cons_of_neg (by simp), ih, List.lookup_cons,
          beq_eq_false_iff_ne.2 hother]
      · rw [List.filter_cons_of_pos (by simpa using hk), List.lookup_cons, List.lookup_cons, ih]

end Automation.Fields
