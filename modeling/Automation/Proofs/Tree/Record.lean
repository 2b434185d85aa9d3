import Automation.Proofs.Fields.Order
import Automation.Proofs.Result
import Automation.Tree.Decode

/-!
# Decoding records

A mapping whose names differ is decoded as a record if its entries fit the fields
(`Record.Fits`): every field that is there passes its own check, and the required fields are there.
Nothing else is asked for, in particular nothing of entries that are no fields
(`Record.record_eq_ok_iff`). The record then has under the name of each field what the mapping has
there (`Record.Fits.record`).
-/

namespace Automation

namespace FieldShape

/-- A result that is not looked at is there if there is any. -/
theorem discard_eq_ok_iff {ε α : Type} {x : Except ε α} :
    (discard x : Except ε Unit) = .ok () ↔ ∃ a, x = .ok a := by
  cases x with
  | error fault =>
    constructor
    · intro h
      cases h
    · rintro ⟨a, h⟩
      cases h
  | ok a => exact ⟨fun _ => ⟨a, rfl⟩, fun _ => rfl⟩

end FieldShape

namespace Record

/-- The entries of a mapping fit the fields of a record. -/
structure Fits (shapes : List FieldShape) (entries : List (String × Tree)) : Prop where
  checks : ∀ shape ∈ shapes, ∀ t, entries.lookup shape.name = some t → shape.check t = .ok ()
  complete : ∀ shape ∈ shapes, shape.optional = false → (entries.lookup shape.name).isSome

/-- The entries of a mapping that are fields of a record. -/
def known (shapes : List FieldShape) (entries : List (String × Tree)) : Record :=
  entries.filter fun entry => (shapes.find? (·.name == entry.1)).isSome

variable {shapes : List FieldShape} {entries : List (String × Tree)}

/-! ## Fields by name -/

/-- A shape is found by its name if no two shapes share a name. -/
theorem find?_eq_some_iff {shape : FieldShape} {name : String}
    (h : (shapes.map (·.name)).Nodup) :
    shapes.find? (·.name == name) = some shape ↔ shape ∈ shapes ∧ shape.name = name := by
  induction shapes with
  | nil => simp
  | cons first rest ih =>
    obtain ⟨hfirst, hrest⟩ := List.nodup_cons.1 h
    by_cases hname : first.name = name
    · rw [List.find?_cons_of_pos (by simpa using hname), Option.some_inj]
      constructor
      · rintro rfl
        exact ⟨List.mem_cons_self .., hname⟩
      · rintro ⟨hmem, hsame⟩
        rcases List.mem_cons.1 hmem with rfl | hmem
        · rfl
        · exact absurd (List.mem_map.2 ⟨shape, hmem, hsame.trans hname.symm⟩) hfirst
    · rw [List.find?_cons_of_neg (by simpa using hname), ih hrest, List.mem_cons]
      constructor
      · exact fun ⟨hmem, hsame⟩ => ⟨.inr hmem, hsame⟩
      · rintro ⟨rfl | hmem, hsame⟩
        · exact absurd hsame hname
        · exact ⟨hmem, hsame⟩

/-- What is found under the name of a field among the entries that are fields. -/
theorem lookup_known (h : (shapes.map (·.name)).Nodup) {shape : FieldShape}
    (hshape : shape ∈ shapes) : (known shapes entries).lookup shape.name =
      entries.lookup shape.name := by
  have hfind := (find?_eq_some_iff h).2 ⟨hshape, rfl⟩
  induction entries with
  | nil => rfl
  | cons entry rest ih =>
    obtain ⟨name, t⟩ := entry
    rw [known] at ih ⊢
    by_cases hname : shape.name = name
    · subst hname
      rw [List.filter_cons_of_pos (by simp [hfind]), List.lookup_cons_self, List.lookup_cons_self]
    · rw [List.lookup_cons, beq_eq_false_iff_ne.2 hname, List.filter_cons]
      split
      · rw [List.lookup_cons, beq_eq_false_iff_ne.2 hname]
        exact ih
      · exact ih

/-! ## Decoding -/

/-- The entries after some that have been seen are visited without a fault if each of them that is
a field passes its check. -/
theorem visit_eq_ok_iff {seen r : Record} (h : ((seen ++ entries).map (·.1)).Nodup) :
    visit shapes seen entries = .ok r ↔
      (∀ entry ∈ entries, ∀ shape, shapes.find? (·.name == entry.1) = some shape →
        shape.check entry.2 = .ok ()) ∧ r = seen ++ known shapes entries := by
  induction entries generalizing seen with
  | nil =>
    rw [visit, known, List.filter_nil, List.append_nil]
    exact ⟨fun hr => ⟨by simp, (Except.ok.inj hr).symm⟩, fun hr => congrArg _ hr.2.symm⟩
  | cons entry rest ih =>
    obtain ⟨name, t⟩ := entry
    rw [visit, List.forall_mem_cons]
    cases hfind : shapes.find? (·.name == name) with
    | none =>
      have hnodup : ((seen ++ rest).map (·.1)).Nodup :=
        h.sublist (((List.sublist_cons_self _ _).append_left seen).map _)
      have hknown : known shapes ((name, t) :: rest) = known shapes rest :=
        List.filter_cons_of_neg (by simp [hfind])
      rw [ih hnodup, hknown]
      simp
    | some shape =>
      have hnew : seen.lookup name = none := by
        rw [Fields.lookup_eq_none_iff]
        rw [List.map_append, List.map_cons, List.nodup_append] at h
        exact fun hmem => h.2.2 name hmem name (List.mem_cons_self ..) rfl
      have hknown : known shapes ((name, t) :: rest) = (name, t) :: known shapes rest :=
        List.filter_cons_of_pos (by simp [hfind])
      have hnodup : ((seen ++ [(name, t)] ++ rest).map (·.1)).Nodup := by
        rwa [List.append_assoc, List.singleton_append]
      dsimp only
      rw [hnew, hknown, if_neg (by simp)]
      cases hcheck : shape.check t with
      | error fault =>
        constructor
        · intro hr
          cases hr
        · rintro ⟨⟨hfirst, -⟩, -⟩
          rw [hfirst shape rfl] at hcheck
          cases hcheck
      | ok =>
        change visit shapes (seen ++ [(name, t)]) rest = .ok r ↔ _
        rw [ih hnodup, List.append_assoc, List.singleton_append]
        constructor
        · rintro ⟨hrest, hr⟩
          refine ⟨⟨?_, hrest⟩, hr⟩
          intro other hother
          cases hother
          exact hcheck
        · rintro ⟨⟨-, hrest⟩, hr⟩
          exact ⟨hrest, hr⟩

/-- A record is complete if it has all fields that are not optional, and is not changed then. -/
theorem complete_eq_ok_iff {r r' : Record} :
    complete shapes r = .ok r' ↔
      (∀ shape ∈ shapes, shape.optional = false → (r.lookup shape.name).isSome) ∧ r' = r := by
  unfold complete
  cases hfind : shapes.find? fun shape => !shape.optional && (r.lookup shape.name).isNone with
  | some shape =>
    constructor
    · intro h
      cases h
    · rintro ⟨hall, -⟩
      have hshape := List.find?_some hfind
      rw [Bool.and_eq_true, Bool.not_eq_true', Option.isNone_iff_eq_none] at hshape
      have hsome := hall shape (List.mem_of_find?_eq_some hfind) hshape.1
      rw [hshape.2] at hsome
      cases hsome
  | none =>
    rw [List.find?_eq_none] at hfind
    constructor
    · intro h
      refine ⟨fun shape hshape hopt => ?_, (Except.ok.inj h).symm⟩
      have hnone := hfind shape hshape
      rw [hopt] at hnone
      simpa [Option.isSome_iff_ne_none] using hnone
    · rintro ⟨-, rfl⟩
      rfl

/-- A mapping whose names differ is a record exactly if its entries fit. -/
theorem record_eq_ok_iff {title : String} {r : Record} (hshapes : (shapes.map (·.name)).Nodup)
    (hentries : (entries.map (·.1)).Nodup) :
    Tree.record title shapes (.mapping entries) = .ok r ↔
      Fits shapes entries ∧ r = known shapes entries := by
  have hvisit (seen : Record) := @visit_eq_ok_iff shapes entries [] seen hentries
  have hchecks : (∀ entry ∈ entries, ∀ shape, shapes.find? (·.name == entry.1) = some shape →
      shape.check entry.2 = .ok ()) ↔
      ∀ shape ∈ shapes, ∀ t, entries.lookup shape.name = some t → shape.check t = .ok () := by
    constructor
    · intro h shape hshape t ht
      exact h _ (Fields.mem_of_lookup ht) shape ((find?_eq_some_iff hshapes).2 ⟨hshape, rfl⟩)
    · intro h entry hentry shape hfind
      obtain ⟨hshape, hname⟩ := (find?_eq_some_iff hshapes).1 hfind
      exact h shape hshape entry.2 (hname ▸ Fields.lookup_of_mem hentries hentry)
  have hlookup : ∀ shape ∈ shapes, (known shapes entries).lookup shape.name =
      entries.lookup shape.name := fun shape => lookup_known hshapes
  rw [Tree.record]
  cases hseen : visit shapes [] entries with
  | error fault =>
    constructor
    · intro h
      cases h
    · rintro ⟨hfits, -⟩
      rw [(hvisit _).2 ⟨hchecks.2 hfits.checks, rfl⟩] at hseen
      cases hseen
  | ok seen =>
    obtain ⟨hall, rfl⟩ := (hvisit seen).1 hseen
    change complete shapes _ = .ok r ↔ _
    rw [complete_eq_ok_iff]
    constructor
    · rintro ⟨hcomplete, hr⟩
      refine ⟨⟨hchecks.1 hall, fun shape hshape hopt => ?_⟩, hr⟩
      rw [← hlookup shape hshape]
      exact hcomplete shape hshape hopt
    · rintro ⟨hfits, hr⟩
      refine ⟨fun shape hshape hopt => ?_, hr⟩
      rw [List.nil_append, hlookup shape hshape]
      exact hfits.complete shape hshape hopt

/-! ## The values of fields -/

section
variable {α : Type} {name : String} {decode : Tree → Except DecodeFault α} {a absent : α}

/-- The entry of a name is there and is decoded to a value. -/
def Holds (entries : List (String × Tree)) (name : String)
    (decode : Tree → Except DecodeFault α) (a : α) : Prop :=
  ∃ t, entries.lookup name = some t ∧ decode t = .ok a

/-- The entry of a name is decoded to a value, which is the default if the entry is absent. -/
def HoldsD (entries : List (String × Tree)) (name : String)
    (decode : Tree → Except DecodeFault α) (absent a : α) : Prop :=
  match entries.lookup name with
  | some t => decode t = .ok a
  | none => a = absent

/-- Any entries fit a record without fields. -/
theorem Fits.nil : Fits [] entries :=
  ⟨fun _ h => (nomatch h), fun _ h => (nomatch h)⟩

/-- A required field that holds a value fits in front of others that do. -/
theorem Fits.required (h : Holds entries name decode a) (hrest : Fits shapes entries) :
    Fits (.required name decode :: shapes) entries := by
  obtain ⟨t, ht, ha⟩ := h
  refine ⟨List.forall_mem_cons.2 ⟨?_, hrest.checks⟩, List.forall_mem_cons.2 ⟨?_, hrest.complete⟩⟩
  · intro t' ht'
    cases ht.symm.trans ht'
    exact FieldShape.discard_eq_ok_iff.2 ⟨a, ha⟩
  · exact fun _ => Option.isSome_iff_exists.2 ⟨t, ht⟩

/-- An optional field that is absent or holds a value fits in front of others that do. -/
theorem Fits.optional (h : HoldsD entries name decode absent a) (hrest : Fits shapes entries) :
    Fits (.optional_ name decode :: shapes) entries := by
  refine ⟨List.forall_mem_cons.2 ⟨?_, hrest.checks⟩, List.forall_mem_cons.2 ⟨?_, hrest.complete⟩⟩
  · intro t ht
    rw [HoldsD, show entries.lookup name = some t from ht] at h
    exact FieldShape.discard_eq_ok_iff.2 ⟨a, h⟩
  · exact fun hopt => nomatch hopt

/-- A record that has under a name what the entries have there has the value of the field. -/
theorem Holds.get {r : Record} (h : Holds entries name decode a)
    (hr : r.lookup name = entries.lookup name) : r.get name decode = .ok a := by
  obtain ⟨t, ht, ha⟩ := h
  rw [Record.get, hr, ht]
  exact ha

/-- An optional field is got from a record that has kept it. -/
theorem HoldsD.getD {r : Record} (h : HoldsD entries name decode absent a)
    (hr : r.lookup name = entries.lookup name) : r.getD name decode absent = .ok a := by
  unfold HoldsD at h
  rw [Record.getD, hr]
  cases ht : entries.lookup name with
  | none =>
    rw [ht] at h
    rw [h]
  | some t =>
    rw [ht] at h
    exact h

end

/-- A mapping whose entries fit is decoded to a record that has under the name of each field what
the mapping has there. -/
theorem Fits.record (h : Fits shapes entries) (hshapes : (shapes.map (·.name)).Nodup)
    (hentries : (entries.map (·.1)).Nodup) (title : String) :
    ∃ r, Tree.record title shapes (.mapping entries) = .ok r ∧
      ∀ name ∈ shapes.map (·.name), r.lookup name = entries.lookup name := by
  refine ⟨known shapes entries, (record_eq_ok_iff hshapes hentries).2 ⟨h, rfl⟩, ?_⟩
  intro name hname
  obtain ⟨shape, hshape, rfl⟩ := List.mem_map.1 hname
  exact lookup_known hshapes hshape

/-! ## Taking fields out -/

section
variable {α β : Type} {name : String} {decode : Tree → Except DecodeFault α} {a absent : α}

/-- What is got from a record is what it holds. -/
theorem get_eq_ok_iff {r : Record} : r.get name decode = .ok a ↔ Holds r name decode a := by
  unfold Record.get Holds
  cases r.lookup name with
  | none => simp
  | some t => simp

/-- What is got from a record, or else in the absence of the field, is what it holds. -/
theorem getD_eq_ok_iff {r : Record} :
    r.getD name decode absent = .ok a ↔ HoldsD r name decode absent a := by
  unfold Record.getD HoldsD
  cases r.lookup name with
  | none => simp [eq_comm]
  | some t => rfl

/-- What is made of the fields of a record is made of the entries of the mapping that is decoded to
it. -/
theorem record_bind_eq_ok_iff {title : String} {build : Record → Except DecodeFault β} {b : β}
    (hshapes : (shapes.map (·.name)).Nodup) (hentries : (entries.map (·.1)).Nodup)
    (hbuild : ∀ r : Record, (∀ name ∈ shapes.map (·.name), r.lookup name = entries.lookup name) →
      build r = build entries)
    (hfits : build entries = .ok b → Fits shapes entries) :
    (Tree.record title shapes (.mapping entries) >>= build) = .ok b ↔ build entries = .ok b := by
  rw [bind_eq_ok_iff]
  constructor
  · rintro ⟨r, hr, hb⟩
    obtain ⟨-, rfl⟩ := (record_eq_ok_iff hshapes hentries).1 hr
    rwa [hbuild] at hb
    intro name hname
    obtain ⟨shape, hshape, rfl⟩ := List.mem_map.1 hname
    exact lookup_known hshapes hshape
  · intro hb
    obtain ⟨r, hr, hsame⟩ := (hfits hb).record hshapes hentries title
    exact ⟨r, hr, by rw [hbuild r hsame, hb]⟩

end

end Record

end Automation
