import Automation.Binding
import Automation.Proofs.Template.Evaluated
import Automation.Proofs.Text.Base64
import Automation.Proofs.Text.Utf8

/-!
# Scripts in templates

A script stands in a template as the word `script`, blanks, and the base64 of its source between
double quotes. `Template.ofScript` writes such a template, and what reads it gets the source back;
an expression that gives the source is of this form, and between its quotes is the one text that has
the bytes of the source in base64 (`Binding.script_roundTrip`).
-/

namespace Automation

open Text

namespace Base64

/-- A text is read as the bytes that it has in base64. -/
theorem decode_text_eq_ok_iff {text : List Char} {bytes : List Nat}
    (hbytes : ∀ b ∈ bytes, b < 256) :
    decode (Utf8.encode text) = .ok bytes ↔ Spells bytes text := by
  have hencode : Utf8.encode ((encode bytes).map Char.ofNat) = encode bytes :=
    Utf8.encode_ascii encode_lt
  rw [decode_eq_ok_iff, spells_iff hbytes, and_iff_left hbytes]
  constructor
  · intro h
    exact Utf8.encode_inj (h.trans hencode.symm)
  · rintro rfl
    exact hencode

/-- The characters of a text in base64 are letters, digits and a few signs among them. -/
theorem Spells.bounds {bytes : List Nat} {text : List Char} {c : Char} (h : Spells bytes text)
    (hc : c ∈ text) : 43 ≤ c.toNat ∧ c.toNat ≤ 122 := by
  obtain ⟨numbers, zeros, pads, htext, -⟩ := h
  have hmem : some c ∈ numbers.map (alphabet[·]?) ++ List.replicate pads (some '=') := by
    rw [← htext]
    exact List.mem_map_of_mem hc
  rcases List.mem_append.1 hmem with hsymbol | hpad
  · obtain ⟨v, -, hv⟩ := List.mem_map.1 hsymbol
    have hbounds := symbol_bounds v
    rw [alphabet_getElem? (lt_of_alphabet hv.symm)] at hv
    have hvalid : (symbol v).isValidChar := .inl (by omega)
    rw [← Option.some.inj hv, Utf8.toNat_ofNat hvalid]
    exact hbounds
  · rw [Option.some.inj (List.eq_of_mem_replicate hpad)]
    decide

/-- No character of a text in base64 is a blank or belongs to the markers of a template. -/
theorem Spells.plain {bytes : List Nat} {text : List Char} {c : Char} (h : Spells bytes text)
    (hc : c ∈ text) : isBlank c = false ∧ c ≠ '$' ∧ c ≠ '\x7d' := by
  have hbounds := h.bounds hc
  refine ⟨?_, ?_, ?_⟩
  · simp only [isBlank, Bool.or_eq_false_iff, Bool.and_eq_false_iff, decide_eq_false_iff_not,
      beq_eq_false_iff_ne]
    omega
  · rintro rfl
    exact absurd hbounds.1 (by decide)
  · rintro rfl
    exact absurd hbounds.2 (by decide)

/-- What spells bytes in base 64 has no blanks around it. -/
theorem Spells.trim_eq {bytes : List Nat} {text : List Char} (h : Spells bytes text) :
    trim text = text := by
  by_cases hempty : text = []
  · rw [hempty]
    rfl
  · have hnone : text.any isBlank = false :=
      List.any_eq_false.2 fun c hc => Bool.eq_false_iff.1 (h.plain hc).1
    exact (solid_of_any hempty hnone).trim_eq

end Base64

/-! ## Templates -/

namespace Template

/-- A marker does not occur in a text without its first character. -/
theorem occurs_eq_false {m : Char} {marker cs : List Char} (h : m ∉ cs) :
    occurs (m :: marker) cs = false := by
  rw [occurs, cut?_eq_none h]
  rfl

/-- A text between the markers of a template that has no part of a marker in it is the expression of
the template. -/
theorem single?_of_markers {s : String} {inner : List Char}
    (hs : s.toList = opener ++ (inner ++ closer)) (hopener : '$' ∉ inner)
    (hcloser : '\x7d' ∉ inner) (hne : trim inner ≠ []) :
    single? s = some (String.ofList (trim inner)) ∧
      expressions s = [String.ofList (trim inner)] := by
  have hmarkers : Solid opener ∧ Solid closer := by
    constructor <;> exact solid_of_any (by decide) (by decide +kernel)
  have htrim : trim s.toList = opener ++ (inner ++ closer) := by
    rw [hs]
    exact (hmarkers.1.append inner hmarkers.2).trim_eq
  have hclosed : occurs closer inner = false := occurs_eq_false hcloser
  constructor
  · have hfree : ¬(occurs opener inner = true ∨ occurs closer inner = true) := by
      rw [opener, occurs_eq_false hopener, hclosed]
      decide
    obtain ⟨c, cs, hcs⟩ := List.exists_cons_of_ne_nil hne
    rw [single?, htrim, stripStart?_append]
    simp only [Option.bind_eq_bind, Option.bind_some, stripEnd?_append, if_neg hfree, hcs]
  · refine expressions_of_single? (fun hempty => ?_) htrim hclosed String.toList_ofList.symm ?_
    · exact hne (by simpa using congrArg String.toList hempty)
    · exact fun hlast => hcloser (List.mem_of_getLast? hlast)

/-! ## Scripts -/

/-- A text between double quotes. -/
def inQuotes (inner : List Char) : List Char :=
  '"' :: (inner ++ ['"'])

/-- A text in quotes is solid. -/
theorem solid_inQuotes (inner : List Char) : Solid (inQuotes inner) where
  ne_nil := List.cons_ne_nil _ _
  head c hc := by
    obtain rfl : '"' = c := by simpa [inQuotes] using hc
    decide
  last c hc := by
    obtain rfl : '"' = c := by simpa [inQuotes, List.getLast?_cons] using hc
    decide

/-- The marker of a script is solid. -/
theorem solid_scriptMarker : Solid scriptMarker :=
  solid_of_any (by decide) (by decide +kernel)

/-- What is taken out of quotes is what stands between them. -/
theorem unquote?_eq_some_iff {cs inner : List Char} :
    Binding.unquote? cs = some inner ↔ cs = inQuotes inner := by
  simp only [Binding.unquote?, Option.bind_eq_some_iff, stripStart?_eq_some_iff,
    stripEnd?_eq_some_iff, exists_eq_right]
  rfl

/-- The literal of a script comes after the marker and at least one blank. -/
theorem scriptLiteral?_eq_some_iff {cs literal : List Char} : scriptLiteral? cs = some literal ↔
    ∃ rest, cs = scriptMarker ++ rest ∧ rest.head?.any isBlank = true ∧ trim rest = literal := by
  simp only [scriptLiteral?, Option.bind_eq_bind, Option.bind_eq_some_iff, stripStart?_eq_some_iff,
    Option.ite_none_right_eq_some, Option.some.injEq]

/-- An expression that names a script between double quotes consists of the marker, blanks and the
script, and of blanks around them. -/
theorem scriptLiteral?_trim_eq_inQuotes_iff {cs inner : List Char} :
    scriptLiteral? (trim cs) = some (inQuotes inner) ↔
      ∃ before gap after, (Blanks before ∧ Blanks gap ∧ Blanks after) ∧ gap ≠ [] ∧
        cs = before ++ (scriptMarker ++ (gap ++ (inQuotes inner ++ after))) := by
  rw [scriptLiteral?_eq_some_iff]
  constructor
  · rintro ⟨rest, hmarker, hblank, hquotes⟩
    obtain ⟨before, after, hbefore, hafter, hcs, -⟩ := exists_around_trim cs
    obtain ⟨gap, tail, hgap, htail, hrest, -⟩ := exists_around_trim rest
    rw [hquotes] at hrest
    have hsolid : Solid (trim cs) := by
      refine solid_trim fun hempty => ?_
      rw [hmarker] at hempty
      exact absurd (List.append_eq_nil_iff.1 hempty).1 (by decide)
    -- The trimmed expression has no blanks at its end, so none follow the closing quote.
    obtain rfl : tail = [] := by
      refine hsolid.eq_nil_of_blanks (u := scriptMarker ++ (gap ++ inQuotes inner)) ?_ htail
      rw [hmarker, hrest]
      simp only [List.append_assoc]
    refine ⟨before, gap, after, ⟨hbefore, hgap, hafter⟩, ?_, ?_⟩
    · rintro rfl
      rw [hrest] at hblank
      exact absurd hblank (by simp [inQuotes]; decide)
    · rw [hcs, hmarker, hrest]
      simp only [List.append_assoc, List.append_nil]
  · rintro ⟨before, gap, after, ⟨hbefore, hgap, hafter⟩, hne, rfl⟩
    have htrim := trim_around hbefore (solid_scriptMarker.append gap (solid_inQuotes inner)) hafter
    simp only [List.append_assoc] at htrim
    refine ⟨gap ++ inQuotes inner, htrim, ?_, trim_after hgap (solid_inQuotes inner)⟩
    obtain ⟨c, gap, rfl⟩ := List.exists_cons_of_ne_nil hne
    exact hgap c List.mem_cons_self

/-- The text is the marker of a script and, between double quotes, the bytes of the source in
base64; blanks stand between them and may stand around them and inside the quotes. -/
def ScriptOf (source : String) (cs : List Char) : Prop :=
  ∃ before gap inner after, (Blanks before ∧ Blanks gap ∧ Blanks after) ∧ gap ≠ [] ∧
    cs = before ++ (scriptMarker ++ (gap ++ (inQuotes inner ++ after))) ∧
    Base64.Spells (source.toUTF8.data.toList.map UInt8.toNat) (trim inner)

/-- An expression is a script just if its literal spells the source in base 64. -/
theorem scriptOf_iff {source : String} {cs : List Char} : ScriptOf source cs ↔
    ∃ inner, scriptLiteral? (trim cs) = some (inQuotes inner) ∧
      Base64.Spells (source.toUTF8.data.toList.map UInt8.toNat) (trim inner) := by
  constructor
  · rintro ⟨before, gap, inner, after, hblanks, hne, hcs, hspells⟩
    exact ⟨inner, scriptLiteral?_trim_eq_inQuotes_iff.2 ⟨before, gap, after, hblanks, hne, hcs⟩,
      hspells⟩
  · rintro ⟨inner, hliteral, hspells⟩
    obtain ⟨before, gap, after, hblanks, hne, hcs⟩ := scriptLiteral?_trim_eq_inQuotes_iff.1 hliteral
    exact ⟨before, gap, inner, after, hblanks, hne, hcs, hspells⟩

/-- A space is blank. -/
theorem blanks_space : Blanks [' '] := by
  intro c hc
  rw [List.mem_singleton.1 hc]
  decide

/-- The template that is written for a script has one expression, which is the marker and the bytes
of the script. -/
theorem exists_expression_ofScript (source : String) :
    ∃ e encoded, single? (ofScript source) = some e ∧ expressions (ofScript source) = [e] ∧
      e.toList = scriptMarker ++ ([' '] ++ inQuotes encoded) ∧
      Base64.Spells (source.toUTF8.data.toList.map UInt8.toNat) encoded := by
  rw [← Utf8.encode_toList]
  let encoded := (Base64.encode (Utf8.encode source.toList)).map Char.ofNat
  let expression := scriptMarker ++ ([' '] ++ inQuotes encoded)
  have hspells : Base64.Spells (Utf8.encode source.toList) encoded :=
    Base64.spells_encode fun _ hb => Utf8.lt_of_mem_encode hb
  have hs : (ofScript source).toList = opener ++ ([' '] ++ (expression ++ [' ']) ++ closer) := by
    rw [ofScript, String.toList_ofList]
    simp [expression, encoded, inQuotes]
  have hfree (c : Char) (hc : c ∉ [' ', 's', 'c', 'r', 'i', 'p', 't', '"']) (hmem : c ∉ encoded) :
      c ∉ [' '] ++ (expression ++ [' ']) := by
    simp only [List.mem_cons, List.not_mem_nil, or_false, not_or] at hc
    simp [expression, scriptMarker, inQuotes, hc, hmem]
  have htrim : trim ([' '] ++ (expression ++ [' '])) = expression :=
    trim_around blanks_space (solid_scriptMarker.append [' '] (solid_inQuotes encoded)) blanks_space
  obtain ⟨hsingle, hexpressions⟩ := single?_of_markers hs
    (hfree '$' (by decide) fun hmem => (hspells.plain hmem).2.1 rfl)
    (hfree '\x7d' (by decide) fun hmem => (hspells.plain hmem).2.2 rfl)
    (by rw [htrim]; exact List.cons_ne_nil _ _)
  rw [htrim] at hsingle hexpressions
  exact ⟨String.ofList expression, encoded, hsingle, hexpressions, String.toList_ofList, hspells⟩

end Template

namespace Binding

open Template

/-- An expression is read as a script just if it is one of this script. -/
theorem ofExpression_eq_script_iff {e source : String} :
    ofExpression e = .ok (.script source) ↔ ScriptOf source e.toList := by
  rw [scriptOf_iff, ← Utf8.encode_toList]
  have hbytes : ∀ b ∈ Utf8.encode source.toList, b < 256 := fun _ hb => Utf8.lt_of_mem_encode hb
  constructor
  · intro h
    unfold ofExpression at h
    dsimp only at h
    split at h
    · cases h
    next literal hliteral =>
    split at h
    · cases h
    next inner hinner =>
    split at h
    · cases h
    next bytes hdecode =>
    split at h
    · cases h
    next cs hcs =>
    cases h
    rw [unquote?_eq_some_iff.1 hinner] at hliteral
    rw [Utf8.decode_eq_ok_iff.1 hcs] at hdecode
    rw [String.toList_ofList] at hbytes ⊢
    exact ⟨inner, hliteral, (Base64.decode_text_eq_ok_iff hbytes).1 hdecode⟩
  · rintro ⟨inner, hliteral, hspells⟩
    simp only [ofExpression, hliteral, unquote?_eq_some_iff.2 rfl,
      (Base64.decode_text_eq_ok_iff hbytes).2 hspells, Utf8.decode_eq_ok_iff.2 rfl,
      String.ofList_toList]

/-- What is bound as a script is one. -/
theorem isScript_of_ofExpression {e source : String} (h : ofExpression e = .ok (.script source)) :
    isScript e = true := by
  obtain ⟨inner, hliteral, -⟩ := scriptOf_iff.1 (ofExpression_eq_script_iff.1 h)
  rw [isScript, hliteral]
  rfl

/-- The template that is written for a script is read as the script, and what is read as a script
has its bytes, and no other text, between its quotes. -/
theorem script_roundTrip (source : String) :
    (∃ e, single? (ofScript source) = some e ∧ isScript e = true ∧
        expressions (ofScript source) = [e] ∧ ofExpression e = .ok (.script source)) ∧
      ∀ e, ofExpression e = .ok (.script source) ↔ ScriptOf source e.toList := by
  refine ⟨?_, fun e => ofExpression_eq_script_iff⟩
  obtain ⟨e, encoded, hsingle, hexpressions, he, hspells⟩ := exists_expression_ofScript source
  have hof : ScriptOf source e.toList := by
    refine ⟨[], [' '], encoded, [], ⟨blanks_nil, blanks_space, blanks_nil⟩, List.cons_ne_nil _ _,
      ?_, ?_⟩
    · rw [he, List.append_nil, List.nil_append]
    · rwa [hspells.trim_eq]
  have hscript : ofExpression e = .ok (.script source) := ofExpression_eq_script_iff.2 hof
  exact ⟨e, hsingle, isScript_of_ofExpression hscript, hexpressions, hscript⟩

end Binding

end Automation
