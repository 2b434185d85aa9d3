import Automation.Proofs.Text.Search
import Automation.Proofs.Text.Trim

/-!
# Pieces of texts

A text is cut at the first place where its marker stands, so the marker does not occur before the
cut (`Text.occurs_of_cut?`), and in none of the pieces between markers
(`Text.occurs_of_mem_pieces`). With a marker of one character the pieces are those of a list that is
split at an element (`Text.pieces_singleton`).

`Text.cores` are the pieces as a reader of lists takes them: trimmed, and blank ones left out.
Blanks in front of a text (`Text.cores_splitOn_append`) or after it (`Text.cores_splitOn_solid`)
change nothing about them, not even if the character at which the text is split is a blank itself.
-/

namespace Automation.Text

variable {marker cs before after piece : List Char} {c sep : Char}

/-! ## Markers and pieces -/

/-- Nothing occurs in the empty text. -/
theorem occurs_nil (h : marker ≠ []) : occurs marker [] = false := by
  rw [Bool.eq_false_iff, ne_eq, occurs_iff]
  rintro ⟨before, after, hnil⟩
  have hmarker := (List.append_eq_nil_iff.1 (List.append_eq_nil_iff.1 hnil.symm).2).1
  exact h hmarker

/-- The marker does not occur before the place where a text is cut. -/
theorem occurs_of_cut? (hne : marker ≠ []) (h : cut? marker cs = some (before, after)) :
    occurs marker before = false := by
  induction cs generalizing before with
  | nil =>
    rw [cut?, if_neg (by simpa using hne)] at h
    cases h
  | cons c cs ih =>
    rw [cut?] at h
    cases hstrip : stripStart? marker (c :: cs) with
    | some rest =>
      rw [hstrip] at h
      cases h
      exact occurs_nil hne
    | none =>
      rw [hstrip] at h
      obtain ⟨⟨before', after'⟩, hcut, heq⟩ := Option.map_eq_some_iff.1 h
      cases heq
      have hbefore := ih hcut
      rw [Bool.eq_false_iff, ne_eq, occurs_iff] at hbefore ⊢
      rintro ⟨u, v, huv⟩
      cases u with
      | nil =>
        -- The marker would stand at the start of the whole text.
        have hstart : c :: cs = marker ++ (v ++ (marker ++ after)) := by
          calc c :: cs = (c :: before') ++ (marker ++ after) := by rw [cut?_eq_some hcut]; rfl
            _ = marker ++ (v ++ (marker ++ after)) := by rw [huv]; simp
        rw [hstart, stripStart?_append] at hstrip
        cases hstrip
      | cons d u =>
        obtain ⟨-, htail⟩ := List.cons.inj huv
        exact hbefore ⟨u, v, htail⟩

/-- What is left after a cut is shorter than the text. -/
theorem length_lt_of_cut? (hne : marker ≠ []) (h : cut? marker cs = some (before, after)) :
    after.length < cs.length := by
  have hpos := List.length_pos_iff.2 hne
  rw [cut?_eq_some h, List.length_append, List.length_append]
  omega

/-- The marker does not occur in the pieces between its occurrences. -/
theorem occurs_of_mem_piecesWithin (hne : marker ≠ []) (fuel : Nat) (hfuel : cs.length ≤ fuel)
    (h : piece ∈ piecesWithin marker fuel cs) : occurs marker piece = false := by
  induction fuel generalizing cs with
  | zero =>
    obtain rfl : cs = [] := List.length_eq_zero_iff.1 (Nat.le_zero.1 hfuel)
    obtain rfl : piece = [] := List.mem_singleton.1 h
    exact occurs_nil hne
  | succ fuel ih =>
    rw [piecesWithin] at h
    cases hcut : cut? marker cs with
    | none =>
      rw [hcut] at h
      obtain rfl : piece = cs := List.mem_singleton.1 h
      rw [occurs, hcut]
      rfl
    | some parts =>
      obtain ⟨before, after⟩ := parts
      rw [hcut] at h
      rcases List.mem_cons.1 h with rfl | hrest
      · exact occurs_of_cut? hne hcut
      · have hshorter := length_lt_of_cut? hne hcut
        exact ih (by omega) hrest

/-- The marker occurs in no piece of a text. -/
theorem occurs_of_mem_pieces (hne : marker ≠ []) (h : piece ∈ pieces marker cs) :
    occurs marker piece = false := by
  rw [pieces, if_neg (by simpa using hne)] at h
  exact occurs_of_mem_piecesWithin hne cs.length (Nat.le_refl _) h

/-- What does not occur in a text does not occur in what trimming leaves of it. -/
theorem occurs_trim (h : occurs marker cs = false) : occurs marker (trim cs) = false := by
  obtain ⟨b, d, -, -, hcs, -⟩ := exists_around_trim cs
  rw [Bool.eq_false_iff, ne_eq, occurs_iff] at h ⊢
  rintro ⟨before, after, htrim⟩
  refine h ⟨b ++ before, after ++ d, ?_⟩
  calc cs = b ++ ((before ++ (marker ++ after)) ++ d) := by rw [← htrim]; exact hcs
    _ = (b ++ before) ++ (marker ++ (after ++ d)) := by simp

/-! ## Markers of one character -/

/-- A character occurs in a text if it is one of its characters. -/
theorem occurs_singleton : occurs [c] cs = true ↔ c ∈ cs := by
  rw [occurs_iff, List.mem_iff_append]
  exact Iff.rfl

/-- A character does not occur in a text if it is none of its characters. -/
theorem occurs_singleton_eq_false : occurs [c] cs = false ↔ c ∉ cs := by
  rw [← occurs_singleton, Bool.not_eq_true]

/-- The pieces of a text between places of one character are those of a list that is split there. -/
theorem pieces_singleton (c : Char) (cs : List Char) : pieces [c] cs = cs.splitOn c := by
  have hwithin : ∀ fuel (cs : List Char), cs.length ≤ fuel →
      piecesWithin [c] fuel cs = cs.splitOn c := by
    intro fuel
    induction fuel with
    | zero =>
      intro cs hfuel
      obtain rfl : cs = [] := List.length_eq_zero_iff.1 (Nat.le_zero.1 hfuel)
      rfl
    | succ fuel ih =>
      intro cs hfuel
      rw [piecesWithin]
      cases hcut : cut? [c] cs with
      | none =>
        have hnot : occurs [c] cs = false := by
          rw [occurs, hcut]
          rfl
        rw [List.splitOn_eq_singleton (occurs_singleton_eq_false.1 hnot)]
      | some parts =>
        obtain ⟨before, after⟩ := parts
        have hbefore := occurs_singleton_eq_false.1 (occurs_of_cut? (List.cons_ne_nil c []) hcut)
        have hshorter := length_lt_of_cut? (List.cons_ne_nil c []) hcut
        have hcs : cs = before ++ c :: after := cut?_eq_some hcut
        dsimp only
        rw [ih after (by omega), hcs, List.splitOn_append_cons_self_of_not_mem hbefore]
  exact hwithin cs.length cs (Nat.le_refl _)

/-! ## What trimming leaves of pieces -/

/-- What trimming leaves of some texts, without those of which it leaves nothing. -/
def cores (texts : List (List Char)) : List (List Char) :=
  (texts.map trim).filter (!·.isEmpty)

/-- The cores of some texts and of others come one after the other. -/
theorem cores_append (texts others : List (List Char)) :
    cores (texts ++ others) = cores texts ++ cores others := by
  rw [cores, List.map_append, List.filter_append]
  rfl

/-- A text of blanks has no core. -/
theorem cores_cons_of_nil (h : trim cs = []) (texts : List (List Char)) :
    cores (cs :: texts) = cores texts := by
  rw [cores, List.map_cons, h]
  rfl

/-- A text that is not blank has what trimming leaves of it as its core. -/
theorem cores_cons_of_ne (h : trim cs ≠ []) (texts : List (List Char)) :
    cores (cs :: texts) = trim cs :: cores texts := by
  rw [cores, List.map_cons, List.filter_cons_of_pos (by simpa using h)]
  rfl

/-- The cores are solid, and each is what trimming leaves of a text. -/
theorem mem_cores {texts : List (List Char)} (h : piece ∈ cores texts) :
    Solid piece ∧ ∃ text ∈ texts, piece = trim text := by
  obtain ⟨hmem, hne⟩ := List.mem_filter.1 h
  obtain ⟨text, htext, rfl⟩ := List.mem_map.1 hmem
  exact ⟨solid_trim (by simpa using hne), text, htext, rfl⟩

/-- A blank in front of a text makes no difference to the cores of its pieces. -/
theorem cores_splitOn_cons (h : isBlank c = true) (cs : List Char) :
    cores ((c :: cs).splitOn sep) = cores (cs.splitOn sep) := by
  have hblank : Blanks [c] := by simpa [Blanks] using h
  rw [List.splitOn_eq_splitOnP, List.splitOn_eq_splitOnP, List.splitOnP_cons_eq_if_modifyHead]
  split
  · exact cores_cons_of_nil rfl _
  · cases hpieces : cs.splitOnP (· == sep) with
    | nil => exact absurd hpieces (List.splitOnP_ne_nil _ _)
    | cons first rest =>
      have htrim : trim (c :: first) = trim first := trim_append hblank first
      rw [List.modifyHead_cons, cores, cores, List.map_cons, List.map_cons, htrim]

/-- Blanks in front of a text do not change the cores of its pieces. -/
theorem cores_splitOn_append {b : List Char} (hb : Blanks b) (cs : List Char) :
    cores ((b ++ cs).splitOn sep) = cores (cs.splitOn sep) := by
  induction b with
  | nil => rfl
  | cons c b ih =>
    obtain ⟨hc, hrest⟩ := List.forall_mem_cons.1 hb
    rw [List.cons_append, cores_splitOn_cons hc, ih hrest]

/-- The pieces of blanks have no cores. -/
theorem cores_splitOn_blanks {b : List Char} (hb : Blanks b) : cores (b.splitOn sep) = [] := by
  have hcores : cores ((b ++ []).splitOn sep) = cores ([].splitOn sep) :=
    cores_splitOn_append hb []
  rwa [List.append_nil] at hcores

/-- A solid text before blanks is the only core. -/
theorem cores_splitOn_solid {d : List Char} (h : Solid cs) (hsep : sep ∉ cs) (hd : Blanks d) :
    cores ((cs ++ d).splitOn sep) = [cs] := by
  have hfirst {d' : List Char} (hd' : Blanks d') (texts : List (List Char)) :
      cores ((cs ++ d') :: texts) = cs :: cores texts := by
    have htrim := trim_before h hd'
    rw [cores_cons_of_ne (by rw [htrim]; exact h.ne_nil), htrim]
  by_cases hmem : sep ∈ d
  · -- The separator is a blank, and the text ends at the first one.
    obtain ⟨d₁, d₂, rfl, hnot⟩ := List.eq_append_cons_of_mem hmem
    have hd₁ : Blanks d₁ := fun e he => hd e (List.mem_append_left _ he)
    have hd₂ : Blanks d₂ := fun e he => hd e (List.mem_append_right _ (List.mem_cons_of_mem _ he))
    have hfree : sep ∉ cs ++ d₁ := by
      rw [List.mem_append, not_or]
      exact ⟨hsep, hnot⟩
    rw [← List.append_assoc, List.splitOn_append_cons_self_of_not_mem hfree, hfirst hd₁,
      cores_splitOn_blanks hd₂]
  · have hfree : sep ∉ cs ++ d := by
      rw [List.mem_append, not_or]
      exact ⟨hsep, hmem⟩
    rw [List.splitOn_eq_singleton hfree, hfirst hd]
    rfl

end Automation.Text
