import Automation.Proofs.Condition.Split

/-!
# What lies between the parts of a text

A text that is split at an operator is divided into its parts: they stand in it in order, and
before, between and after them is nothing but operators and blanks, with an operator between every
two of them (`Condition.Divided`). The scan is back at its start wherever one of these operators
stands, so each of them counts in the text as a whole. Quotes and parentheses that are left open can
only be in the last part, with no operator after it.

Splitting loses nothing (`Condition.split?_divided`). A text that is not split is divided in the
same way, but into no more than one part.
-/

namespace Automation.Condition

open Text

/-- A text that consists of blanks and a number of operators. -/
inductive Gap (op : List Char) : Nat → List Char → Prop
  | nil : Gap op 0 []
  | blank {n : Nat} {c : Char} {cs : List Char} (hc : isBlank c = true) (h : Gap op n cs) :
      Gap op n (c :: cs)
  | mark {n : Nat} {cs : List Char} (h : Gap op n cs) : Gap op (n + 1) (op ++ cs)

/-- A part of a text: it is solid, and the operator does not count in it. -/
structure IsPart (op cs : List Char) : Prop where
  solid : Solid cs
  whole : cutOuter? op cs = none

/-- A text is divided into parts, the first of which has a number of operators in front of it. Where
operators come after a part, the scan is back at its start. -/
inductive Divided (op : List Char) : Nat → List (List Char) → List Char → Prop
  | gap {n : Nat} {cs : List Char} (h : Gap op n cs) : Divided op n [] cs
  | part {n m : Nat} {gap part rest : List Char} {parts : List (List Char)} (hgap : Gap op n gap)
      (hrest : Divided op m parts rest) (hbetween : parts ≠ [] → 0 < m)
      (hpast : 0 < m → Scan.start.past part = Scan.start) :
      Divided op n (part :: parts) (gap ++ (part ++ rest))

section
variable {op cs b : List Char} {n : Nat} {found : List (List Char)}

/-! ## Texts in front of a divided one -/

/-- Blanks in front of operators do not change their number. -/
theorem Gap.after_blanks (hb : Blanks b) (h : Gap op n cs) : Gap op n (b ++ cs) := by
  induction b with
  | nil => exact h
  | cons c b ih =>
    obtain ⟨hc, hrest⟩ := List.forall_mem_cons.1 hb
    exact .blank hc (ih hrest)

/-- Blanks alone have no operators. -/
theorem Gap.of_blanks (hb : Blanks b) : Gap op 0 b := by
  rw [← List.append_nil b]
  exact Gap.nil.after_blanks hb

/-- Blanks in front of a text do not change how it is divided. -/
theorem Divided.after_blanks (hb : Blanks b) (h : Divided op n found cs) :
    Divided op n found (b ++ cs) := by
  cases h with
  | gap h => exact .gap (h.after_blanks hb)
  | part hgap hrest hbetween hpast =>
    rw [← List.append_assoc]
    exact .part (hgap.after_blanks hb) hrest hbetween hpast

/-- An operator in front of a text is one more before its first part. -/
theorem Divided.after_mark (h : Divided op n found cs) : Divided op (n + 1) found (op ++ cs) := by
  cases h with
  | gap h => exact .gap h.mark
  | part hgap hrest hbetween hpast =>
    rw [← List.append_assoc]
    exact .part hgap.mark hrest hbetween hpast

/-- A text of blanks, or what trimming leaves with operators after it if there are other parts. -/
theorem Divided.after_trim (cs : List Char) {rest : List Char} (h : Divided op n found rest)
    (hbetween : found ≠ [] → 0 < n) (hpast : 0 < n → Scan.start.past cs = Scan.start) :
    ∃ m, Divided op m (if (trim cs).isEmpty then found else trim cs :: found) (cs ++ rest) := by
  obtain ⟨b, d, hb, hd, hcs, -⟩ := exists_around_trim cs
  have hafter : Divided op n found (d ++ rest) := h.after_blanks hd
  by_cases hempty : (trim cs).isEmpty
  · rw [if_pos hempty, hcs, List.isEmpty_iff.1 hempty, List.nil_append, List.append_assoc]
    exact ⟨n, hafter.after_blanks hb⟩
  · have htrim : 0 < n → Scan.start.past (trim cs) = Scan.start := by
      intro hn
      have hcs' := hpast hn
      rwa [hcs, Scan.past_append, Scan.past_append, Scan.past_blanks hb, Scan.past_blanks hd]
        at hcs'
    rw [if_neg hempty]
    have hjoin : cs ++ rest = b ++ (trim cs ++ (d ++ rest)) := by
      calc cs ++ rest = b ++ (trim cs ++ d) ++ rest := congrArg (· ++ rest) hcs
        _ = b ++ (trim cs ++ (d ++ rest)) := by simp
    rw [hjoin]
    exact ⟨0, .part (.of_blanks hb) hafter hbetween htrim⟩

end

/-! ## The parts of a text -/

section
variable {op cs : List Char} (hop : Plain op)
include hop

/-- A text is divided into its parts. The scan starts anew after every cut, and it stands at its
start there, as it does where it goes through the whole text. -/
theorem divided_parts {fuel : Nat} (h : cs.length ≤ fuel) :
    ∃ n, Divided op n (parts op fuel cs) cs := by
  induction fuel generalizing cs with
  | zero =>
    obtain rfl := List.length_eq_zero_iff.1 (Nat.le_zero.1 h)
    exact ⟨0, .gap .nil⟩
  | succ fuel ih =>
    by_cases hnil : cs = []
    · subst hnil
      exact ⟨0, .gap .nil⟩
    · rw [parts_succ hnil]
      cases hcut : cutOuter? op cs with
      | none =>
        have hlast : Divided op 0 [] [] := .gap .nil
        have hdivided := hlast.after_trim cs (fun hne => absurd rfl hne)
          fun hlt => absurd hlt (Nat.lt_irrefl 0)
        rwa [List.append_nil] at hdivided
      | some cut =>
        obtain ⟨before, rest⟩ := cut
        obtain ⟨hcs, hbefore, -⟩ := cutOuter?_eq_some hop.startsPlain hcut
        obtain ⟨n, hrest⟩ := ih (length_rest_le hop.startsPlain hcs h)
        rw [hcs]
        exact hrest.after_mark.after_trim before (fun _ => n.succ_pos) fun _ => hbefore

/-- What a text is split into are parts. -/
theorem isPart_of_mem_parts {part : List Char} (h : part ∈ parts op cs.length cs) :
    IsPart op part := by
  rw [parts_eq hop.startsPlain] at h
  obtain ⟨helement, hne⟩ := List.mem_filter.1 h
  exact ⟨solid_of_trim_eq (trim_element hop helement) (by simpa using hne),
    cutOuter?_element hop helement⟩

end

/-- A text that is split at an operator is divided into the parts, of which there are two or more,
and a text that is not split is divided into one part or none. The parts are solid, and the operator
does not count in them. -/
theorem split?_divided {op : List Char} (hop : op ∈ [orMark, andMark]) (cs : List Char) :
    (∀ found, split? op cs = some found →
      2 ≤ found.length ∧ (∀ part ∈ found, IsPart op part) ∧ ∃ n, Divided op n found cs) ∧
    (split? op cs = none →
      ∃ found, found.length ≤ 1 ∧ (∀ part ∈ found, IsPart op part) ∧
        ∃ n, Divided op n found cs) := by
  have hplain : Plain op := by
    simp only [List.mem_cons, List.not_mem_nil, or_false] at hop
    rcases hop with rfl | rfl
    · exact plain_orMark
    · exact plain_andMark
  have hparts : ∀ part ∈ parts op cs.length cs, IsPart op part :=
    fun _ => isPart_of_mem_parts hplain
  have hdivided := divided_parts hplain (Nat.le_refl cs.length)
  unfold split?
  dsimp only
  split
  · next hlength =>
    refine ⟨?_, fun h => (nomatch h)⟩
    rintro found ⟨⟩
    exact ⟨hlength, hparts, hdivided⟩
  · next hlength =>
    refine ⟨fun _ h => (nomatch h), fun _ => ?_⟩
    exact ⟨_, Nat.le_of_not_lt hlength, hparts, hdivided⟩

/-- An operator at the start, one that overlaps with the next, and a quote that is left open. An
operator at the end leaves no second part. -/
theorem split?_divided_overlapping :
    let cs := "|| a ||| 'b || (c".toList
    let found := ["a".toList, "| 'b || (c".toList]
    orMark ∈ [orMark, andMark] ∧ split? orMark cs = some found ∧
      (2 ≤ found.length ∧ (∀ part ∈ found, IsPart orMark part) ∧
        ∃ n, Divided orMark n found cs) ∧
      andMark ∈ [orMark, andMark] ∧ split? andMark "a &&".toList = none ∧
      ∃ found, found.length ≤ 1 ∧ (∀ part ∈ found, IsPart andMark part) ∧
        ∃ n, Divided andMark n found "a &&".toList := by
  intro cs found
  have hor : orMark ∈ [orMark, andMark] := by decide
  have hand : andMark ∈ [orMark, andMark] := by decide
  have hfound : split? orMark cs = some found := by decide
  have hnone : split? andMark "a &&".toList = none := by decide
  exact ⟨hor, hfound, (split?_divided hor cs).1 found hfound, hand, hnone,
    (split?_divided hand _).2 hnone⟩

end Automation.Condition
