import Automation.Text.Blank

/-!
# Trimming

A text is solid if it is not empty and neither starts nor ends with a blank (`Text.Solid`). Trimming
takes the blanks around a solid text away and leaves the text (`Text.trim_around`), and a text that
trimming leaves as it is has no blanks at its ends (`Text.solid_of_trim_eq`). Every text consists of
what trimming leaves, which is solid or empty, and of blanks around that
(`Text.exists_around_trim`).
-/

namespace Automation.Text

/-- The text is blank. -/
def Blanks (cs : List Char) : Prop :=
  ∀ c ∈ cs, isBlank c = true

/-- The text is not empty and has no blanks at its ends. -/
structure Solid (cs : List Char) : Prop where
  ne_nil : cs ≠ []
  head : ∀ c ∈ cs.head?, isBlank c = false
  last : ∀ c ∈ cs.getLast?, isBlank c = false

/-- The empty text has blanks only. -/
theorem blanks_nil : Blanks [] := by
  intro c hc
  cases hc

/-- The first character of two texts is that of the first one if it has any. -/
theorem head?_append_of_ne {u : List Char} (h : u ≠ []) {w : List Char} :
    (u ++ w).head? = u.head? := by
  cases u with
  | nil => exact absurd rfl h
  | cons c u => rfl

/-- The last character of two texts is that of the second one if it has any. -/
theorem getLast?_append_of_ne {w : List Char} (h : w ≠ []) {u : List Char} :
    (u ++ w).getLast? = w.getLast? := by
  rw [List.getLast?_append]
  cases hw : w.getLast? with
  | none => exact absurd (List.getLast?_eq_none_iff.1 hw) h
  | some c => rfl

/-- Blanks in front of a solid text are dropped, and nothing else. -/
theorem trimStart_append {b cs : List Char} (hb : Blanks b)
    (h : ∀ c ∈ cs.head?, isBlank c = false) : trimStart (b ++ cs) = cs := by
  unfold trimStart
  rw [List.dropWhile_append_of_pos hb]
  cases cs with
  | nil => rfl
  | cons c cs => rw [List.dropWhile_cons_of_neg (by simp [h c rfl])]

/-- What is dropped at the start is blank. -/
theorem exists_trimStart (cs : List Char) : ∃ b, Blanks b ∧ cs = b ++ trimStart cs :=
  ⟨cs.takeWhile isBlank, List.all_eq_true.1 List.all_takeWhile,
    List.takeWhile_append_dropWhile.symm⟩

/-- Nothing is left of a text all of whose characters are to be dropped. -/
theorem dropEndWhile_eq_nil {p : Char → Bool} {b : List Char} (hb : ∀ c ∈ b, p c = true) :
    dropEndWhile p b = [] := by
  unfold dropEndWhile
  induction b with
  | nil => rfl
  | cons c b ih =>
    rw [List.foldr_cons, ih fun d hd => hb d (List.mem_cons_of_mem _ hd)]
    simp [hb c (List.mem_cons_self ..)]

/-- What is to be dropped at the end does not count. -/
theorem dropEndWhile_append {p : Char → Bool} {b : List Char} (cs : List Char)
    (hb : ∀ c ∈ b, p c = true) : dropEndWhile p (cs ++ b) = dropEndWhile p cs := by
  have hnil := dropEndWhile_eq_nil hb
  unfold dropEndWhile at hnil ⊢
  rw [List.foldr_append, hnil]

/-- Nothing is dropped if the last character is to stay. -/
theorem dropEndWhile_eq_self {p : Char → Bool} {cs : List Char}
    (h : ∀ c ∈ cs.getLast?, p c = false) : dropEndWhile p cs = cs := by
  unfold dropEndWhile
  induction cs with
  | nil => rfl
  | cons c cs ih =>
    rw [List.foldr_cons]
    cases cs with
    | nil => simp [h c rfl]
    | cons d cs =>
      rw [ih fun e he => h e (by rw [List.getLast?_cons_cons]; exact he)]
      simp

/-- Trimming takes the blanks around a solid text away. -/
theorem trim_around {b cs d : List Char} (hb : Blanks b) (h : Solid cs) (hd : Blanks d) :
    trim (b ++ (cs ++ d)) = cs := by
  have hhead : ∀ c ∈ (cs ++ d).head?, isBlank c = false := by
    intro c hc
    rw [head?_append_of_ne h.ne_nil] at hc
    exact h.head c hc
  unfold trim trimEnd
  rw [trimStart_append hb hhead, dropEndWhile_append cs hd, dropEndWhile_eq_self h.last]

/-- Trimming takes away the blanks before a solid text. -/
theorem trim_after {b cs : List Char} (hb : Blanks b) (h : Solid cs) : trim (b ++ cs) = cs := by
  have htrim := trim_around hb h blanks_nil
  rwa [List.append_nil] at htrim

/-- Trimming takes away the blanks after a solid text. -/
theorem trim_before {cs d : List Char} (h : Solid cs) (hd : Blanks d) : trim (cs ++ d) = cs :=
  trim_around blanks_nil h hd

/-- Trimming leaves a solid text as it is. -/
theorem Solid.trim_eq {cs : List Char} (h : Solid cs) : trim cs = cs :=
  trim_after blanks_nil h

/-- A text between two solid ones is solid with them. -/
theorem Solid.append {u w : List Char} (hu : Solid u) (m : List Char) (hw : Solid w) :
    Solid (u ++ (m ++ w)) where
  ne_nil h := hu.ne_nil (List.append_eq_nil_iff.1 h).1
  head c hc := by
    rw [head?_append_of_ne hu.ne_nil] at hc
    exact hu.head c hc
  last c hc := by
    have hmw : m ++ w ≠ [] := fun h => hw.ne_nil (List.append_eq_nil_iff.1 h).2
    rw [getLast?_append_of_ne hmw, getLast?_append_of_ne hw.ne_nil] at hc
    exact hw.last c hc

/-- A solid text does not end in blanks. -/
theorem Solid.eq_nil_of_blanks {cs u d : List Char} (h : Solid cs) (hcs : cs = u ++ d)
    (hd : Blanks d) : d = [] := by
  cases hlast : d.getLast? with
  | none => exact List.getLast?_eq_none_iff.1 hlast
  | some c =>
    have hne : d ≠ [] := by
      rintro rfl
      cases hlast
    have hblank := h.last c (by rw [hcs, getLast?_append_of_ne hne, hlast]; rfl)
    rw [hd c (List.mem_of_getLast? hlast)] at hblank
    cases hblank

/-- A text without blanks is solid. -/
theorem solid_of_any {cs : List Char} (hne : cs ≠ []) (h : cs.any isBlank = false) : Solid cs where
  ne_nil := hne
  head c hc := Bool.eq_false_iff.2 (List.any_eq_false.1 h c (List.mem_of_head? hc))
  last c hc := Bool.eq_false_iff.2 (List.any_eq_false.1 h c (List.mem_of_getLast? hc))

/-- Dropping characters at the end makes no text longer. -/
theorem length_dropEndWhile_le (p : Char → Bool) (cs : List Char) :
    (dropEndWhile p cs).length ≤ cs.length := by
  unfold dropEndWhile
  induction cs with
  | nil => exact Nat.le_refl _
  | cons c cs ih =>
    rw [List.foldr_cons]
    split
    · exact Nat.zero_le _
    · exact Nat.succ_le_succ ih

/-- Trimming makes no text longer. -/
theorem length_trim_le (cs : List Char) : (trim cs).length ≤ cs.length :=
  Nat.le_trans (length_dropEndWhile_le isBlank (trimStart cs))
    (List.dropWhile_sublist isBlank).length_le

/-- A text that trimming leaves as it is has no blanks at its ends. -/
theorem solid_of_trim_eq {cs : List Char} (h : trim cs = cs) (hne : cs ≠ []) : Solid cs := by
  have hhead : ∀ c ∈ cs.head?, isBlank c = false := by
    intro c hc
    cases cs with
    | nil => cases hc
    | cons d cs =>
      cases hc
      cases hblank : isBlank c with
      | false => rfl
      | true =>
        have hdrop : trimStart (c :: cs) = trimStart cs := List.dropWhile_cons_of_pos hblank
        have hlength : (trim (c :: cs)).length ≤ cs.length := by
          unfold trim trimEnd
          rw [hdrop]
          exact Nat.le_trans (length_dropEndWhile_le _ _) (List.dropWhile_sublist _).length_le
        rw [h] at hlength
        exact absurd hlength (Nat.not_succ_le_self _)
  refine ⟨hne, hhead, fun c hc => ?_⟩
  have hstart : trimStart cs = cs := trimStart_append blanks_nil hhead
  cases hblank : isBlank c with
  | false => rfl
  | true =>
    obtain ⟨init, rfl⟩ := List.getLast?_eq_some_iff.1 hc
    have hlength : (trim (init ++ [c])).length ≤ init.length := by
      unfold trim trimEnd
      rw [hstart, dropEndWhile_append init (by simpa using hblank)]
      exact length_dropEndWhile_le _ _
    rw [h, List.length_append] at hlength
    exact absurd hlength (Nat.not_succ_le_self _)

/-- What is dropped at the end satisfies the test, and what then is at the end does not. -/
theorem exists_dropEndWhile (p : Char → Bool) (cs : List Char) :
    ∃ d, (∀ c ∈ d, p c = true) ∧ cs = dropEndWhile p cs ++ d ∧
      ∀ c ∈ (dropEndWhile p cs).getLast?, p c = false := by
  unfold dropEndWhile
  induction cs with
  | nil => exact ⟨[], by simp, rfl, by simp⟩
  | cons c cs ih =>
    obtain ⟨d, hd, hcs, hlast⟩ := ih
    rw [List.foldr_cons]
    generalize hkept :
      List.foldr (fun c rest => if rest.isEmpty && p c then [] else c :: rest) [] cs = kept
        at hcs hlast ⊢
    cases kept with
    | nil =>
      cases hc : p c with
      | true =>
        refine ⟨c :: d, List.forall_mem_cons.2 ⟨hc, hd⟩, ?_, by simp⟩
        rw [hcs]
        simp
      | false => exact ⟨d, hd, by rw [hcs]; simp, by simp [hc]⟩
    | cons k kept =>
      refine ⟨d, hd, by rw [hcs]; simp, fun e he => hlast e ?_⟩
      simpa using he

/-- A text is what trimming leaves of it with blanks around, and that is solid unless it is
empty. -/
theorem exists_around_trim (cs : List Char) :
    ∃ b d, Blanks b ∧ Blanks d ∧ cs = b ++ (trim cs ++ d) ∧ (trim cs = [] ∨ Solid (trim cs)) := by
  obtain ⟨d, hd, hend, hlast⟩ := exists_dropEndWhile isBlank (trimStart cs)
  change trimStart cs = trim cs ++ d at hend
  change ∀ c ∈ (trim cs).getLast?, isBlank c = false at hlast
  obtain ⟨b, hb, hstart⟩ := exists_trimStart cs
  refine ⟨b, d, hb, hd, ?_, ?_⟩
  · rw [← hend]
    exact hstart
  · by_cases hne : trim cs = []
    · exact .inl hne
    · refine .inr ⟨hne, fun c hc => ?_, hlast⟩
      rw [← head?_append_of_ne hne (w := d), ← hend] at hc
      have hhead := List.head?_dropWhile_not isBlank cs
      rw [trimStart] at hc
      rw [hc] at hhead
      exact hhead

/-- Trimming again changes nothing. -/
theorem trim_trim (cs : List Char) : trim (trim cs) = trim cs := by
  obtain ⟨-, -, -, -, -, hempty | hsolid⟩ := exists_around_trim cs
  · rw [hempty]
    rfl
  · exact hsolid.trim_eq

/-- Blanks in front make no difference to trimming. -/
theorem trim_append {b : List Char} (hb : Blanks b) (cs : List Char) :
    trim (b ++ cs) = trim cs := by
  unfold trim trimStart
  rw [List.dropWhile_append_of_pos hb]

/-- Where no blank is at the end, trimming the start is enough. -/
theorem trim_eq_trimStart {cs : List Char} (h : ∀ c ∈ cs.getLast?, isBlank c = false) :
    trim cs = trimStart cs := by
  obtain ⟨b, -, hcs⟩ := exists_trimStart cs
  refine dropEndWhile_eq_self fun c hc => h c ?_
  have hne : trimStart cs ≠ [] := by
    intro hnil
    rw [hnil] at hc
    cases hc
  rwa [hcs, getLast?_append_of_ne hne]

/-- What trimming leaves is solid unless it is empty. -/
theorem solid_trim {cs : List Char} (h : trim cs ≠ []) : Solid (trim cs) :=
  solid_of_trim_eq (trim_trim cs) h

/-- A character at the start that is no blank stays there. -/
theorem head?_trim {c : Char} {cs : List Char} (h : cs.head? = some c) (hc : isBlank c = false) :
    (trim cs).head? = some c := by
  obtain ⟨b, d, hb, hd, hcs, -⟩ := exists_around_trim cs
  have hkept (u : List Char) (hu : Blanks u) : u.head? ≠ some c := by
    intro hhead
    have hblank := hu c (List.mem_of_mem_head? hhead)
    rw [hc] at hblank
    cases hblank
  cases b with
  | cons e b =>
    rw [hcs, head?_append_of_ne (List.cons_ne_nil e b)] at h
    exact absurd h (hkept _ hb)
  | nil =>
    rw [List.nil_append] at hcs
    by_cases hempty : trim cs = []
    · rw [hempty, List.nil_append] at hcs
      exact absurd (hcs ▸ h) (hkept d hd)
    · rwa [hcs, head?_append_of_ne hempty] at h

/-- A character at the end that is no blank stays there. -/
theorem getLast?_trim {c : Char} {cs : List Char} (h : cs.getLast? = some c)
    (hc : isBlank c = false) : (trim cs).getLast? = some c := by
  have hstart : trim cs = trimStart cs :=
    trim_eq_trimStart fun d hd => by rwa [Option.some.inj (hd.symm.trans h)]
  obtain ⟨b, hb, hcs⟩ := exists_trimStart cs
  have hne : trimStart cs ≠ [] := by
    intro hnil
    rw [hnil, List.append_nil] at hcs
    have hblank := hb c (hcs ▸ List.mem_of_getLast? h)
    rw [hc] at hblank
    cases hblank
  rw [hcs, getLast?_append_of_ne hne] at h
  rwa [hstart]

/-- A solid text at the start of a text is still there after trimming. -/
theorem exists_trim_append {u : List Char} (h : Solid u) (cs : List Char) :
    ∃ rest, trim (u ++ cs) = u ++ rest := by
  have hstart : trimStart (u ++ cs) = u ++ cs := by
    have hhead : ∀ c ∈ (u ++ cs).head?, isBlank c = false := by
      rw [head?_append_of_ne h.ne_nil]
      exact h.head
    exact trimStart_append blanks_nil hhead
  obtain ⟨d, hd, hend, -⟩ := exists_dropEndWhile isBlank (u ++ cs)
  have htrim : trim (u ++ cs) = dropEndWhile isBlank (u ++ cs) := by
    rw [trim, hstart]
    rfl
  rw [← htrim] at hend
  obtain ⟨rest, hrest, -⟩ | ⟨rest, hu, hrest⟩ := List.append_eq_append_iff.1 hend
  · exact ⟨rest, hrest⟩
  · -- What is dropped at the end would reach into the solid text.
    have hnil : rest = [] :=
      h.eq_nil_of_blanks hu fun c hc => hd c (hrest ▸ List.mem_append_left _ hc)
    rw [hnil, List.append_nil] at hu
    exact ⟨[], by rw [List.append_nil, ← hu]⟩

/-- A character at the end that is no blank changes what trimming leaves. -/
theorem trim_concat_ne {c : Char} (hc : isBlank c = false) (cs : List Char) :
    trim (cs ++ [c]) ≠ trim cs := by
  have hsolid : Solid [c] := ⟨by simp, by simpa using hc, by simpa using hc⟩
  intro heq
  obtain ⟨b, d, hb, hd, hcs, hempty | htrim⟩ := exists_around_trim cs
  · have hblank : Blanks (b ++ d) := List.forall_mem_append.2 ⟨hb, hd⟩
    rw [hempty, List.nil_append] at hcs
    rw [hempty, hcs, trim_after hblank hsolid] at heq
    cases heq
  · have hjoin : cs ++ [c] = b ++ (trim cs ++ (d ++ [c])) := by
      calc cs ++ [c] = b ++ (trim cs ++ d) ++ [c] := congrArg (· ++ [c]) hcs
        _ = b ++ (trim cs ++ (d ++ [c])) := by simp
    rw [hjoin, trim_after hb (htrim.append d hsolid)] at heq
    simpa using congrArg List.length heq

end Automation.Text
