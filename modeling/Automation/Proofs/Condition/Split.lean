import Automation.Proofs.Condition.Scan

/-!
# Where conditions are split

`Scan.past` is the place where a scan stands after a text. An operator counts where the scan is back
at its start, and a text is cut at the first such place (`Condition.cutOuter?_eq_some`,
`Condition.cutOuter?_eq_none_iff`). It follows that a part of a text, which starts where the scan is
at its start, has no outer operators that the text does not have (`Condition.cutOuter?_part`). The
depth of a scan is bounded by the length of the text (`Condition.Scan.depth_past_lt`).

`Condition.elements` are the trimmed texts between the outer occurrences of an operator.
`Condition.parts` are the same without those that are empty (`Condition.parts_eq`). An element has
no outer occurrence of the operator (`Condition.cutOuter?_element`), nor one of another operator
unless the text has it (`Condition.cutOuter?_element_other`). What a text is split into is shorter
than the text (`Condition.length_lt_of_split?`), so a recursion over the parts ends.
-/

namespace Automation.Condition

open Text

namespace Scan

/-- The place after any character. -/
def next (s : Scan) (c : Char) : Scan :=
  (s.after? c).getD s

/-- The place after a text. -/
def past (s : Scan) (cs : List Char) : Scan :=
  cs.foldl next s

@[simp] theorem past_nil (s : Scan) : s.past [] = s :=
  rfl

@[simp] theorem past_cons (s : Scan) (c : Char) (cs : List Char) :
    s.past (c :: cs) = (s.next c).past cs :=
  rfl

/-- A scan goes on with one text where it has come to with another one. -/
theorem past_append (s : Scan) (u v : List Char) : s.past (u ++ v) = (s.past u).past v :=
  List.foldl_append

/-- Operators count exactly at the start of a scan. -/
theorem isOuter_iff {s : Scan} : s.isOuter = true ↔ s = start := by
  obtain ⟨single, double, depth⟩ := s
  cases single <;> cases double <;> simp [isOuter, start]

/-- A character that is neither a quote nor a parenthesis changes nothing. -/
theorem next_of_not_shield {c : Char} (h : isShield c = false) (s : Scan) : s.next c = s := by
  rw [next, after?_of_not_shield h]
  rfl

/-- A quote or a parenthesis changes what it is said to change. -/
theorem next_of_after? {s next : Scan} {c : Char} (h : s.after? c = some next) :
    s.next c = next := by
  rw [Scan.next, h]
  rfl

/-- Text without quotes and parentheses changes nothing. -/
theorem past_of_not_shield {cs : List Char} (h : ∀ c ∈ cs, isShield c = false) (s : Scan) :
    s.past cs = s := by
  induction cs with
  | nil => rfl
  | cons c cs ih =>
    rw [past_cons, next_of_not_shield (h c (List.mem_cons_self ..))]
    exact ih fun d hd => h d (List.mem_cons_of_mem _ hd)

/-- A character opens at most one parenthesis. -/
theorem depth_next_le (s : Scan) (c : Char) : (s.next c).depth ≤ s.depth + 1 := by
  unfold next after?
  split
  · exact Nat.le_succ s.depth
  · split
    · exact Nat.le_succ s.depth
    · split
      · exact Nat.le_refl _
      · split
        · exact Nat.le_trans (Nat.sub_le ..) (Nat.le_succ s.depth)
        · exact Nat.le_succ s.depth

/-- No more parentheses are open than characters have been read. -/
theorem depth_past_le (s : Scan) (cs : List Char) : (s.past cs).depth ≤ s.depth + cs.length := by
  induction cs generalizing s with
  | nil => exact Nat.le_refl _
  | cons c cs ih =>
    calc
      ((s.next c).past cs).depth ≤ (s.next c).depth + cs.length := ih (s.next c)
      _ ≤ s.depth + 1 + cs.length := Nat.add_le_add_right (s.depth_next_le c) _
      _ = s.depth + (c :: cs).length := by rw [List.length_cons, Nat.add_right_comm, Nat.add_assoc]

/-- In a text with fewer than `2 ^ 31` characters the depth is always a signed word of 32 bits. -/
theorem depth_past_lt {u v : List Char} (h : (u ++ v).length < Nat.pow 2 31) :
    (start.past u).depth < Nat.pow 2 31 := by
  have hdepth : (start.past u).depth ≤ 0 + u.length := depth_past_le start u
  rw [List.length_append] at h
  omega

/-- Blanks change nothing. -/
theorem past_blanks {b : List Char} (hb : Blanks b) (s : Scan) : s.past b = s :=
  past_of_not_shield (fun c hc => not_shield_of_inert (isInert_of_blank (hb c hc))) s

end Scan

/-! ## Cuts -/

section
variable {op : List Char}

/-- An operator has a first character. -/
theorem ne_nil_of_startsPlain (hop : startsPlain op = true) : op ≠ [] := by
  rintro rfl
  cases hop

/-- A scan goes on after a character, unless an operator counts there. -/
theorem cutFrom?_next {s : Scan} {c : Char} {cs : List Char}
    (h : s = Scan.start → ∀ v, c :: cs ≠ op ++ v) :
    cutFrom? op s (c :: cs) = (cutFrom? op (s.next c) cs).map (prepend [c]) := by
  cases hafter : s.after? c with
  | some next => rw [cutFrom?_shield hafter, Scan.next_of_after? hafter]
  | none =>
    have hnone : (if s.isOuter then stripStart? op (c :: cs) else none) = none := by
      split
      · next houter =>
        refine Option.eq_none_iff_forall_ne_some.2 fun v hv => ?_
        exact h (Scan.isOuter_iff.1 houter) v (stripStart?_eq_some_iff.1 hv)
      · rfl
    have hnext : s.next c = s := by
      rw [Scan.next, hafter]
      rfl
    rw [cutFrom?, hafter, hnext]
    dsimp only
    rw [hnone]
    rfl

/-- A text is not cut if and only if the operator counts at no place of it. -/
theorem cutFrom?_eq_none_iff (hop : startsPlain op = true) {s : Scan} {cs : List Char} :
    cutFrom? op s cs = none ↔
      ∀ u v, cs = u ++ (op ++ v) → s.past u ≠ Scan.start := by
  induction cs generalizing s with
  | nil => simp [cutFrom?_nil, ne_nil_of_startsPlain hop]
  | cons c cs ih =>
    by_cases hhere : s = Scan.start ∧ ∃ v, c :: cs = op ++ v
    · obtain ⟨rfl, v, hv⟩ := hhere
      rw [hv, cutFrom?_here hop]
      constructor
      · intro h
        cases h
      · exact fun h => absurd rfl (h [] v rfl)
    · have hno : s = Scan.start → ∀ v, c :: cs ≠ op ++ v :=
        fun hs v hv => hhere ⟨hs, v, hv⟩
      rw [cutFrom?_next hno, Option.map_eq_none_iff, ih]
      constructor
      · intro h u v heq
        cases u with
        | nil => exact fun hs => hno hs v heq
        | cons d u =>
          obtain ⟨rfl, htail⟩ := List.cons.inj heq
          exact h u v htail
      · exact fun h u v heq => h (c :: u) v (congrArg (c :: ·) heq)

/-- A text is cut at a place where the operator counts, and it counts at none inside the text before
that. -/
theorem cutFrom?_eq_some (hop : startsPlain op = true) {s : Scan} {cs u v : List Char}
    (h : cutFrom? op s cs = some (u, v)) :
    cs = u ++ (op ++ v) ∧ s.past u = Scan.start ∧ cutFrom? op s u = none := by
  induction cs generalizing s u with
  | nil => simp [cutFrom?_nil] at h
  | cons c cs ih =>
    by_cases hhere : s = Scan.start ∧ ∃ v, c :: cs = op ++ v
    · obtain ⟨rfl, v', hv⟩ := hhere
      rw [hv, cutFrom?_here hop] at h
      cases h
      exact ⟨hv, rfl, cutFrom?_nil ..⟩
    · have hno : s = Scan.start → ∀ v, c :: cs ≠ op ++ v :=
        fun hs v hv => hhere ⟨hs, v, hv⟩
      rw [cutFrom?_next hno] at h
      obtain ⟨⟨u', v'⟩, hcut, heq⟩ := Option.map_eq_some_iff.1 h
      obtain ⟨rfl, rfl⟩ := Prod.mk.inj heq
      obtain ⟨hcs, hpast, hnone⟩ := ih hcut
      dsimp only [List.cons_append, List.nil_append]
      refine ⟨congrArg (c :: ·) hcs, hpast, ?_⟩
      have hno' : s = Scan.start → ∀ v, c :: u' ≠ op ++ v := by
        intro hs w hw
        refine hno hs (w ++ (op ++ v')) ?_
        calc
          c :: cs = c :: u' ++ (op ++ v') := congrArg (c :: ·) hcs
          _ = op ++ (w ++ (op ++ v')) := by rw [hw, List.append_assoc]
      rw [cutFrom?_next hno', hnone]
      rfl

/-- A text is not cut if and only if the operator counts at no place of it. -/
theorem cutOuter?_eq_none_iff (hop : startsPlain op = true) {cs : List Char} :
    cutOuter? op cs = none ↔
      ∀ u v, cs = u ++ (op ++ v) → Scan.start.past u ≠ Scan.start :=
  cutFrom?_eq_none_iff hop

/-- A text is cut at a place where the operator counts, and it counts at none inside the text before
that. -/
theorem cutOuter?_eq_some (hop : startsPlain op = true) {cs u v : List Char}
    (h : cutOuter? op cs = some (u, v)) :
    cs = u ++ (op ++ v) ∧ Scan.start.past u = Scan.start ∧ cutOuter? op u = none :=
  cutFrom?_eq_some hop h

/-- An operator that does not count in a text does not in a part of it that starts where the scan is
at its start. -/
theorem cutOuter?_part (hop : startsPlain op = true) {u w v : List Char}
    (h : cutOuter? op (u ++ (w ++ v)) = none) (hu : Scan.start.past u = Scan.start) :
    cutOuter? op w = none := by
  rw [cutOuter?_eq_none_iff hop] at h ⊢
  rintro before after rfl hbefore
  refine h (u ++ before) (after ++ v) ?_ ?_
  · simp only [List.append_assoc]
  · rw [Scan.past_append, hu, hbefore]

/-- Trimming leaves a text without outer occurrences of an operator. -/
theorem cutOuter?_trim (hop : startsPlain op = true) {cs : List Char}
    (h : cutOuter? op cs = none) : cutOuter? op (trim cs) = none := by
  obtain ⟨b, d, hb, -, hcs, -⟩ := exists_around_trim cs
  rw [hcs] at h
  exact cutOuter?_part hop h (Scan.past_blanks hb _)

end

/-! ## Elements -/

/-- The trimmed texts between outer occurrences of an operator, be they empty or not; `fuel` bounds
the number of occurrences. -/
def elementsWithin (op : List Char) : Nat → List Char → List (List Char)
  | 0, cs => [trim cs]
  | fuel + 1, cs =>
    match cutOuter? op cs with
    | some (before, rest) => trim before :: elementsWithin op fuel rest
    | none => [trim cs]

/-- The trimmed texts between outer occurrences of an operator, be they empty or not. -/
def elements (op cs : List Char) : List (List Char) :=
  elementsWithin op cs.length cs

section
variable {op : List Char}

/-- What comes after a cut is shorter than the text. -/
theorem length_rest_le (hop : startsPlain op = true) {cs before rest : List Char} {fuel : Nat}
    (hcs : cs = before ++ (op ++ rest)) (h : cs.length ≤ fuel + 1) : rest.length ≤ fuel := by
  have hpos := List.length_pos_iff.2 (ne_nil_of_startsPlain hop)
  rw [hcs, List.length_append, List.length_append] at h
  omega

/-- A text has at least one element. -/
theorem elementsWithin_ne_nil (op : List Char) (fuel : Nat) (cs : List Char) :
    elementsWithin op fuel cs ≠ [] := by
  cases fuel with
  | zero => simp [elementsWithin]
  | succ fuel =>
    rw [elementsWithin]
    split <;> simp

/-- With fuel enough the parts are the elements that are not empty. -/
theorem parts_eq_filter (hop : startsPlain op = true) {fuel : Nat} {cs : List Char}
    (h : cs.length ≤ fuel) :
    parts op fuel cs = (elementsWithin op fuel cs).filter (!·.isEmpty) := by
  induction fuel generalizing cs with
  | zero =>
    obtain rfl := List.length_eq_zero_iff.1 (Nat.le_zero.1 h)
    rfl
  | succ fuel ih =>
    cases cs with
    | nil => rfl
    | cons c cs =>
      rw [parts_succ (List.cons_ne_nil c cs), elementsWithin]
      cases hcut : cutOuter? op (c :: cs) with
      | none => cases hempty : (trim (c :: cs)).isEmpty <;> simp [hempty]
      | some cut =>
        obtain ⟨before, rest⟩ := cut
        obtain ⟨hcs, -, -⟩ := cutOuter?_eq_some hop hcut
        have hrest : rest.length ≤ fuel := length_rest_le hop hcs h
        dsimp only
        rw [ih hrest]
        cases hempty : (trim before).isEmpty <;> simp [hempty]

/-- The parts of a text are its elements without those that are empty. -/
theorem parts_eq (hop : startsPlain op = true) (cs : List Char) :
    parts op cs.length cs = (elements op cs).filter (!·.isEmpty) :=
  parts_eq_filter hop (Nat.le_refl _)

/-- A text without outer occurrences of an operator is its only element. -/
theorem elements_of_none {cs : List Char} (h : cutOuter? op cs = none) :
    elements op cs = [trim cs] := by
  unfold elements
  cases cs.length with
  | zero => rfl
  | succ fuel =>
    rw [elementsWithin, h]

/-- The parts of a text that is split are its elements without those that are empty. -/
theorem split?_eq_some (hop : startsPlain op = true) {cs : List Char} {found : List (List Char)}
    (h : split? op cs = some found) :
    found = (elements op cs).filter (!·.isEmpty) ∧ 1 < found.length := by
  unfold split? at h
  dsimp only at h
  split at h
  · next hlength =>
    cases h
    exact ⟨parts_eq hop cs, hlength⟩
  · cases h

/-- A text without outer occurrences of an operator is not split. -/
theorem split?_of_none (hop : startsPlain op = true) {cs : List Char}
    (h : cutOuter? op cs = none) : split? op cs = none := by
  have hlength : (parts op cs.length cs).length ≤ 1 := by
    rw [parts_eq hop, elements_of_none h]
    exact List.length_filter_le ..
  exact if_neg (Nat.not_lt.2 hlength)

/-- A text none of whose elements is empty is only left unsplit if it has no outer occurrence of the
operator. -/
theorem cutOuter?_of_split?_none (hop : startsPlain op = true) {cs : List Char}
    (h : split? op cs = none) (hne : ∀ e ∈ elements op cs, e ≠ []) :
    cutOuter? op cs = none := by
  have hfilter : (elements op cs).filter (!·.isEmpty) = elements op cs :=
    List.filter_eq_self.2 fun e he => by simpa using hne e he
  cases hcut : cutOuter? op cs with
  | none => rfl
  | some cut =>
    obtain ⟨before, rest⟩ := cut
    have htwo : 1 < (elements op cs).length := by
      have hne : cs ≠ [] := by
        rintro rfl
        cases hcut
      obtain ⟨fuel, hfuel⟩ := Nat.exists_eq_add_one_of_ne_zero (mt List.length_eq_zero_iff.1 hne)
      rw [elements, hfuel, elementsWithin, hcut]
      exact Nat.succ_lt_succ (List.length_pos_iff.2 (elementsWithin_ne_nil op fuel rest))
    unfold split? at h
    dsimp only at h
    rw [parts_eq hop, hfilter, if_pos htwo] at h
    cases h

/-- The operator is not empty, and no quotes and parentheses are in it. -/
structure Plain (op : List Char) : Prop where
  ne_nil : op ≠ []
  shields : op.any isShield = false

/-- The mark `||` is plain. -/
theorem plain_orMark : Plain orMark :=
  ⟨by decide, by decide⟩

/-- The mark `&&` is plain. -/
theorem plain_andMark : Plain andMark :=
  ⟨by decide, by decide⟩

/-- A plain operator starts plainly. -/
theorem Plain.startsPlain (hop : Plain op) : startsPlain op = true := by
  cases op with
  | nil => exact absurd rfl hop.ne_nil
  | cons c op =>
    have hc := not_shield_of_any hop.shields c (List.mem_cons_self ..)
    simp [Condition.startsPlain, hc]

/-- An element is what trimming leaves of a part of the text that starts where the scan is at its
start and in which the operator does not count. -/
theorem exists_of_mem_elementsWithin (hop : Plain op) {fuel : Nat} {cs e : List Char}
    (h : cs.length ≤ fuel) (he : e ∈ elementsWithin op fuel cs) :
    ∃ u w v, cs = u ++ (w ++ v) ∧ Scan.start.past u = Scan.start ∧
      cutOuter? op w = none ∧ e = trim w := by
  induction fuel generalizing cs with
  | zero =>
    obtain rfl := List.length_eq_zero_iff.1 (Nat.le_zero.1 h)
    exact ⟨[], [], [], rfl, rfl, cutFrom?_nil .., List.mem_singleton.1 he⟩
  | succ fuel ih =>
    rw [elementsWithin] at he
    cases hcut : cutOuter? op cs with
    | none =>
      rw [hcut] at he
      exact ⟨[], cs, [], (List.append_nil cs).symm, rfl, hcut, List.mem_singleton.1 he⟩
    | some cut =>
      obtain ⟨before, rest⟩ := cut
      obtain ⟨hcs, hbefore, hnone⟩ := cutOuter?_eq_some hop.startsPlain hcut
      rw [hcut] at he
      rcases List.mem_cons.1 he with rfl | hrest
      · exact ⟨[], before, op ++ rest, hcs, rfl, hnone, rfl⟩
      · have hlength := length_rest_le hop.startsPlain hcs h
        obtain ⟨u, w, v, hsplit, hpast, hw, htrim⟩ := ih hlength hrest
        refine ⟨before ++ (op ++ u), w, v, ?_, ?_, hw, htrim⟩
        · rw [hcs, hsplit]
          simp only [List.append_assoc]
        · have hmark := Scan.past_of_not_shield (not_shield_of_any hop.shields) Scan.start
          rw [Scan.past_append, Scan.past_append, hbefore, hmark, hpast]

variable (hop : Plain op) {cs e : List Char} (he : e ∈ elements op cs)
include hop he

/-- Elements have no blanks around them. -/
theorem trim_element : trim e = e := by
  obtain ⟨-, w, -, -, -, -, rfl⟩ := exists_of_mem_elementsWithin hop (Nat.le_refl _) he
  exact trim_trim w

/-- The operator does not count in an element. -/
theorem cutOuter?_element : cutOuter? op e = none := by
  obtain ⟨-, w, -, -, -, hw, rfl⟩ := exists_of_mem_elementsWithin hop (Nat.le_refl _) he
  exact cutOuter?_trim hop.startsPlain hw

/-- An element is no longer than the text. -/
theorem length_element_le : e.length ≤ cs.length := by
  obtain ⟨u, w, v, rfl, -, -, rfl⟩ := exists_of_mem_elementsWithin hop (Nat.le_refl _) he
  have hw : (trim w).length ≤ w.length := length_trim_le w
  simp only [List.length_append]
  omega

/-- Another operator does not count in an element if it does not in the text. -/
theorem cutOuter?_element_other {other : List Char} (hother : startsPlain other = true)
    (h : cutOuter? other cs = none) : cutOuter? other e = none := by
  obtain ⟨u, w, v, rfl, hu, -, rfl⟩ := exists_of_mem_elementsWithin hop (Nat.le_refl _) he
  exact cutOuter?_trim hother (cutOuter?_part hother h hu)

end

/-- The parts of a text that is split are shorter than the text, because an operator has been taken
out. -/
theorem length_lt_of_split? {op cs : List Char} (hop : Plain op) {found : List (List Char)}
    (h : split? op cs = some found) : ∀ part ∈ found, part.length < cs.length := by
  intro part hpart
  obtain ⟨rfl, htwo⟩ := split?_eq_some hop.startsPlain h
  have helement := (List.mem_filter.1 hpart).1
  cases hcut : cutOuter? op cs with
  | none =>
    have hone := List.length_filter_le (!·.isEmpty) (elements op cs)
    rw [elements_of_none hcut] at hone htwo
    exact absurd (Nat.lt_of_lt_of_le htwo hone) (Nat.lt_irrefl 1)
  | some cut =>
    obtain ⟨before, rest⟩ := cut
    obtain ⟨hcs, -, -⟩ := cutOuter?_eq_some hop.startsPlain hcut
    have hlength : before.length + (op.length + rest.length) = cs.length := by
      rw [hcs, List.length_append, List.length_append]
    have hpos := List.length_pos_iff.2 hop.ne_nil
    obtain ⟨fuel, hfuel⟩ : ∃ fuel, cs.length = fuel + 1 := ⟨cs.length - 1, by omega⟩
    rw [elements, hfuel, elementsWithin, hcut] at helement
    rcases List.mem_cons.1 helement with rfl | hrest
    · have hbefore : (trim before).length ≤ before.length := length_trim_le before
      omega
    · have hle : rest.length ≤ fuel := by omega
      obtain ⟨u, w, v, rfl, -, -, rfl⟩ := exists_of_mem_elementsWithin hop hle hrest
      have hw : (trim w).length ≤ w.length := length_trim_le w
      simp only [List.length_append] at hlength
      omega

/-- Functions that agree on shorter texts agree on the parts of a text that is split. -/
theorem map_congr_of_split? {op cs : List Char} (hop : Plain op) {found : List (List Char)}
    (h : split? op cs = some found) {β : Type} {f g : List Char → β}
    (hfg : ∀ part : List Char, part.length < cs.length → f part = g part) :
    found.map f = found.map g :=
  List.map_congr_left fun part hpart => hfg part (length_lt_of_split? hop h part hpart)

end Automation.Condition
