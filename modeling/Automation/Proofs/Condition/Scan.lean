import Automation.Condition
import Automation.Proofs.Text.Search
import Automation.Proofs.Text.Trim

/-!
# Scanning conditions

A scan for an operator passes over a text if the operator does not start in it, and if the text
leaves quotes and parentheses as they were (`Condition.Passes`). Whether it does may depend on what
comes after the text. Texts that a scan passes over can be put together; a text that it passes over
is cut after it at an operator (`Condition.cutOuter?_passes`), and is not cut where it ends
(`Condition.cutOuter?_none`).

The operators that conditions are scanned for are `Condition.marks`. A character is inert if none
of them starts with it and it is no quote, parenthesis or backslash (`Condition.isInert`). A text is
inert if it consists of inert characters, decimal points before digits, and anything in double
quotes (`Condition.Inert`). A scan passes over inert texts whatever comes after them.
-/

namespace Automation.Condition

open Text

/-- A cut with a text in front. -/
def prepend (u : List Char) (cut : List Char × List Char) : List Char × List Char :=
  (u ++ cut.1, cut.2)

/-- Texts may be put in front of a cut one after the other. -/
theorem map_prepend_prepend (u w : List Char) (cut : Option (List Char × List Char)) :
    (cut.map (prepend w)).map (prepend u) = cut.map (prepend (u ++ w)) := by
  cases cut with
  | none => rfl
  | some cut => simp [prepend]

/-- A scan for an operator passes over a text before another text, below any number of open
parentheses. -/
def Passes (op u v : List Char) : Prop :=
  ∀ depth, cutFrom? op ⟨false, false, depth⟩ (u ++ v) =
    (cutFrom? op ⟨false, false, depth⟩ v).map (prepend u)

/-- The character is a quote or a parenthesis. -/
def isShield (c : Char) : Bool :=
  c == '\'' || c == '"' || c == '(' || c == ')'

/-- No character of a text without quotes and parentheses is one of them. -/
theorem not_shield_of_any {cs : List Char} (h : cs.any isShield = false) :
    ∀ c ∈ cs, isShield c = false :=
  fun c hc => Bool.eq_false_iff.2 (List.any_eq_false.1 h c hc)

/-- A scan stays where it is at any other character. -/
theorem after?_of_not_shield {s : Scan} {c : Char} (h : isShield c = false) :
    s.after? c = none := by
  simp only [isShield, Bool.or_eq_false_iff, beq_eq_false_iff_ne] at h
  obtain ⟨⟨⟨hsingle, hdouble⟩, hopen⟩, hclose⟩ := h
  simp [Scan.after?, hsingle, hdouble, hopen, hclose]

/-- The empty text is not cut. -/
theorem cutFrom?_nil (op : List Char) (s : Scan) : cutFrom? op s [] = none := by
  rw [cutFrom?]

/-- A scan goes on after a character that changes nothing and starts no operator. -/
theorem cutFrom?_cons {op : List Char} {s : Scan} {c : Char} {cs : List Char}
    (hc : isShield c = false) (hop : s.isOuter = true → stripStart? op (c :: cs) = none) :
    cutFrom? op s (c :: cs) = (cutFrom? op s cs).map (prepend [c]) := by
  have hnone : (if s.isOuter then stripStart? op (c :: cs) else none) = none := by
    split
    · next houter => exact hop houter
    · rfl
  rw [cutFrom?, after?_of_not_shield hc]
  dsimp only
  rw [hnone]
  rfl

/-- A scan goes on after a quote or a parenthesis. -/
theorem cutFrom?_shield {op : List Char} {s next : Scan} {c : Char} {cs : List Char}
    (h : s.after? c = some next) :
    cutFrom? op s (c :: cs) = (cutFrom? op next cs).map (prepend [c]) := by
  rw [cutFrom?, h]
  rfl

/-! ## Texts that a scan passes over -/

/-- A scan passes over nothing. -/
theorem passes_nil (op v : List Char) : Passes op [] v := by
  intro depth
  cases h : cutFrom? op ⟨false, false, depth⟩ v <;> simp [h, prepend]

/-- A scan passes over one text and then over the next. -/
theorem Passes.append {op u w v : List Char} (hu : Passes op u (w ++ v)) (hw : Passes op w v) :
    Passes op (u ++ w) v := by
  intro depth
  rw [List.append_assoc, hu depth, hw depth, map_prepend_prepend]

/-- A scan passes over a character that shields nothing and at which the operator does not start. -/
theorem Passes.cons {op u v : List Char} {c : Char} (hc : isShield c = false)
    (hop : stripStart? op (c :: (u ++ v)) = none) (hu : Passes op u v) : Passes op (c :: u) v := by
  intro depth
  rw [List.cons_append, cutFrom?_cons hc fun _ => hop, hu depth, map_prepend_prepend]
  rfl

/-- Inside quotes a scan goes on to the closing one. -/
theorem cutFrom?_quoted (op : List Char) {q : Char} {inside after : Scan}
    (hinside : inside.isOuter = false) (hclose : inside.after? q = some after)
    (hother : ∀ c, c ≠ q → inside.after? c = none) {body : List Char} (h : q ∉ body)
    (v : List Char) :
    cutFrom? op inside (body ++ q :: v) = (cutFrom? op after v).map (prepend (body ++ [q])) := by
  induction body with
  | nil => exact cutFrom?_shield hclose
  | cons c body ih =>
    have hc : c ≠ q := fun heq => h (heq ▸ List.mem_cons_self ..)
    have hbody : q ∉ body := fun hmem => h (List.mem_cons_of_mem _ hmem)
    rw [List.cons_append, cutFrom?, hother c hc]
    dsimp only
    rw [hinside, ih hbody]
    exact map_prepend_prepend [c] (body ++ [q]) _

/-- Quotes of either kind shield what is between them. -/
theorem passes_quoted (op : List Char) {q : Char} (hq : q = '\'' ∨ q = '"') {body : List Char}
    (h : q ∉ body) (v : List Char) : Passes op (q :: (body ++ [q])) v := by
  intro depth
  obtain ⟨inside, hopen, hinside, hclose, hother⟩ : ∃ inside : Scan,
      (⟨false, false, depth⟩ : Scan).after? q = some inside ∧ inside.isOuter = false ∧
        inside.after? q = some ⟨false, false, depth⟩ ∧ ∀ c, c ≠ q → inside.after? c = none := by
    rcases hq with rfl | rfl
    · exact ⟨⟨true, false, depth⟩, rfl, rfl, rfl, fun c hc => by simp [Scan.after?, hc]⟩
    · exact ⟨⟨false, true, depth⟩, rfl, rfl, rfl, fun c hc => by simp [Scan.after?, hc]⟩
  rw [List.cons_append, List.append_assoc, cutFrom?_shield hopen]
  dsimp only [List.cons_append, List.nil_append]
  rw [cutFrom?_quoted op hinside hclose hother h, map_prepend_prepend]
  rfl

/-- Parentheses are passed over if what is between them is. -/
theorem passes_parens {op u v : List Char} (h : Passes op u (')' :: v)) :
    Passes op ('(' :: (u ++ [')'])) v := by
  intro depth
  have hopen : (⟨false, false, depth⟩ : Scan).after? '(' = some ⟨false, false, depth + 1⟩ := rfl
  have hclose : (⟨false, false, depth + 1⟩ : Scan).after? ')' = some ⟨false, false, depth⟩ := rfl
  rw [List.cons_append, List.append_assoc, cutFrom?_shield hopen]
  dsimp only [List.cons_append, List.nil_append]
  rw [h (depth + 1), cutFrom?_shield hclose, map_prepend_prepend, map_prepend_prepend]
  rfl

/-! ## Cuts -/

/-- The operator is not empty and does not start with a quote or a parenthesis. -/
def startsPlain (op : List Char) : Bool :=
  op.head?.any fun c => !isShield c

/-- An operator at the start of a text is found if it counts there. -/
theorem cutFrom?_here {op : List Char} (hop : startsPlain op = true) (v : List Char) :
    cutFrom? op Scan.start (op ++ v) = some ([], v) := by
  have hstrip := stripStart?_append op v
  cases op with
  | nil => cases hop
  | cons m op =>
    have hm : isShield m = false := by simpa [startsPlain] using hop
    have houter : Scan.start.isOuter = true := rfl
    rw [List.cons_append] at hstrip ⊢
    rw [cutFrom?, after?_of_not_shield hm]
    dsimp only
    rw [if_pos houter, hstrip]

/-- A text is cut at an operator if the scan passes over what is before that. -/
theorem cutOuter?_passes {op u v : List Char} {m : Char} (hm : op.head? = some m)
    (hshield : isShield m = false) (h : Passes op u (op ++ v)) :
    cutOuter? op (u ++ (op ++ v)) = some (u, v) := by
  have hop : startsPlain op = true := by simp [startsPlain, hm, hshield]
  have hfound := cutFrom?_here hop v
  rw [cutOuter?, Scan.start, h 0]
  rw [Scan.start] at hfound
  rw [hfound]
  simp [prepend]

/-- A text is not cut if the scan passes over all of it. -/
theorem cutOuter?_none {op u : List Char} (h : Passes op u []) : cutOuter? op u = none := by
  have hscan := h 0
  rw [List.append_nil, cutFrom?_nil] at hscan
  exact hscan

/-- The parts of a text are what stands before its first cut and the parts of what comes after
that. -/
theorem parts_succ {op cs : List Char} (h : cs ≠ []) (fuel : Nat) :
    parts op (fuel + 1) cs = match cutOuter? op cs with
      | some (before, rest) =>
        if (trim before).isEmpty then parts op fuel rest else trim before :: parts op fuel rest
      | none => if (trim cs).isEmpty then [] else [trim cs] := by
  cases cs with
  | nil => exact absurd rfl h
  | cons c cs => rfl

/-! ## Operators -/

/-- The operators that no condition may have. -/
def foreignMarks : List (List Char) :=
  [['=', '=', '='], ['!', '=', '='], ['>', '='], ['<', '='], ['>'], ['<']]

/-- The operators that conditions are scanned for. -/
def marks : List (List Char) :=
  [orMark, andMark, unequalMark, equalMark, includesMarker] ++ foreignMarks

/-- The characters that may start an operator, and those that shield or are shielded. -/
def specials : List Char :=
  ['\'', '"', '(', ')', '\\', '|', '&', '!', '=', '.', '>', '<']

/-- The character has no part in an operator and shields nothing. -/
def isInert (c : Char) : Bool :=
  !specials.contains c

/-- A character is inert if it is none of the special ones. -/
theorem isInert_iff {c : Char} : isInert c = true ↔ c ∉ specials := by
  simp [isInert]

/-- An inert character shields nothing. -/
theorem not_shield_of_inert {c : Char} (h : isInert c = true) : isShield c = false := by
  have hc := isInert_iff.1 h
  cases hshield : isShield c with
  | false => rfl
  | true =>
    refine absurd ?_ hc
    simp only [isShield, Bool.or_eq_true, beq_iff_eq] at hshield
    rcases hshield with ((rfl | rfl) | rfl) | rfl <;> decide

/-- Blanks are inert. -/
theorem isInert_of_blank {c : Char} (h : isBlank c = true) : isInert c = true := by
  have hspecials : specials.any isBlank = false := by decide
  exact isInert_iff.2 fun hc => List.any_eq_false.1 hspecials c hc h

/-- An operator does not stand where its first character does not. -/
theorem stripStart?_ne {op : List Char} {c : Char} (h : op.head?.any (· != c) = true)
    (cs : List Char) : stripStart? op (c :: cs) = none := by
  cases op with
  | nil => cases h
  | cons m op =>
    have hne : m ≠ c := by simpa using h
    rw [stripStart?, if_neg hne]

/-- No operator starts with an inert character. -/
theorem stripStart?_inert {op : List Char} (hop : op ∈ marks) {c : Char} (hc : isInert c = true)
    (cs : List Char) : stripStart? op (c :: cs) = none := by
  have hheads : ∀ op ∈ marks, op.head?.any specials.contains = true := by decide
  have hhead := hheads op hop
  refine stripStart?_ne ?_ cs
  cases op with
  | nil => cases hhead
  | cons m op =>
    have hne : m ≠ c := by
      rintro rfl
      exact isInert_iff.1 hc (by simpa using hhead)
    simpa using hne

/-- Only one of the operators starts with a dot. -/
theorem eq_includesMarker {op : List Char} (hop : op ∈ marks) :
    op = includesMarker ∨ op.head?.any (· != '.') = true := by
  have hdot : ∀ op ∈ marks, op = includesMarker ∨ op.head?.any (· != '.') = true := by decide
  exact hdot op hop

/-- No operator starts with a point before a digit. -/
theorem stripStart?_point {op : List Char} (hop : op ∈ marks) {d : Char} (hd : isDigit d = true)
    (cs : List Char) : stripStart? op ('.' :: d :: cs) = none := by
  rcases eq_includesMarker hop with rfl | hhead
  · have hne : 'i' ≠ d := by
      rintro rfl
      exact absurd hd (by decide)
    rw [includesMarker, stripStart?, if_pos rfl, stripStart?, if_neg hne]
  · exact stripStart?_ne hhead _

/-- Digits are inert. -/
theorem isInert_of_digit {d : Char} (h : isDigit d = true) : isInert d = true := by
  have hspecials : specials.any isDigit = false := by decide
  exact isInert_iff.2 fun hd => List.any_eq_false.1 hspecials d hd h

/-- A text of inert characters, decimal points before digits, and anything in double quotes. -/
inductive Inert : List Char → Prop where
  | nil : Inert []
  | cons {c : Char} {cs : List Char} (hc : isInert c = true) (h : Inert cs) : Inert (c :: cs)
  | point {d : Char} {cs : List Char} (hd : isDigit d = true) (h : Inert cs) :
    Inert ('.' :: d :: cs)
  | quoted {body cs : List Char} (hbody : '"' ∉ body) (h : Inert cs) :
    Inert (('"' :: (body ++ ['"'])) ++ cs)

/-- Inert texts one after the other are inert. -/
theorem Inert.append {u w : List Char} (hu : Inert u) (hw : Inert w) : Inert (u ++ w) := by
  induction hu with
  | nil => exact hw
  | cons hc _ ih => exact .cons hc ih
  | point hd _ ih => exact .point hd ih
  | quoted hbody _ ih =>
    rw [List.append_assoc]
    exact .quoted hbody ih

/-- Inert characters are an inert text. -/
theorem Inert.of_all {u : List Char} (h : ∀ c ∈ u, isInert c = true) : Inert u := by
  induction u with
  | nil => exact .nil
  | cons c u ih =>
    exact .cons (h c (List.mem_cons_self ..)) (ih fun d hd => h d (List.mem_cons_of_mem _ hd))

/-- A scan for an operator passes over an inert text. -/
theorem Inert.passes {u op : List Char} (hu : Inert u) (hop : op ∈ marks) (v : List Char) :
    Passes op u v := by
  induction hu with
  | nil => exact passes_nil op v
  | cons hc _ ih => exact .cons (not_shield_of_inert hc) (stripStart?_inert hop hc _) ih
  | point hd _ ih =>
    have hd' := isInert_of_digit hd
    refine .cons rfl (stripStart?_point hop hd _) ?_
    exact .cons (not_shield_of_inert hd') (stripStart?_inert hop hd' _) ih
  | quoted hbody _ ih => exact .append (passes_quoted op (.inr rfl) hbody _) ih

/-- Every scan passes over blanks. -/
theorem blanks_passes {b op : List Char} (hb : Blanks b) (hop : op ∈ marks) (v : List Char) :
    Passes op b v :=
  (Inert.of_all fun c hc => isInert_of_blank (hb c hc)).passes hop v

end Automation.Condition
