import Automation.Proofs.Condition.Operand
import Automation.Proofs.Condition.Split

/-!
# The form of conditions

The grammar of conditions, as predicates on texts. A condition is a list of disjuncts, a disjunct a
list of conjuncts, and a conjunct a test below some negations; a test compares operands or is one;
and an operand is a JSON text or a path below one of the four roots (`Condition.Form.AnyOf`). No
place of a list may be empty, and an inclusion has to be closed. Blanks may stand around disjuncts,
conjuncts and operands, and after a negation.

What `Condition.isPath` and `Condition.checkOperand` accept has the form of a path
(`Condition.Form.path_of_isPath`) or of an operand (`Condition.Form.operand_of_check`). If there is
no backslash in it, a condition does not end in a bar and leaves neither quotes nor parentheses open
(`Condition.Form.AnyOf.tidy`).
-/

namespace Automation.Condition

open Text

namespace Form

/-! ## The grammar -/

/-- Texts of one form, joined by a mark. -/
inductive Listed (mark : List Char) (P : List Char → Prop) : List Char → Prop where
  | one {cs : List Char} (h : P cs) : Listed mark P cs
  | cons {u v : List Char} (h : P u) (hrest : Listed mark P v) : Listed mark P (u ++ (mark ++ v))

/-- A text of some form, possibly between blanks. -/
def Spaced (P : List Char → Prop) (cs : List Char) : Prop :=
  P (trim cs)

/-- Bracketed numbers. -/
inductive Indexes : List Char → Prop where
  | nil : Indexes []
  | cons {digits rest : List Char} (hne : digits ≠ []) (h : ∀ c ∈ digits, isDigit c = true)
      (hrest : Indexes rest) : Indexes ('[' :: (digits ++ ']' :: rest))

/-- A name, possibly with bracketed numbers after it. -/
inductive Segment : List Char → Prop where
  | mk {name indexes : List Char} (hne : name ≠ []) (h : ∀ c ∈ name, isNameChar c = true)
      (hindexes : Indexes indexes) : Segment (name ++ indexes)

/-- A path rooted at the trigger, the steps, the loop or the environment. -/
inductive Path : List Char → Prop where
  | trigger : Path "trigger".toList
  | loop : Path "loop".toList
  | env {name : List Char} (hne : name ≠ []) (h : ∀ c ∈ name, isNameChar c = true) :
      Path ("env".toList ++ '.' :: name)
  | below {root rest : List Char} (hroot : root ∈ ["trigger".toList, "steps".toList, "loop".toList])
      (h : Listed ['.'] Segment rest) : Path (root ++ '.' :: rest)

/-- A JSON text or a path. -/
inductive Operand : List Char → Prop where
  | literal {cs : List Char} {v : Json} (h : Json.ofChars? cs = some v) : Operand cs
  | path {cs : List Char} (h : Path cs) : Operand cs

/-- A comparison of two operands, or an operand alone. -/
inductive Test : List Char → Prop where
  | operand {cs : List Char} (h : Operand cs) : Test cs
  | equal {left right : List Char} (hleft : Spaced Operand left) (hright : Spaced Operand right) :
      Test (left ++ (equalMark ++ right))
  | unequal {left right : List Char} (hleft : Spaced Operand left) (hright : Spaced Operand right) :
      Test (left ++ (unequalMark ++ right))
  | includes {left right : List Char} (hleft : Spaced Operand left)
      (hright : Spaced Operand right) : Test (left ++ (includesMarker ++ (right ++ [')'])))

/-- A test below a number of negations. -/
inductive Atom : List Char → Prop where
  | test {cs : List Char} (h : Test cs) : Atom cs
  | not {cs : List Char} (h : Atom (trimStart cs)) : Atom ('!' :: cs)

/-- Conjuncts. -/
def AllOf : List Char → Prop :=
  Listed andMark (Spaced Atom)

/-- Disjuncts. -/
def AnyOf : List Char → Prop :=
  Listed orMark (Spaced AllOf)

/-! ## What is accepted as a path -/

/-- What may follow where nothing but bracketed numbers does: outside of a bracket more of them,
inside a bracket the rest of a number first, which is not empty if no digit has been read yet. -/
def Remaining : Option Bool → List Char → Prop
  | none, cs => Indexes cs
  | some saw, cs => ∃ digits rest, cs = digits ++ ']' :: rest ∧ (∀ c ∈ digits, isDigit c = true) ∧
      (saw = false → digits ≠ []) ∧ Indexes rest

/-- What is accepted as bracketed numbers is of their form. -/
theorem remaining_of_isIndexed {state : Option Bool} {cs : List Char}
    (h : isIndexed state cs = true) : Remaining state cs := by
  fun_induction isIndexed state cs with
  | case1 => exact .nil
  | case2 cs ih =>
    obtain ⟨digits, rest, rfl, hdigits, hne, hrest⟩ := ih h
    exact .cons (hne rfl) hdigits hrest
  | case3 => cases h
  | case4 => cases h
  | case5 saw cs ih =>
    obtain ⟨hsaw, h⟩ := Bool.and_eq_true_iff.1 h
    exact ⟨[], cs, rfl, by simp, fun hno => absurd (hsaw.symm.trans hno) (by decide), ih h⟩
  | case6 saw d cs _ ih =>
    obtain ⟨hd, h⟩ := Bool.and_eq_true_iff.1 h
    obtain ⟨digits, rest, rfl, hdigits, -, hrest⟩ := ih h
    exact ⟨d :: digits, rest, rfl, List.forall_mem_cons.2 ⟨hd, hdigits⟩, fun _ => by simp, hrest⟩

/-- What is accepted as a segment is of that form. -/
theorem segment_of_isSegment {cs : List Char} (h : isSegment cs = true) : Segment cs := by
  simp only [isSegment, Bool.and_eq_true] at h
  obtain ⟨⟨hne, hname⟩, hindexes⟩ := h
  rw [← List.takeWhile_append_dropWhile (p := (· != '[')) (l := cs)]
  exact .mk (by simpa using hne) (List.all_eq_true.1 hname) (remaining_of_isIndexed hindexes)

/-- A text is its pieces, joined by dots. -/
theorem listed_of_pieces {P : List Char → Prop} (fuel : Nat) {cs : List Char}
    (h : ∀ piece ∈ piecesWithin ['.'] fuel cs, P piece) : Listed ['.'] P cs := by
  induction fuel generalizing cs with
  | zero => exact .one (h cs (List.mem_singleton_self _))
  | succ fuel ih =>
    rw [piecesWithin] at h
    split at h
    · next before after hcut =>
      rw [cut?_dot hcut]
      obtain ⟨hbefore, hafter⟩ := List.forall_mem_cons.1 h
      exact .cons hbefore (ih hafter)
    · exact .one (h cs (List.mem_singleton_self _))

/-- What is accepted as a path is one. -/
theorem path_of_isPath {cs : List Char} (h : isPath cs = true) : Path cs := by
  unfold isPath at h
  split at h
  · cases h
  · split at h
    · next hwhole =>
      simp only [Bool.or_eq_true, beq_iff_eq] at hwhole
      rcases hwhole with htrigger | hloop
      · exact eq_of_ofList htrigger ▸ .trigger
      · exact eq_of_ofList hloop ▸ .loop
    · split at h
      · cases h
      · next root rest hcut =>
        rw [cut?_dot hcut]
        dsimp only at h
        split at h
        · next henv =>
          obtain ⟨hne, hname⟩ := Bool.and_eq_true_iff.1 h
          rw [eq_of_ofList (beq_iff_eq.1 henv)]
          exact .env (by simpa using hne) (List.all_eq_true.1 hname)
        · split at h
          · next hroot =>
            have hmem : root ∈ ["trigger".toList, "steps".toList, "loop".toList] := by
              simp only [Bool.or_eq_true, beq_iff_eq] at hroot
              simp only [List.mem_cons, List.not_mem_nil, or_false]
              exact hroot.imp (Or.imp eq_of_ofList eq_of_ofList) eq_of_ofList |> or_assoc.1
            have hsegments := List.all_eq_true.1 (Bool.and_eq_true_iff.1 h).2
            exact .below hmem (listed_of_pieces rest.length fun piece hp =>
              segment_of_isSegment (hsegments piece hp))
          · cases h

/-- What is accepted as an operand is one. -/
theorem operand_of_check {cs : List Char} (h : checkOperand cs = .ok ()) : Spaced Operand cs := by
  unfold checkOperand at h
  dsimp only at h
  split at h
  · cases h
  · split at h
    · next haccepted =>
      rcases Bool.or_eq_true_iff.1 haccepted with hliteral | hpath
      · obtain ⟨v, hv⟩ := Option.isSome_iff_exists.1 hliteral
        unfold literal? at hv
        split at hv
        · exact .literal hv
        · cases hv
      · exact .path (path_of_isPath hpath)
    · cases h

/-! ## Conditions without backslashes -/

/-- The text does not end in a bar, and leaves quotes and parentheses as they were. -/
structure Tidy (cs : List Char) : Prop where
  ne_nil : cs ≠ []
  last : cs.getLast? ≠ some '|'
  past : ∀ depth, (⟨false, false, depth⟩ : Scan).past cs = ⟨false, false, depth⟩

/-- Inside double quotes a scan stays there up to the closing one. -/
theorem past_body {body : List Char} (h : '"' ∉ body) (depth : Nat) :
    (⟨false, true, depth⟩ : Scan).past body = ⟨false, true, depth⟩ := by
  induction body with
  | nil => rfl
  | cons c body ih =>
    have hc : c ≠ '"' := fun heq => h (heq ▸ List.mem_cons_self ..)
    have hafter : (⟨false, true, depth⟩ : Scan).next c = ⟨false, true, depth⟩ := by
      simp [Scan.next, Scan.after?, hc]
    rw [Scan.past_cons, hafter]
    exact ih fun hmem => h (List.mem_cons_of_mem _ hmem)

/-- An inert text leaves quotes and parentheses as they were. -/
theorem past_inert {cs : List Char} (h : Inert cs) (depth : Nat) :
    (⟨false, false, depth⟩ : Scan).past cs = ⟨false, false, depth⟩ := by
  induction h with
  | nil => rfl
  | cons hc _ ih => rw [Scan.past_cons, Scan.next_of_not_shield (not_shield_of_inert hc), ih]
  | point hd _ ih =>
    have hpoint : isShield '.' = false := rfl
    have hdigit := not_shield_of_inert (isInert_of_digit hd)
    rw [Scan.past_cons, Scan.past_cons, Scan.next_of_not_shield hpoint,
      Scan.next_of_not_shield hdigit, ih]
  | @quoted body cs hbody _ ih =>
    have hopen : (⟨false, false, depth⟩ : Scan).next '"' = ⟨false, true, depth⟩ := rfl
    have hclose : (⟨false, true, depth⟩ : Scan).next '"' = ⟨false, false, depth⟩ := rfl
    rw [Scan.past_append, Scan.past_cons, hopen, Scan.past_append, past_body hbody, Scan.past_cons,
      hclose, Scan.past_nil, ih]

/-- An inert text does not end in a bar. -/
theorem last_inert {cs : List Char} (h : Inert cs) : cs.getLast? ≠ some '|' := by
  induction h with
  | nil => simp
  | @cons c cs hc _ ih =>
    cases cs with
    | nil =>
      rintro ⟨⟩
      exact absurd hc (by decide)
    | cons d cs => rwa [List.getLast?_cons_cons]
  | @point d cs hd _ ih =>
    cases cs with
    | nil =>
      rintro ⟨⟩
      exact absurd hd (by decide)
    | cons e cs => rwa [List.getLast?_cons_cons, List.getLast?_cons_cons]
  | @quoted body cs hbody _ ih =>
    by_cases hne : cs = []
    · subst hne
      rw [List.append_nil, ← List.cons_append, List.getLast?_concat]
      decide
    · rwa [getLast?_append_of_ne hne]

/-- A text in front without quotes and parentheses makes no difference. -/
theorem Tidy.after {u cs : List Char} (hu : ∀ c ∈ u, isShield c = false) (h : Tidy cs) :
    Tidy (u ++ cs) where
  ne_nil heq := h.ne_nil (List.append_eq_nil_iff.1 heq).2
  last := by
    rw [getLast?_append_of_ne h.ne_nil]
    exact h.last
  past depth := by rw [Scan.past_append, Scan.past_of_not_shield hu, h.past]

/-- Blanks around a text make no difference. -/
theorem Tidy.of_trim {cs : List Char} (h : Tidy (trim cs)) : Tidy cs := by
  obtain ⟨b, d, hb, hd, hcs, -⟩ := exists_around_trim cs
  rw [hcs]
  refine .after (fun c hc => not_shield_of_inert (isInert_of_blank (hb c hc))) ⟨?_, ?_, ?_⟩
  · exact fun heq => h.ne_nil (List.append_eq_nil_iff.1 heq).1
  · by_cases hempty : d = []
    · rw [hempty, List.append_nil]
      exact h.last
    · rw [getLast?_append_of_ne hempty]
      intro hbar
      exact absurd (hd _ (List.mem_of_getLast? hbar)) (by decide)
  · intro depth
    rw [Scan.past_append, h.past, Scan.past_blanks hd]

/-- Tidy texts that a mark joins are tidy. -/
theorem Tidy.join {mark u v : List Char} (hmark : mark.any isShield = false) (hu : Tidy u)
    (hv : Tidy v) : Tidy (u ++ (mark ++ v)) := by
  have hmv : Tidy (mark ++ v) := hv.after (not_shield_of_any hmark)
  refine ⟨fun heq => hu.ne_nil (List.append_eq_nil_iff.1 heq).1, ?_, fun depth => ?_⟩
  · rw [getLast?_append_of_ne hmv.ne_nil]
    exact hmv.last
  · rw [Scan.past_append, hu.past, hmv.past]

/-- Trimming adds no characters. -/
theorem not_mem_trim {c : Char} {cs : List Char} (h : c ∉ cs) : c ∉ trim cs := by
  obtain ⟨b, d, -, -, hcs, -⟩ := exists_around_trim cs
  rw [hcs, List.mem_append, List.mem_append] at h
  exact fun hmem => h (.inr (.inl hmem))

/-- Tidy texts that are joined are tidy. -/
theorem Listed.tidy {mark cs : List Char} {P : List Char → Prop}
    (hmark : mark.any isShield = false) (hP : ∀ cs, P cs → '\\' ∉ cs → Tidy cs)
    (h : Listed mark P cs) (hplain : '\\' ∉ cs) : Tidy cs := by
  induction h with
  | one h => exact hP _ h hplain
  | cons h _ ih =>
    rw [List.mem_append, List.mem_append, not_or, not_or] at hplain
    exact .join hmark (hP _ h hplain.1) (ih hplain.2.2)

/-- Texts that are joined have the characters of these texts and of the mark. -/
theorem Listed.chars {mark cs : List Char} {P : List Char → Prop} {p : Char → Bool}
    (hmark : mark.all p = true) (hP : ∀ cs, P cs → ∀ c ∈ cs, p c = true)
    (h : Listed mark P cs) : ∀ c ∈ cs, p c = true := by
  induction h with
  | one h => exact hP _ h
  | cons h _ ih =>
    exact List.forall_mem_append.2
      ⟨hP _ h, List.forall_mem_append.2 ⟨List.all_eq_true.1 hmark, ih⟩⟩

/-- Bracketed numbers have characters of paths only. -/
theorem Indexes.chars {cs : List Char} (h : Indexes cs) : ∀ c ∈ cs, isPathChar c = true := by
  induction h with
  | nil => simp
  | cons _ hdigits _ ih =>
    refine List.forall_mem_cons.2 ⟨rfl, List.forall_mem_append.2 ⟨fun c hc => ?_, ?_⟩⟩
    · exact isPathChar_of_digit (hdigits c hc)
    · exact List.forall_mem_cons.2 ⟨rfl, ih⟩

/-- The characters of names are characters of paths. -/
theorem isPathChar_of_name {c : Char} (h : isNameChar c = true) : isPathChar c = true := by
  simp [isPathChar, h]

/-- Segments have characters of paths only. -/
theorem Segment.chars {cs : List Char} (h : Segment cs) : ∀ c ∈ cs, isPathChar c = true := by
  obtain ⟨-, hname, hindexes⟩ := h
  exact List.forall_mem_append.2 ⟨fun c hc => isPathChar_of_name (hname c hc), hindexes.chars⟩

/-- Paths have characters of paths only. -/
theorem Path.chars {cs : List Char} (h : Path cs) : ∀ c ∈ cs, isPathChar c = true := by
  cases h with
  | trigger | loop => exact List.all_eq_true.1 (by decide)
  | env hne h =>
    exact pathChars_dot (List.all_eq_true.1 (by decide)) fun c hc => isPathChar_of_name (h c hc)
  | below hroot h =>
    have hroots : ∀ root ∈ ["trigger".toList, "steps".toList, "loop".toList],
        root.all isPathChar = true := by decide
    exact pathChars_dot (List.all_eq_true.1 (hroots _ hroot))
      (h.chars (by decide) fun _ hsegment => hsegment.chars)

/-- A path is not empty. -/
theorem Path.ne_nil {cs : List Char} (h : Path cs) : cs ≠ [] := by
  cases h with
  | trigger | loop => decide
  | env | below => exact List.append_ne_nil_of_right_ne_nil _ (List.cons_ne_nil _ _)

/-- A path is tidy, since it has no bars, quotes and parentheses. -/
theorem Path.tidy {cs : List Char} (h : Path cs) : Tidy cs where
  ne_nil := h.ne_nil
  last hbar := absurd (h.chars _ (List.mem_of_getLast? hbar)) (by decide)
  past depth := by
    refine Scan.past_of_not_shield (fun c hc => ?_) _
    by_cases hdot : c = '.'
    · rw [hdot]
      rfl
    · exact not_shield_of_inert (isInert_of_pathChar (h.chars c hc) hdot)

/-- Without a backslash no quote is escaped. -/
theorem escapesQuote_of_not_mem {cs : List Char} (h : '\\' ∉ cs) : escapesQuote cs = false := by
  have happend := escapesQuote_append h []
  rwa [List.append_nil] at happend

/-- An operand without backslashes is tidy. -/
theorem Operand.tidy {cs : List Char} (h : Operand cs) (hplain : '\\' ∉ cs) : Tidy cs := by
  cases h with
  | literal h =>
    have hinert := inert_of_json h (escapesQuote_of_not_mem hplain)
    refine ⟨?_, last_inert hinert, past_inert hinert⟩
    rintro rfl
    cases h
  | path h => exact h.tidy

/-- Blanks around a tidy text do not change that. -/
theorem Spaced.tidy {cs : List Char} {P : List Char → Prop}
    (hP : ∀ cs, P cs → '\\' ∉ cs → Tidy cs) (h : Spaced P cs) (hplain : '\\' ∉ cs) : Tidy cs :=
  .of_trim (hP _ h (not_mem_trim hplain))

/-- A comparison without backslashes is tidy. -/
theorem Test.tidy {cs : List Char} (h : Test cs) (hplain : '\\' ∉ cs) : Tidy cs := by
  cases h with
  | operand h => exact h.tidy hplain
  | equal hleft hright | unequal hleft hright =>
    rw [List.mem_append, List.mem_append, not_or, not_or] at hplain
    exact .join (by decide) (hleft.tidy (fun _ => Operand.tidy) hplain.1)
      (hright.tidy (fun _ => Operand.tidy) hplain.2.2)
  | includes hleft hright =>
    simp only [List.mem_append, not_or] at hplain
    have htidy := hleft.tidy (fun _ => Operand.tidy) hplain.1
    have htidy' := hright.tidy (fun _ => Operand.tidy) hplain.2.2.1
    refine ⟨fun heq => htidy.ne_nil (List.append_eq_nil_iff.1 heq).1, ?_, fun depth => ?_⟩
    · rw [← List.append_assoc, ← List.append_assoc, List.getLast?_concat]
      decide
    · have hopen : (⟨false, false, depth⟩ : Scan).past includesMarker = ⟨false, false, depth + 1⟩ :=
        rfl
      rw [Scan.past_append, htidy.past, Scan.past_append, hopen, Scan.past_append, htidy'.past]
      rfl

/-- A comparison below negations is tidy if it has no backslashes. -/
theorem Atom.tidy {cs : List Char} (h : Atom cs) (hplain : '\\' ∉ cs) : Tidy cs := by
  induction h with
  | test h => exact h.tidy hplain
  | @not cs _ ih =>
    obtain ⟨b, hb, hcs⟩ := exists_trimStart cs
    have hsplit : '!' :: cs = '!' :: b ++ trimStart cs := congrArg ('!' :: ·) hcs
    rw [hsplit] at hplain ⊢
    rw [List.mem_append, not_or] at hplain
    refine .after (List.forall_mem_cons.2 ⟨rfl, fun c hc => ?_⟩) (ih hplain.2)
    exact not_shield_of_inert (isInert_of_blank (hb c hc))

/-- Comparisons that all have to hold are tidy if they have no backslashes. -/
theorem AllOf.tidy {cs : List Char} (h : AllOf cs) (hplain : '\\' ∉ cs) : Tidy cs :=
  Listed.tidy (by decide) (fun _ => Spaced.tidy fun _ => Atom.tidy) h hplain

/-- A condition without backslashes is tidy. -/
theorem AnyOf.tidy {cs : List Char} (h : AnyOf cs) (hplain : '\\' ∉ cs) : Tidy cs :=
  Listed.tidy (by decide) (fun _ => Spaced.tidy fun _ => AllOf.tidy) h hplain

end Form

end Automation.Condition
