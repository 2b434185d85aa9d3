import Automation.Proofs.Condition.Literal
import Automation.Proofs.Condition.Tree

/-!
# Operands of conditions

An operand is a path that conditions may use, or a JSON text without escaped double quotes in its
strings (`Condition.Operand`). Its text is solid, does not start like an operator, a template or a
script, and is passed over by the scans of conditions, which is all that they need of it
(`Condition.Sealed`). It is accepted by the check (`Condition.Operand.check_text`) and has the value
that it should have (`Condition.Operand.value_text`).
-/

namespace Automation.Condition

open Text

/-! ## Paths -/

/-- A character of a path. -/
def isPathChar (c : Char) : Bool :=
  isNameChar c || c == '[' || c == ']' || c == '.'

/-- A digit is a character of paths. -/
theorem isPathChar_of_digit {c : Char} (h : isDigit c = true) : isPathChar c = true := by
  simp [isPathChar, isNameChar, h]

/-- But for the dots, the characters of a path are inert. -/
theorem isInert_of_pathChar {c : Char} (h : isPathChar c = true) (hdot : c ≠ '.') :
    isInert c = true := by
  have hspecials : specials.any (fun d => d != '.' && isPathChar d) = false := by decide
  exact isInert_iff.2 fun hc => List.any_eq_false.1 hspecials c hc (by simp [hdot, h])

/-- The text does not start with any of some characters. -/
def Avoids (cs v : List Char) : Prop :=
  ∀ c ∈ v.head?, c ∉ cs

/-- A marker with a parenthesis does not stand in front of a text without one, if what comes after
that does not go on with the marker. -/
theorem stripStart?_paren {marker u v : List Char} (hm : '(' ∈ marker) (hu : '(' ∉ u)
    (hv : Avoids marker v) : stripStart? marker (u ++ v) = none := by
  induction marker generalizing u with
  | nil => cases hm
  | cons m marker ih =>
    cases u with
    | nil =>
      cases v with
      | nil => rfl
      | cons c v =>
        have hne : m ≠ c := fun h => hv c rfl (h ▸ List.mem_cons_self ..)
        rw [List.nil_append, stripStart?, if_neg hne]
    | cons c u =>
      rw [List.cons_append, stripStart?]
      split
      · next hmc =>
        have hc : '(' ≠ m := fun h => hu (h ▸ hmc ▸ List.mem_cons_self ..)
        refine ih ((List.mem_cons.1 hm).resolve_left hc)
          (fun h => hu (List.mem_cons_of_mem _ h)) fun d hd hmem => ?_
        exact hv d hd (List.mem_cons_of_mem _ hmem)
      · rfl

/-- What comes after an operand does not go on with the marker of an inclusion. -/
def Ends (v : List Char) : Prop :=
  Avoids includesMarker.tail v

/-- A scan for an operator passes over the characters of a path. -/
theorem passes_path {u op v : List Char} (hu : ∀ c ∈ u, isPathChar c = true) (hop : op ∈ marks)
    (hv : Ends v) : Passes op u v := by
  induction u with
  | nil => exact passes_nil op v
  | cons c u ih =>
    have hc := hu c (List.mem_cons_self ..)
    have hrest : ∀ d ∈ u, isPathChar d = true := fun d hd => hu d (List.mem_cons_of_mem _ hd)
    by_cases hdot : c = '.'
    · subst hdot
      refine .cons rfl ?_ (ih hrest)
      have hparen : '(' ∉ u := fun hmem => by
        have hpath := hrest _ hmem
        exact absurd hpath (by decide)
      rcases eq_includesMarker hop with rfl | hhead
      · rw [includesMarker, stripStart?, if_pos rfl]
        exact stripStart?_paren (by decide) hparen hv
      · exact stripStart?_ne hhead _
    · have hinert := isInert_of_pathChar hc hdot
      exact .cons (not_shield_of_inert hinert) (stripStart?_inert hop hinert _) (ih hrest)

/-- A text is cut at a dot. -/
theorem cut?_dot {cs before rest : List Char} (h : cut? ['.'] cs = some (before, rest)) :
    cs = before ++ '.' :: rest :=
  cut?_eq_some h

/-- Bracketed numbers have characters of paths only. -/
theorem isIndexed_chars {state : Option Bool} {cs : List Char} (h : isIndexed state cs = true) :
    ∀ c ∈ cs, isPathChar c = true := by
  fun_induction isIndexed state cs with
  | case1 => simp
  | case2 cs ih =>
    intro c hc
    rcases List.mem_cons.1 hc with rfl | hc
    · rfl
    · exact ih h c hc
  | case3 => cases h
  | case4 => cases h
  | case5 saw cs ih =>
    intro c hc
    obtain ⟨-, h⟩ := Bool.and_eq_true_iff.1 h
    rcases List.mem_cons.1 hc with rfl | hc
    · rfl
    · exact ih h c hc
  | case6 saw d cs _ ih =>
    intro c hc
    obtain ⟨hd, h⟩ := Bool.and_eq_true_iff.1 h
    rcases List.mem_cons.1 hc with rfl | hc
    · exact isPathChar_of_digit hd
    · exact ih h c hc

/-- Segments have characters of paths only. -/
theorem isSegment_chars {cs : List Char} (h : isSegment cs = true) :
    ∀ c ∈ cs, isPathChar c = true := by
  simp only [isSegment, Bool.and_eq_true] at h
  obtain ⟨⟨-, hname⟩, hindex⟩ := h
  intro c hc
  rw [← List.takeWhile_append_dropWhile (p := (· != '[')) (l := cs), List.mem_append] at hc
  rcases hc with hc | hc
  · simp [isPathChar, List.all_eq_true.1 hname c hc]
  · exact isIndexed_chars hindex c hc

/-- A text has characters of paths only if its pieces between dots have. -/
theorem piecesWithin_chars (fuel : Nat) {cs : List Char}
    (h : ∀ piece ∈ piecesWithin ['.'] fuel cs, ∀ c ∈ piece, isPathChar c = true) :
    ∀ c ∈ cs, isPathChar c = true := by
  induction fuel generalizing cs with
  | zero => exact h cs (List.mem_singleton_self _)
  | succ fuel ih =>
    rw [piecesWithin] at h
    split at h
    · next before after hcut =>
      intro c hc
      rw [cut?_dot hcut, List.mem_append, List.mem_cons] at hc
      rcases hc with hc | rfl | hc
      · exact h before (List.mem_cons_self ..) c hc
      · rfl
      · exact ih (fun piece hp => h piece (List.mem_cons_of_mem _ hp)) c hc
    · exact h cs (List.mem_singleton_self _)

/-- The words that paths start with. -/
def roots : List (List Char) :=
  [['e', 'n', 'v'], ['t', 'r', 'i', 'g', 'g', 'e', 'r'], ['s', 't', 'e', 'p', 's'],
    ['l', 'o', 'o', 'p']]

/-- The characters of a known text are those of the text. -/
theorem eq_of_ofList {cs : List Char} {s : String} (h : String.ofList cs = s) : cs = s.toList := by
  rw [← h, String.toList_ofList]

/-- Some path characters, a dot and more path characters are path characters. -/
theorem pathChars_dot {root rest : List Char} (hroot : ∀ c ∈ root, isPathChar c = true)
    (hrest : ∀ c ∈ rest, isPathChar c = true) : ∀ c ∈ root ++ '.' :: rest, isPathChar c = true := by
  intro c hc
  rw [List.mem_append, List.mem_cons] at hc
  rcases hc with hc | rfl | hc
  · exact hroot c hc
  · rfl
  · exact hrest c hc

/-- A path starts with one of the roots, and has no blanks and no characters but those of paths. -/
theorem isPath_shape {cs : List Char} (h : isPath cs = true) :
    (∃ root ∈ roots, ∃ rest, cs = root ++ rest) ∧ (∀ c ∈ cs, isBlank c = false) ∧
      ∀ c ∈ cs, isPathChar c = true := by
  have hroots (root : List Char) (hroot : root ∈ roots) : ∀ c ∈ root, isPathChar c = true := by
    have hall : ∀ root ∈ roots, root.all isPathChar = true := by decide
    exact List.all_eq_true.1 (hall root hroot)
  unfold isPath at h
  split at h
  · cases h
  · next hblank =>
    have hnoblank : ∀ c ∈ cs, isBlank c = false := by simpa using hblank
    split at h
    · next hwhole =>
      have hmem : cs ∈ roots := by
        simp only [Bool.or_eq_true, beq_iff_eq] at hwhole
        rcases hwhole with hwhole | hwhole
        · rw [eq_of_ofList hwhole]
          decide
        · rw [eq_of_ofList hwhole]
          decide
      exact ⟨⟨cs, hmem, [], (List.append_nil cs).symm⟩, hnoblank, hroots cs hmem⟩
    · split at h
      · cases h
      · next root rest hcut =>
        have heq := cut?_dot hcut
        dsimp only at h
        split at h
        · next henv =>
          have hroot : root ∈ roots := by
            rw [eq_of_ofList (beq_iff_eq.1 henv)]
            decide
          have hrest : ∀ c ∈ rest, isPathChar c = true := by
            intro c hc
            have hname := List.all_eq_true.1 (Bool.and_eq_true_iff.1 h).2 c hc
            simp [isPathChar, hname]
          exact ⟨⟨root, hroot, '.' :: rest, heq⟩, hnoblank,
            heq ▸ pathChars_dot (hroots root hroot) hrest⟩
        · split at h
          · next hname =>
            have hroot : root ∈ roots := by
              simp only [Bool.or_eq_true, beq_iff_eq] at hname
              rcases hname with (hname | hname) | hname
              · rw [eq_of_ofList hname]
                decide
              · rw [eq_of_ofList hname]
                decide
              · rw [eq_of_ofList hname]
                decide
            have hrest : ∀ c ∈ rest, isPathChar c = true := by
              refine piecesWithin_chars rest.length fun piece hp => ?_
              have hsegments := List.all_eq_true.1 (Bool.and_eq_true_iff.1 h).2
              exact isSegment_chars (hsegments piece hp)
            exact ⟨⟨root, hroot, '.' :: rest, heq⟩, hnoblank,
              heq ▸ pathChars_dot (hroots root hroot) hrest⟩
          · cases h

/-! ## The starts of operands -/

/-- A text that looks like a literal starts with a digit or with one of a few characters. -/
theorem looksLikeLiteral_head {cs : List Char} (h : looksLikeLiteral cs = true) :
    ∃ c rest, cs = c :: rest ∧ (isDigit c = true ∨ c ∈ ['[', '\x7b', '"', '-', 'n', 't', 'f']) := by
  cases cs with
  | nil => cases h
  | cons c rest =>
    refine ⟨c, rest, rfl, ?_⟩
    simp only [looksLikeLiteral, Bool.or_eq_true, beq_iff_eq] at h
    rcases h with ((((((h | h) | h) | h) | h) | h) | h) | h
    · exact .inr (by simp [h])
    · exact .inr (by simp [h])
    · exact .inr (by simp [h])
    · exact .inr (by simp [h])
    · exact .inl h
    · cases eq_of_ofList h
      exact .inr (by decide)
    · cases eq_of_ofList h
      exact .inr (by decide)
    · cases eq_of_ofList h
      exact .inr (by decide)

/-- No path looks like a literal. -/
theorem not_literal_of_root {root : List Char} (hroot : root ∈ roots) (rest : List Char) :
    looksLikeLiteral (root ++ rest) = false := by
  cases h : looksLikeLiteral (root ++ rest) with
  | false => rfl
  | true =>
    simp only [roots, List.mem_cons, List.not_mem_nil, or_false] at hroot
    rcases hroot with rfl | rfl | rfl | rfl
    all_goals
      simp only [List.cons_append, looksLikeLiteral, Bool.or_eq_true, beq_iff_eq] at h
      rcases h with ((((((h | h) | h) | h) | h) | h) | h) | h
      all_goals first
        | exact absurd h (by decide)
        | cases eq_of_ofList h

/-! ## Operands -/

/-- What conditions need of the text of an operand: it is solid, scans for operators pass over it,
and what starts with it starts neither like a negation or an equality, nor like an inclusion, a
template or a script. -/
structure Sealed (text : List Char) : Prop where
  solid : Solid text
  passes {op v : List Char} : op ∈ marks → Ends v → Passes op text v
  avoids (v : List Char) : Avoids ['!', '=', '.', '$'] (text ++ v)
  not_script (v : List Char) : stripStart? Template.scriptMarker (text ++ v) = none

/-- An operand: a JSON text, none of whose strings has an escaped double quote, with its value; or a
path that conditions may use. The blanks around an operand are no part of it. -/
inductive Operand where
  | literal (text : List Char) (value : Json) (reads : Json.ofChars? text = some value)
      (tight : trim text = text) (unescaped : escapesQuote text = false)
  | path (text : List Char) (supported : isPath text = true)

namespace Operand

/-- The text of an operand. -/
def text : Operand → List Char
  | literal text .. => text
  | path text _ => text

/-- The value of an operand: that of the JSON text, or that at the end of the path, or null. -/
def value (ctx : Context) : Operand → Json
  | literal _ value .. => value
  | path text _ => (ctx.lookup? (String.ofList text)).getD .null

/-- The text of an operand is solid. -/
theorem solid (o : Operand) : Solid o.text := by
  cases o with
  | literal cs json reads tight unescaped =>
    refine solid_of_trim_eq tight ?_
    rintro rfl
    cases reads
  | path cs supported =>
    obtain ⟨⟨root, hroot, rest, rfl⟩, hblank, -⟩ := isPath_shape supported
    have hne : ∀ root ∈ roots, root ≠ [] := by decide
    refine ⟨fun h => hne root hroot (List.append_eq_nil_iff.1 h).1, fun c hc => ?_, fun c hc => ?_⟩
    · exact hblank c (List.mem_of_head? hc)
    · exact hblank c (List.mem_of_getLast? hc)

/-- A scan for an operator passes over an operand. -/
theorem passes (o : Operand) {op v : List Char} (hop : op ∈ marks) (hv : Ends v) :
    Passes op o.text v := by
  cases o with
  | literal cs json reads tight unescaped =>
    exact (inert_of_json reads unescaped).passes hop v
  | path cs supported => exact passes_path (isPath_shape supported).2.2 hop hv

/-- An operand starts neither like a negation or an equality, nor like an inclusion, nor like a
template. -/
theorem avoids (o : Operand) (v : List Char) : Avoids ['!', '=', '.', '$'] (o.text ++ v) := by
  intro d hd hmem
  rw [head?_append_of_ne o.solid.ne_nil] at hd
  cases o with
  | literal cs json reads tight unescaped =>
    have hsolid := (literal cs json reads tight unescaped).solid
    obtain ⟨c, rest, rfl, hc⟩ := looksLikeLiteral_head (looksLikeLiteral_of_json reads hsolid)
    cases hd
    simp only [List.mem_cons, List.not_mem_nil, or_false] at hmem
    rcases hmem with rfl | rfl | rfl | rfl
    all_goals exact absurd hc (by decide)
  | path cs supported =>
    obtain ⟨⟨root, hroot, rest, rfl⟩, -⟩ := isPath_shape supported
    simp only [roots, List.mem_cons, List.not_mem_nil, or_false] at hroot
    rcases hroot with rfl | rfl | rfl | rfl
    all_goals
      cases hd
      exact absurd hmem (by decide)

/-- What starts with an operand is no script. -/
theorem not_script (o : Operand) (v : List Char) :
    stripStart? Template.scriptMarker (o.text ++ v) = none := by
  cases o with
  | literal cs json reads tight unescaped =>
    have hsolid := (literal cs json reads tight unescaped).solid
    obtain ⟨c, rest, rfl, hc⟩ := looksLikeLiteral_head (looksLikeLiteral_of_json reads hsolid)
    have hne : 's' ≠ c := by
      rintro rfl
      exact absurd hc (by decide)
    dsimp only [text]
    rw [Template.scriptMarker, List.cons_append, stripStart?, if_neg hne]
  | path cs supported =>
    obtain ⟨⟨root, hroot, rest, rfl⟩, -⟩ := isPath_shape supported
    simp only [roots, List.mem_cons, List.not_mem_nil, or_false] at hroot
    rcases hroot with rfl | rfl | rfl | rfl <;> rfl

/-- The text of an operand is as conditions need it. -/
theorem isSealed (o : Operand) : Sealed o.text :=
  ⟨o.solid, o.passes, o.avoids, o.not_script⟩

/-- An operand is read as the literal that it is, and a path as none. -/
theorem literal?_text (o : Operand) :
    literal? o.text = match o with
      | literal _ value .. => some value
      | path .. => none := by
  cases o with
  | literal cs json reads tight unescaped =>
    have hsolid := (literal cs json reads tight unescaped).solid
    show literal? cs = some json
    rw [literal?, if_pos (looksLikeLiteral_of_json reads hsolid), reads]
  | path cs supported =>
    obtain ⟨⟨root, hroot, rest, rfl⟩, -⟩ := isPath_shape supported
    show literal? (root ++ rest) = none
    rw [literal?, not_literal_of_root hroot]
    rfl

/-- The check accepts the text of an operand. -/
theorem check_text (o : Operand) : checkOperand o.text = .ok () := by
  have hne : o.text.isEmpty = false := by simpa using o.solid.ne_nil
  have haccepted : ((literal? o.text).isSome || isPath o.text) = true := by
    rw [literal?_text]
    cases o with
    | literal => rfl
    | path cs supported => exact supported
  unfold checkOperand
  rw [o.solid.trim_eq]
  simp [hne, haccepted]

/-- The text of an operand has its value. -/
theorem value_text (o : Operand) (ctx : Context) : operandValue ctx o.text = o.value ctx := by
  unfold operandValue
  rw [o.solid.trim_eq]
  dsimp only
  rw [literal?_text]
  cases o with
  | literal => rfl
  | path cs supported =>
    obtain ⟨⟨root, hroot, rest, rfl⟩, -⟩ := isPath_shape supported
    simp only [roots, List.mem_cons, List.not_mem_nil, or_false] at hroot
    rcases hroot with rfl | rfl | rfl | rfl <;> rfl

-- The operator in this text is between quotes.
example : Operand := .literal ['"', '|', '|', '"'] (.string "||") rfl rfl rfl

end Operand

end Automation.Condition
