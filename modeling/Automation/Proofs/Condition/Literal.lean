import Automation.Proofs.Condition.Scan
import Mathlib.Data.List.TakeWhile

/-!
# JSON literals

A JSON text is inert for the scans of conditions, as long as none of its strings has an escaped
double quote (`Condition.inert_of_json`): such a quote would end the string for a scan. What the
readers of JSON take from the start of a text is inert (`Condition.Reads`), for each of them in
turn. A solid JSON text also looks like a literal (`Condition.looksLikeLiteral_of_json`).
-/

namespace Automation.Condition

open Text Json

/-- A backslash escapes a double quote somewhere in the text. -/
def escapesQuote : List Char → Bool
  | '\\' :: c :: cs => c == '"' || escapesQuote cs
  | _ :: cs => escapesQuote cs
  | [] => false

/-- A character in front escapes no quote unless it is a backslash. -/
theorem escapesQuote_cons {c : Char} (h : c ≠ '\\') (cs : List Char) :
    escapesQuote (c :: cs) = escapesQuote cs := by
  rw [escapesQuote]
  intro d ds hc
  exact absurd hc h

/-- A text without backslashes makes no difference. -/
theorem escapesQuote_append {u : List Char} (h : '\\' ∉ u) (v : List Char) :
    escapesQuote (u ++ v) = escapesQuote v := by
  induction u with
  | nil => rfl
  | cons c u ih =>
    rw [List.cons_append, escapesQuote_cons fun heq => h (heq ▸ List.mem_cons_self ..)]
    exact ih fun hmem => h (List.mem_cons_of_mem _ hmem)

/-- A backslash is not inert. -/
theorem ne_backslash_of_inert {c : Char} (h : isInert c = true) : c ≠ '\\' := by
  rintro rfl
  exact absurd h (by decide)

/-- Up to the rest, a text without escaped double quotes is inert. -/
def Reads (cs rest : List Char) : Prop :=
  escapesQuote cs = false → ∃ u, cs = u ++ rest ∧ Inert u ∧ escapesQuote rest = false

/-- Nothing has been read yet. -/
theorem Reads.refl (cs : List Char) : Reads cs cs :=
  fun h => ⟨[], rfl, .nil, h⟩

/-- Reading goes on where it has stopped. -/
theorem Reads.trans {cs mid rest : List Char} (h : Reads cs mid) (h' : Reads mid rest) :
    Reads cs rest := by
  intro hq
  obtain ⟨u, rfl, hu, hq'⟩ := h hq
  obtain ⟨w, rfl, hw, hq''⟩ := h' hq'
  exact ⟨u ++ w, (List.append_assoc ..).symm, hu.append hw, hq''⟩

/-- An inert character may be read. -/
theorem Reads.cons {c : Char} (hc : isInert c = true) (cs : List Char) : Reads (c :: cs) cs := by
  intro hq
  rw [escapesQuote_cons (ne_backslash_of_inert hc)] at hq
  exact ⟨[c], rfl, .cons hc .nil, hq⟩

/-- A decimal point may be read if a digit comes after it. -/
theorem Reads.point {d : Char} (hd : isDigit d = true) (cs : List Char) :
    Reads ('.' :: d :: cs) cs := by
  intro hq
  rw [escapesQuote_cons (by decide), escapesQuote_cons (ne_backslash_of_inert
    (isInert_of_digit hd))] at hq
  exact ⟨['.', d], rfl, .point hd .nil, hq⟩

/-- Reading on while characters satisfy a test that only inert ones pass. -/
theorem Reads.dropWhile {p : Char → Bool} (hp : ∀ c, p c = true → isInert c = true)
    (cs : List Char) : Reads cs (cs.dropWhile p) := by
  induction cs with
  | nil => exact .refl []
  | cons c cs ih =>
    cases hc : p c with
    | true =>
      rw [List.dropWhile_cons_of_pos hc]
      exact (Reads.cons (hp c hc) cs).trans ih
    | false =>
      rw [List.dropWhile_cons_of_neg (by simp [hc])]
      exact .refl _

/-- The space of JSON is blank. -/
theorem isBlank_of_space {c : Char} (h : isSpace c = true) : isBlank c = true := by
  simp only [isSpace, Bool.or_eq_true, beq_iff_eq] at h
  rcases h with ((rfl | rfl) | rfl) | rfl <;> decide

/-- Space that is skipped is inert. -/
theorem reads_skipSpace (cs : List Char) : Reads cs (skipSpace cs) :=
  Reads.dropWhile (fun _ hc => isInert_of_blank (isBlank_of_space hc)) cs

/-! ## Strings -/

/-- A hexadecimal digit is neither a backslash nor a quote. -/
theorem hexValue?_plain {c : Char} (h : (hexValue? c).isSome) : c ≠ '\\' ∧ c ≠ '"' := by
  constructor
  · rintro rfl
    exact absurd h (by decide)
  · rintro rfl
    exact absurd h (by decide)

/-- The four characters of a unit are neither backslashes nor double quotes. -/
theorem hexUnit?_plain {a b c d : Char} {n : Nat} (h : hexUnit? a b c d = some n) :
    ∀ x ∈ [a, b, c, d], x ≠ '\\' ∧ x ≠ '"' := by
  simp only [hexUnit?, Option.bind_eq_bind, Option.bind_eq_some_iff] at h
  obtain ⟨na, ha, nb, hb, nc, hc, nd, hd, -⟩ := h
  intro x hx
  simp only [List.mem_cons, List.not_mem_nil, or_false] at hx
  rcases hx with rfl | rfl | rfl | rfl
  · exact hexValue?_plain (by simp [ha])
  · exact hexValue?_plain (by simp [hb])
  · exact hexValue?_plain (by simp [hc])
  · exact hexValue?_plain (by simp [hd])

/-- A text between two double quotes, and what follows it. -/
def Closes (cs rest : List Char) : Prop :=
  ∃ body, cs = body ++ '"' :: rest ∧ '"' ∉ body ∧ escapesQuote rest = false

/-- Characters other than quotes go on with a text between quotes. -/
theorem Closes.prepend {cs rest u : List Char} (h : Closes cs rest) (hu : '"' ∉ u) :
    Closes (u ++ cs) rest := by
  obtain ⟨body, rfl, hbody, hq⟩ := h
  refine ⟨u ++ body, (List.append_assoc ..).symm, fun hmem => ?_, hq⟩
  rcases List.mem_append.1 hmem with hmem | hmem
  · exact hu hmem
  · exact hbody hmem

/-- The rest of a string without escaped double quotes ends at its first double quote. -/
theorem readUnits_closes {cs rest : List Char} {units : List Nat}
    (h : readUnits cs = some (units, rest)) (hq : escapesQuote cs = false) : Closes cs rest := by
  -- Hexadecimal digits are no quotes either, so all of an escape is part of the body.
  fun_induction readUnits cs generalizing units rest with
  | case1 => cases h
  | case2 rest' =>
    cases h
    rw [escapesQuote_cons (by decide)] at hq
    exact ⟨[], rfl, by simp, hq⟩
  | case3 a b c d more ih =>
    simp only [Option.bind_eq_bind, Option.bind_eq_some_iff] at h
    obtain ⟨unit, hunit, ⟨units', rest'⟩, hmore, heq⟩ := h
    cases heq
    have hplain := hexUnit?_plain hunit
    simp only [List.mem_cons, List.not_mem_nil, or_false, forall_eq_or_imp, forall_eq] at hplain
    obtain ⟨ha, hb, hc, hd⟩ := hplain
    rw [escapesQuote, escapesQuote_cons ha.1, escapesQuote_cons hb.1, escapesQuote_cons hc.1,
      escapesQuote_cons hd.1] at hq
    refine (ih hmore ((Bool.or_eq_false_iff.1 hq).2)).prepend (u := ['\\', 'u', a, b, c, d]) ?_
    simp [Ne.symm ha.2, Ne.symm hb.2, Ne.symm hc.2, Ne.symm hd.2]
  | case4 c more _ ih =>
    simp only [Option.bind_eq_bind, Option.bind_eq_some_iff] at h
    obtain ⟨e, he, ⟨units', rest'⟩, hmore, heq⟩ := h
    cases heq
    rw [escapesQuote] at hq
    obtain ⟨hc, hq'⟩ := Bool.or_eq_false_iff.1 hq
    refine (ih hmore hq').prepend (u := ['\\', c]) ?_
    simpa using Ne.symm (beq_eq_false_iff_ne.1 hc)
  | case5 => cases h
  | case6 c more hquote _ _ hplain ih =>
    rw [Option.map_eq_some_iff] at h
    obtain ⟨⟨units', rest'⟩, hmore, heq⟩ := h
    cases heq
    rw [escapesQuote_cons fun hc => hplain (.inl hc)] at hq
    refine (ih hmore hq).prepend (u := [c]) ?_
    simpa using Ne.symm hquote

/-- A text between quotes is read up to its end. -/
theorem reads_string {cs rest : List Char} {units : List Nat}
    (h : readUnits cs = some (units, rest)) : Reads ('"' :: cs) rest := by
  intro hq
  rw [escapesQuote_cons (by decide)] at hq
  obtain ⟨body, rfl, hbody, hq'⟩ := readUnits_closes h hq
  refine ⟨'"' :: (body ++ ['"']), by simp, ?_, hq'⟩
  have hinert := Inert.quoted hbody .nil
  rwa [List.append_nil] at hinert

/-! ## Numbers -/

/-- Digits that are read are inert. -/
theorem reads_digits (l : Leading) (count : Nat) (cs : List Char) :
    Reads cs (readDigits l count cs).2.2 := by
  induction cs generalizing l count with
  | nil => exact .refl []
  | cons c cs ih =>
    rw [readDigits]
    split
    · next d hd => exact (Reads.cons (isInert_of_digit (by simp [isDigit, hd])) cs).trans (ih _ _)
    · exact .refl _

/-- The digits of a fraction that are read are inert. -/
theorem reads_fraction (value places : Nat) (full : Bool) (cs : List Char) :
    Reads cs (readFraction value places full cs).2.2 := by
  induction cs generalizing value places full with
  | nil => exact .refl []
  | cons c cs ih =>
    rw [readFraction]
    split
    · next d hd =>
      have hc : Reads (c :: cs) cs := .cons (isInert_of_digit (by simp [isDigit, hd])) cs
      split
      · exact hc.trans (ih _ _ _)
      · exact hc.trans (ih _ _ _)
    · exact .refl _

/-- An exponent that is read is inert. -/
theorem reads_exponent {negative : Bool} {value : Nat} {e : Int} {cs rest : List Char}
    {n : Option Number} (h : readExponent negative value e cs = some (n, rest)) :
    Reads cs rest := by
  have hdigits (cs : List Char) : Reads cs (cs.dropWhile isDigit) :=
    .dropWhile (fun _ hc => isInert_of_digit hc) cs
  have hrest {body : List Char} {down : Bool}
      (hn : (readDigits? (body.takeWhile isDigit)).map (fun n =>
        if n > maxExponent then
          (if value ≠ 0 ∧ !down then none else some (.double (Double.zero negative)),
            body.dropWhile isDigit)
        else (assemble negative value (if down then e - n else e + n), body.dropWhile isDigit)) =
          some (n, rest)) : rest = body.dropWhile isDigit := by
    obtain ⟨k, -, heq⟩ := Option.map_eq_some_iff.1 hn
    split at heq <;> exact (congrArg Prod.snd heq).symm
  unfold readExponent at h
  split at h
  next down body hbody =>
  split at hbody
  · cases hbody
    rw [hrest h]
    exact (Reads.cons (by decide) _).trans (hdigits _)
  · cases hbody
    rw [hrest h]
    exact (Reads.cons (by decide) _).trans (hdigits _)
  · cases hbody
    rw [hrest h]
    exact hdigits cs

/-- A point is followed by at least one digit. -/
theorem reads_point (value places : Nat) (full : Bool) {d : Char} (hd : isDigit d = true)
    (cs : List Char) : Reads ('.' :: d :: cs) (readFraction value places full (d :: cs)).2.2 := by
  rw [readFraction]
  split
  · split
    · exact (Reads.point hd cs).trans (reads_fraction _ _ _ cs)
    · exact (Reads.point hd cs).trans (reads_fraction _ _ _ cs)
  · next hnone =>
    rw [isDigit, hnone] at hd
    cases hd

/-- What is read of a number after its whole part is inert. -/
theorem reads_numberTail {negative : Bool} {l : Leading} {cs rest : List Char}
    {n : Option Number} (h : readNumberTail negative l cs = some (n, rest)) : Reads cs rest := by
  unfold readNumberTail at h
  split at h
  · next more =>
    split at h
    · cases h
    · next hdigit =>
      cases more with
      | nil => simp at hdigit
      | cons d ds =>
        have hd : isDigit d = true := by simpa using hdigit
        have hpoint := reads_point l.value 0 false hd ds
        dsimp only at h
        generalize readFraction l.value 0 false (d :: ds) = fraction at h hpoint
        obtain ⟨value, places, more⟩ := fraction
        dsimp only at h hpoint
        split at h
        · exact hpoint.trans ((Reads.cons (by decide) _).trans (reads_exponent h))
        · exact hpoint.trans ((Reads.cons (by decide) _).trans (reads_exponent h))
        · cases h
          exact hpoint
  · exact (Reads.cons (by decide) _).trans (reads_exponent h)
  · exact (Reads.cons (by decide) _).trans (reads_exponent h)
  · have hsame : rest = cs := by
      split at h
      · exact (congrArg Prod.snd (Option.some_inj.1 h)).symm
      · split at h
        · exact (congrArg Prod.snd (Option.some_inj.1 h)).symm
        · split at h <;> exact (congrArg Prod.snd (Option.some_inj.1 h)).symm
    rw [hsame]
    exact .refl cs

/-- A number that is read is inert. -/
theorem reads_number {cs rest : List Char} {n : Option Number}
    (h : readNumber cs = some (n, rest)) : Reads cs rest := by
  unfold readNumber at h
  split at h
  next negative body heq =>
  have hbody : Reads body rest := by
    split at h
    · split at h
      · cases h
      · exact (Reads.cons (by decide) _).trans (reads_numberTail h)
    · have hdigits := reads_digits ⟨0, 0⟩ 0 body
      generalize readDigits ⟨0, 0⟩ 0 body = digits at h hdigits
      obtain ⟨l, count, more⟩ := digits
      dsimp only at h hdigits
      split at h
      · cases h
      · exact hdigits.trans (reads_numberTail h)
  split at heq
  · cases heq
    exact (Reads.cons (by decide) _).trans hbody
  · cases heq
    exact hbody

/-! ## Values -/

/-- With some fuel, what the readers of values, of items and of entries read is inert. -/
structure Sound (fuel : Nat) : Prop where
  value : ∀ {depth cs t rest}, readValue depth fuel cs = some (t, rest) → Reads cs rest
  items : ∀ {depth cs ts rest}, readItems depth fuel cs = some (ts, rest) → Reads cs rest
  entries : ∀ {depth cs es rest}, readEntries depth fuel cs = some (es, rest) → Reads cs rest

/-- Reading a word of inert characters. -/
theorem reads_word {u : List Char} (hu : u.all isInert = true) (cs : List Char) :
    Reads (u ++ cs) cs := by
  induction u with
  | nil => exact .refl cs
  | cons c u ih =>
    rw [List.all_cons, Bool.and_eq_true] at hu
    exact (Reads.cons hu.1 (u ++ cs)).trans (ih hu.2)

/-- What is read is made something of, and the rest is left. -/
theorem exists_of_map {α β : Type} {o : Option (α × List Char)}
    {f : α × List Char → β × List Char} {b : β} {rest : List Char} (h : o.map f = some (b, rest))
    (hf : ∀ x, (f x).2 = x.2) : ∃ a, o = some (a, rest) := by
  obtain ⟨⟨a, rest'⟩, ho, heq⟩ := Option.map_eq_some_iff.1 h
  have hrest : rest' = rest := (hf (a, rest')).symm.trans (congrArg Prod.snd heq)
  exact ⟨a, hrest ▸ ho⟩

/-- A value that is read is inert if what is read in it is. -/
theorem reads_value {fuel depth : Nat} (ih : Sound fuel) {cs rest : List Char} {t : Tree}
    (h : readValue depth (fuel + 1) cs = some (t, rest)) : Reads (skipSpace cs) rest := by
  rw [readValue] at h
  split at h
  · next more heq =>
    cases h
    rw [heq]
    exact reads_word (u := ['n', 'u', 'l', 'l']) (by decide) rest
  · next more heq =>
    cases h
    rw [heq]
    exact reads_word (u := ['t', 'r', 'u', 'e']) (by decide) rest
  · next more heq =>
    cases h
    rw [heq]
    exact reads_word (u := ['f', 'a', 'l', 's', 'e']) (by decide) rest
  · next more heq =>
    obtain ⟨units, hunits⟩ := exists_of_map h fun _ => rfl
    rw [heq]
    exact reads_string hunits
  · next more heq =>
    rw [heq]
    refine (Reads.cons (by decide) more).trans ?_
    split at h
    · next more' heq' =>
      cases h
      have hspace := reads_skipSpace more
      rw [heq'] at hspace
      exact hspace.trans (.cons (by decide) _)
    · obtain ⟨items, hitems⟩ := exists_of_map h fun _ => rfl
      exact ih.items hitems
  · next more heq =>
    rw [heq]
    refine (Reads.cons (by decide) more).trans ?_
    split at h
    · next more' heq' =>
      cases h
      have hspace := reads_skipSpace more
      rw [heq'] at hspace
      exact hspace.trans (.cons (by decide) _)
    · obtain ⟨entries, hentries⟩ := exists_of_map h fun _ => rfl
      exact ih.entries hentries
  · obtain ⟨n, hn⟩ := exists_of_map h fun _ => rfl
    exact reads_number hn

/-- Items that are read are inert if what is read in them is. -/
theorem reads_items {fuel depth : Nat} (ih : Sound fuel) {cs rest : List Char} {ts : List Tree}
    (h : readItems depth (fuel + 1) cs = some (ts, rest)) : Reads cs rest := by
  rw [readItems] at h
  split at h
  · cases h
  · next item more hitem =>
    have hspace := (ih.value hitem).trans (reads_skipSpace more)
    split at h
    · next more' heq =>
      obtain ⟨items, hitems⟩ := exists_of_map h fun _ => rfl
      rw [heq] at hspace
      exact hspace.trans ((Reads.cons (by decide) more').trans (ih.items hitems))
    · next more' heq =>
      cases h
      rw [heq] at hspace
      exact hspace.trans (.cons (by decide) rest)
    · cases h

/-- Entries that are read are inert if what is read in them is. -/
theorem reads_entries {fuel depth : Nat} (ih : Sound fuel) {cs rest : List Char}
    {es : List (Option String × Tree)}
    (h : readEntries depth (fuel + 1) cs = some (es, rest)) : Reads cs rest := by
  rw [readEntries] at h
  split at h
  · next more heq =>
    have hquote := reads_skipSpace cs
    rw [heq] at hquote
    split at h
    · cases h
    · next units more' hunits =>
      have hname := (hquote.trans (reads_string hunits)).trans (reads_skipSpace more')
      split at h
      · next more'' heq' =>
        rw [heq'] at hname
        have hcolon := hname.trans (.cons (by decide) more'')
        split at h
        · cases h
        · next value after hvalue =>
          have hspace := (hcolon.trans (ih.value hvalue)).trans (reads_skipSpace after)
          dsimp only at h
          split at h
          · next after' heq'' =>
            obtain ⟨entries, hentries⟩ := exists_of_map h fun _ => rfl
            rw [heq''] at hspace
            exact hspace.trans ((Reads.cons (by decide) after').trans (ih.entries hentries))
          · next after' heq'' =>
            cases h
            rw [heq''] at hspace
            exact hspace.trans (.cons (by decide) rest)
          · cases h
      · cases h
  · cases h

/-- Whatever is read is inert, by induction on the fuel. -/
theorem sound (fuel : Nat) : Sound fuel := by
  induction fuel with
  | zero =>
    refine ⟨fun h => ?_, fun h => ?_, fun h => ?_⟩
    · rw [readValue] at h
      cases h
    · rw [readItems] at h
      cases h
    · rw [readEntries] at h
      cases h
  | succ fuel ih =>
    exact ⟨fun h => (reads_skipSpace _).trans (reads_value ih h), reads_items ih,
      reads_entries ih⟩

/-- What the reader of whole texts has read before the blanks at the end. -/
theorem exists_readValue {cs : List Char} {v : Json} (h : ofChars? cs = some v) :
    ∃ t rest, readValue maxDepth (2 * cs.length + 2) cs = some (t, rest) ∧ skipSpace rest = [] := by
  obtain ⟨t, ht, -⟩ := Option.bind_eq_some_iff.1 h
  unfold readTree? at ht
  split at ht
  · next t' rest hread =>
    split at ht
    · next hempty => exact ⟨t', rest, hread, List.isEmpty_iff.1 hempty⟩
    · cases ht
  · cases ht

/-- A JSON text is inert if none of its strings has an escaped double quote. -/
theorem inert_of_json {cs : List Char} {v : Json} (h : ofChars? cs = some v)
    (hq : escapesQuote cs = false) : Inert cs := by
  obtain ⟨t, rest, hread, hempty⟩ := exists_readValue h
  have hreads := ((sound _).value hread).trans (reads_skipSpace rest)
  rw [hempty] at hreads
  obtain ⟨u, hu, hinert, -⟩ := hreads hq
  rwa [hu, List.append_nil]

/-! ## The start of a literal -/

/-- A number starts with a sign or a digit. -/
theorem readNumber_head {cs rest : List Char} {n : Option Number}
    (h : readNumber cs = some (n, rest)) :
    ∃ c more, cs = c :: more ∧ (c = '-' ∨ isDigit c = true) := by
  cases cs with
  | nil => cases h
  | cons c more =>
    refine ⟨c, more, rfl, ?_⟩
    by_cases hminus : c = '-'
    · exact .inl hminus
    · cases hdigit : digitValue? c with
      | some d => exact .inr (by simp [isDigit, hdigit])
      | none =>
        have hzero : c ≠ '0' := by
          rintro rfl
          cases hdigit
        simp [readNumber, hminus, hzero, readDigits, hdigit] at h

/-- Only blanks are left after a JSON text; a solid one has none. -/
theorem rest_eq_nil {u rest : List Char} (hs : Solid (u ++ rest)) (h : skipSpace rest = []) :
    rest = [] := by
  have hblanks : Blanks rest := fun c hc => isBlank_of_space (List.dropWhile_eq_nil_iff.1 h c hc)
  exact hs.eq_nil_of_blanks rfl hblanks

/-- A solid JSON text looks like a literal. -/
theorem looksLikeLiteral_of_json {cs : List Char} {v : Json} (h : ofChars? cs = some v)
    (hs : Solid cs) : looksLikeLiteral cs = true := by
  obtain ⟨t, rest, hread, hempty⟩ := exists_readValue h
  have hskip : skipSpace cs = cs := by
    cases cs with
    | nil => rfl
    | cons c cs =>
      refine List.dropWhile_cons_of_neg fun hc => ?_
      have hblank := hs.head c rfl
      rw [isBlank_of_space hc] at hblank
      cases hblank
  rw [readValue, hskip] at hread
  split at hread
  · cases hread
    obtain rfl := rest_eq_nil (u := ['n', 'u', 'l', 'l']) hs hempty
    rfl
  · cases hread
    obtain rfl := rest_eq_nil (u := ['t', 'r', 'u', 'e']) hs hempty
    rfl
  · cases hread
    obtain rfl := rest_eq_nil (u := ['f', 'a', 'l', 's', 'e']) hs hempty
    rfl
  · simp [looksLikeLiteral]
  · simp [looksLikeLiteral]
  · simp [looksLikeLiteral]
  · obtain ⟨n, hn⟩ := exists_of_map hread fun _ => rfl
    obtain ⟨c, more, rfl, hc⟩ := readNumber_head hn
    rcases hc with rfl | hc
    · simp [looksLikeLiteral]
    · simp [looksLikeLiteral, hc]

end Automation.Condition
