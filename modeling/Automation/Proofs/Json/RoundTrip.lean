import Automation.Json.Reader
import Automation.Proofs.Json.Numeral
import Automation.Proofs.Text.Trim
import Automation.Proofs.Tree.Normal

/-!
# Reading values back

A tree fits if it is one that a JSON text can hold: its numbers are integers of 64 bits, and its
sequences and mappings are nested no deeper than may be read (`Tree.Fits`). It is then what its text
is read to, the entries of its mappings in their order (`Json.readTree?_write`). A value fits if its
tree does and the names of its objects ascend (`Json.Fits`); it is then what its text stands for
(`Json.ofChars?_write`). The text of such a value starts and ends with characters that are not blank
(`Json.solid_write`).
-/

namespace Automation

open Text

namespace Tree

mutual

/-- The text of a tree can be read, where containers may be nested so deep. -/
def Fits (depth : Nat) : Tree → Prop
  | .number (.int n) => -(Nat.pow 2 63 : Nat) ≤ n ∧ n < Nat.pow 2 64
  | .number (.double _) => False
  | .sequence byPosition items => byPosition = true ∧ 0 < depth ∧ FitsItems (depth - 1) items
  | .mapping entries => 0 < depth ∧ FitsEntries (depth - 1) entries
  | .plain _ => False
  | .unusable => False
  | _ => True

/-- All items of a sequence fit. -/
def FitsItems (depth : Nat) : List Tree → Prop
  | [] => True
  | item :: rest => Fits depth item ∧ FitsItems depth rest

/-- All entries of a mapping fit. -/
def FitsEntries (depth : Nat) : List (String × Tree) → Prop
  | [] => True
  | (_, value) :: rest => Fits depth value ∧ FitsEntries depth rest

end

end Tree

namespace Json

mutual

/-- The text of a value can be read, where containers may be nested so deep. -/
def Fits (depth : Nat) : Json → Prop
  | .number (.int n) => -(Nat.pow 2 63 : Nat) ≤ n ∧ n < Nat.pow 2 64
  | .number (.double _) => False
  | .array items => 0 < depth ∧ FitsItems (depth - 1) items
  | .object fields => 0 < depth ∧ Fields.Ordered fields ∧ FitsFields (depth - 1) fields
  | _ => True

/-- All items of an array fit. -/
def FitsItems (depth : Nat) : List Json → Prop
  | [] => True
  | item :: rest => Fits depth item ∧ FitsItems depth rest

/-- The values of all fields fit. -/
def FitsFields (depth : Nat) : List (String × Json) → Prop
  | [] => True
  | (_, value) :: rest => Fits depth value ∧ FitsFields depth rest

end

/-! ## Strings -/

/-- A character is read back from what stands for it in a string. -/
theorem readUnits_escapeChar (c : Char) (rest : List Char) :
    readUnits (escapeChar c ++ rest) =
      (readUnits rest).map fun (units, rest) => (c.toNat :: units, rest) := by
  have hbind (n : Nat) : (do
      let (units, rest) ← readUnits rest
      return (n :: units, rest)) =
        (readUnits rest).map fun (units, rest) => (n :: units, rest) := by
    cases readUnits rest <;> rfl
  unfold escapeChar
  split
  · next hc =>
    subst hc
    exact hbind _
  split
  · next hc =>
    subst hc
    exact hbind _
  split
  · next hc =>
    rw [hc]
    exact hbind 8
  split
  · next hc =>
    rw [hc]
    exact hbind 12
  split
  · next hc =>
    subst hc
    exact hbind _
  split
  · next hc =>
    subst hc
    exact hbind _
  split
  · next hc =>
    subst hc
    exact hbind _
  split
  · next hc =>
    have hunit : hexUnit? '0' '0' (hexDigit (c.toNat / 16)) (hexDigit (c.toNat % 16)) =
        some c.toNat := by
      have hall : ∀ n < 32,
          hexUnit? '0' '0' (hexDigit (n / 16)) (hexDigit (n % 16)) = some n := by decide
      exact hall c.toNat hc
    rw [List.cons_append, List.cons_append, List.cons_append, List.cons_append, List.cons_append,
      List.cons_append, List.nil_append, readUnits, hunit]
    exact hbind _
  · next hquote hbackslash _ _ _ _ _ hcontrol =>
    rw [List.cons_append, List.nil_append, readUnits, if_neg (not_or.2 ⟨hbackslash, hcontrol⟩)]
    · exact fun h => absurd h hquote
    · exact fun _ _ _ _ _ h => absurd h hbackslash
    · exact fun _ _ h => absurd h hbackslash

/-- The characters of a string are read back from its text. -/
theorem readUnits_escaped (cs rest : List Char) :
    readUnits (cs.flatMap escapeChar ++ '"' :: rest) = some (cs.map Char.toNat, rest) := by
  induction cs with
  | nil => rfl
  | cons c cs ih =>
    rw [List.flatMap_cons, List.append_assoc, readUnits_escapeChar, ih]
    rfl

/-- No character is a surrogate. -/
theorem not_surrogate (c : Char) : ¬(0xD800 ≤ c.toNat ∧ c.toNat < 0xE000) := by
  rcases c.valid with h | ⟨h, -⟩
  · exact fun hc => absurd h (Nat.not_lt.2 hc.1)
  · exact fun hc => absurd hc.2 (Nat.not_lt.2 h)

/-- The code points of characters, taken as units, are joined to the characters. -/
theorem joinUnits?_chars (cs : List Char) : joinUnits? (cs.map Char.toNat) = some cs := by
  induction cs with
  | nil => rfl
  | cons c cs ih =>
    cases cs with
    | nil =>
      rw [List.map_singleton, joinUnits?, if_neg (not_surrogate c), Char.ofNat_toNat]
    | cons d cs =>
      rw [List.map_cons, List.map_cons] at *
      rw [joinUnits?, if_neg (not_surrogate c), ih, Char.ofNat_toNat]
      rfl

/-- The code points of a text, taken as units, give the text. -/
theorem unitsText?_string (s : String) : unitsText? (s.toList.map Char.toNat) = some s := by
  rw [unitsText?, joinUnits?_chars, Option.map_some, String.ofList_toList]

/-! ## Ends -/

/-- The text of an integer starts with a digit or a minus sign and ends with a digit. -/
theorem integer_ends (n : Int) :
    (∃ c cs, integer n = c :: cs ∧ (c = '-' ∨ isDigit c = true)) ∧
      ∀ c ∈ (integer n).getLast?, isDigit c = true := by
  have hdigits (n : Nat) : (∃ c cs, digits n = c :: cs ∧ isDigit c = true) ∧
      ∀ c ∈ (digits n).getLast?, isDigit c = true := by
    refine ⟨?_, fun c hc => isDigit_of_mem_digits n c (List.mem_of_getLast? hc)⟩
    cases hcs : digits n with
    | nil => exact absurd hcs (digits_ne_nil n)
    | cons c cs => exact ⟨c, cs, rfl, isDigit_of_mem_digits n c (hcs ▸ List.mem_cons_self ..)⟩
  cases n with
  | ofNat n =>
    obtain ⟨⟨c, cs, hcs, hc⟩, hlast⟩ := hdigits n
    exact ⟨⟨c, cs, hcs, .inr hc⟩, hlast⟩
  | negSucc n =>
    refine ⟨⟨'-', digits (n + 1), rfl, .inl rfl⟩, ?_⟩
    rw [integer, ← List.singleton_append, getLast?_append_of_ne (digits_ne_nil _)]
    exact (hdigits (n + 1)).2

/-- A character that the text of a value may start with. -/
def isLeading (c : Char) : Bool :=
  c == 'n' || c == 't' || c == 'f' || c == '"' || c == '[' || c == '\x7b' || c == '-' || isDigit c

/-- What is written of a tree starts with a character that starts a value. -/
theorem exists_write_eq_cons {depth : Nat} {t : Tree} (h : t.Fits depth) :
    ∃ c cs, t.write = c :: cs ∧ isLeading c = true := by
  match t, h with
  | .null, _ => exact ⟨_, _, rfl, rfl⟩
  | .bool true, _ => exact ⟨_, _, rfl, rfl⟩
  | .bool false, _ => exact ⟨_, _, rfl, rfl⟩
  | .string s, _ => exact ⟨_, _, rfl, rfl⟩
  | .sequence _ items, _ => exact ⟨_, _, rfl, rfl⟩
  | .mapping entries, _ => exact ⟨_, _, rfl, rfl⟩
  | .number (.int n), _ =>
    obtain ⟨⟨c, cs, hcs, hc⟩, -⟩ := integer_ends n
    refine ⟨c, cs, hcs, ?_⟩
    rcases hc with rfl | hc
    · rfl
    · simp [isLeading, hc]
  | .number (.double d), h => exact h.elim

/-- No value starts with a blank. -/
theorem not_blank_of_leading {c : Char} (h : isLeading c = true) : isBlank c = false := by
  simp only [isLeading, Bool.or_eq_true, beq_iff_eq] at h
  rcases h with ((((((rfl | rfl) | rfl) | rfl) | rfl) | rfl) | rfl) | h
  all_goals first
    | rfl
    | exact isBlank_of_isDigit h

/-- The text of a tree that fits neither starts nor ends with a blank. -/
theorem solid_treeWrite {depth : Nat} {t : Tree} (h : t.Fits depth) : Solid t.write where
  ne_nil hnil := by
    obtain ⟨c, cs, hcs, -⟩ := exists_write_eq_cons h
    rw [hcs] at hnil
    cases hnil
  head c hc := by
    obtain ⟨d, cs, hcs, hd⟩ := exists_write_eq_cons h
    rw [hcs] at hc
    cases hc
    exact not_blank_of_leading hd
  last c hc := by
    match t, h with
    | .null, _ | .bool true, _ | .bool false, _ =>
      cases hc
      rfl
    | .string s, _ =>
      rw [Tree.write, quote, ← List.cons_append, List.getLast?_concat] at hc
      cases hc
      rfl
    | .sequence _ items, _ =>
      rw [Tree.write, ← List.cons_append, List.getLast?_concat] at hc
      cases hc
      rfl
    | .mapping entries, _ =>
      rw [Tree.write, ← List.cons_append, List.getLast?_concat] at hc
      cases hc
      rfl
    | .number (.int n), _ => exact isBlank_of_isDigit ((integer_ends n).2 c hc)
    | .number (.double d), h => exact h.elim

/-! ## Trees -/

/-- No space is skipped in front of a character that is not blank. -/
theorem skipSpace_of_not_blank {c : Char} (h : isBlank c = false) (cs : List Char) :
    skipSpace (c :: cs) = c :: cs := by
  refine List.dropWhile_cons_of_neg fun hspace => ?_
  simp only [isSpace, Bool.or_eq_true, beq_iff_eq] at hspace
  rcases hspace with ((rfl | rfl) | rfl) | rfl <;> cases h

/-- A tree may be read while containers may still be nested. -/
theorem within_of_pos {depth : Nat} (h : 0 < depth) (t : Tree) : Tree.within depth t = t :=
  if_neg (Nat.ne_of_gt h)

/-- Entries that all have texts for names are those of a mapping. -/
theorem ofNamed_named (entries : List (String × Tree)) :
    Tree.ofNamed (entries.map fun (name, t) => (some name, t)) = .mapping entries := by
  have hnames : (entries.map fun (name, t) => (some name, t)).mapM
      (fun e => e.1.map fun name => (name, e.2)) = some entries := by
    induction entries with
    | nil => rfl
    | cons entry rest ih =>
      rw [List.map_cons, List.mapM_cons, ih]
      rfl
  unfold Tree.ofNamed
  dsimp only
  rw [hnames]
  rfl

/-- A number is what is read where none of the other values starts. -/
theorem readValue_number {depth fuel : Nat} {c : Char} (h : c = '-' ∨ isDigit c = true)
    (cs : List Char) :
    readValue depth (fuel + 1) (c :: cs) =
      (readNumber (c :: cs)).map fun (n, rest) => (Tree.orUnusable (n.map .number), rest) := by
  have hblank : isBlank c = false := by
    rcases h with rfl | h
    · rfl
    · exact isBlank_of_isDigit h
  have hne {d : Char} (hd : d ≠ '-' ∧ isDigit d = false) : c ≠ d := by
    rintro rfl
    rcases h with h | h
    · exact hd.1 h
    · rw [hd.2] at h
      cases h
  rw [readValue, skipSpace_of_not_blank hblank]
  split
  · next heq => exact absurd (List.cons.inj heq).1 (hne (by decide))
  · next heq => exact absurd (List.cons.inj heq).1 (hne (by decide))
  · next heq => exact absurd (List.cons.inj heq).1 (hne (by decide))
  · next heq => exact absurd (List.cons.inj heq).1 (hne (by decide))
  · next heq => exact absurd (List.cons.inj heq).1 (hne (by decide))
  · next heq => exact absurd (List.cons.inj heq).1 (hne (by decide))
  · rfl

/-- Items are what is read in brackets where these are not empty. -/
theorem readValue_items {depth fuel : Nat} {c : Char} (hc : isLeading c = true) (hdepth : 0 < depth)
    (cs : List Char) :
    readValue depth (fuel + 1) ('[' :: c :: cs) =
      (readItems (depth - 1) fuel (c :: cs)).map fun (items, rest) =>
        (.sequence true items, rest) := by
  have hne : c ≠ ']' := by
    rintro rfl
    cases hc
  rw [readValue, skipSpace_of_not_blank (by decide)]
  split
  · next heq => cases heq
  · next heq => cases heq
  · next heq => cases heq
  · next heq => cases heq
  · next heq =>
    cases heq
    rw [skipSpace_of_not_blank (not_blank_of_leading hc)]
    split
    · next heq => exact absurd (List.cons.inj heq).1 hne
    · simp only [within_of_pos hdepth]
  · next heq => cases heq
  · next hbracket _ => exact absurd rfl (hbracket _)

/-- Entries are what is read in braces where these are not empty. -/
theorem readValue_entries {depth fuel : Nat} (hdepth : 0 < depth) (cs : List Char) :
    readValue depth (fuel + 1) ('\x7b' :: '"' :: cs) =
      (readEntries (depth - 1) fuel ('"' :: cs)).map fun (entries, rest) =>
        (Tree.ofNamed entries, rest) := by
  change ((readEntries (depth - 1) fuel ('"' :: cs)).map fun (entries, rest) =>
    (Tree.within depth (Tree.ofNamed entries), rest)) = _
  simp only [within_of_pos hdepth]

/-- An entry that has been read, and what is read after it. -/
def readOn (depth fuel : Nat) (entry : Option String × Tree) (rest : List Char) :
    Option (List (Option String × Tree) × List Char) :=
  match skipSpace rest with
  | ',' :: rest => (readEntries depth fuel rest).map fun (entries, rest) => (entry :: entries, rest)
  | '\x7d' :: rest => some ([entry], rest)
  | _ => none

section
variable {depth fuel : Nat} {cs mid rest : List Char} {units : List Nat} {t : Tree}

/-- After a quote a text is read, up to the quote that closes it. -/
theorem readValue_string (h : readUnits cs = some (units, rest)) :
    readValue depth (fuel + 1) ('"' :: cs) =
      some (Tree.orUnusable ((unitsText? units).map .string), rest) := by
  change ((readUnits cs).map fun (units, rest) =>
    (Tree.orUnusable ((unitsText? units).map .string), rest)) = _
  rw [h]
  rfl

/-- After an item and a comma the other items are read. -/
theorem readItems_more (h : readValue depth fuel cs = some (t, ',' :: rest)) :
    readItems depth (fuel + 1) cs =
      (readItems depth fuel rest).map fun (items, rest) => (t :: items, rest) := by
  rw [readItems, h]
  rfl

/-- After the last item the bracket closes. -/
theorem readItems_last (h : readValue depth fuel cs = some (t, ']' :: rest)) :
    readItems depth (fuel + 1) cs = some ([t], rest) := by
  rw [readItems, h]
  rfl

/-- After a name and a colon the value is read, and then what follows an entry. -/
theorem readEntries_value (hunits : readUnits cs = some (units, ':' :: mid))
    (h : readValue depth fuel mid = some (t, rest)) :
    readEntries depth (fuel + 1) ('"' :: cs) =
      readOn depth fuel (unitsText? units, t) rest := by
  rw [readEntries, skipSpace_of_not_blank (by decide)]
  split
  · next heq =>
    cases heq
    rw [hunits]
    dsimp only
    rw [skipSpace_of_not_blank (by decide)]
    split
    · next heq =>
      cases heq
      rw [h]
      rfl
    · next hcolon => exact absurd rfl (hcolon _)
  · next hquote => exact absurd rfl (hquote _)

/-- After an entry and a comma the other entries are read. -/
theorem readEntries_more (hunits : readUnits cs = some (units, ':' :: mid))
    (h : readValue depth fuel mid = some (t, ',' :: rest)) :
    readEntries depth (fuel + 1) ('"' :: cs) =
      (readEntries depth fuel rest).map fun (entries, rest) =>
        ((unitsText? units, t) :: entries, rest) :=
  readEntries_value hunits h

/-- After the last entry the brace closes. -/
theorem readEntries_last (hunits : readUnits cs = some (units, ':' :: mid))
    (h : readValue depth fuel mid = some (t, '\x7d' :: rest)) :
    readEntries depth (fuel + 1) ('"' :: cs) = some ([(unitsText? units, t)], rest) :=
  readEntries_value hunits h

end

/-- A numeral stops at a comma and at a closing bracket. -/
theorem stops_cons {c : Char} {cs : List Char} (h : c = ',' ∨ c = ']' ∨ c = '\x7d') :
    Stops (c :: cs) := by
  intro d hd
  cases hd
  rcases h with rfl | rfl | rfl <;> decide

/-- An item is written with a comma before the next one. -/
theorem writeItems_cons (item next : Tree) (more : List Tree) :
    Tree.writeItems (item :: next :: more) =
      item.write ++ ',' :: Tree.writeItems (next :: more) := by
  rw [Tree.writeItems]
  simp

/-- An entry is written with a comma before the next one. -/
theorem writeEntries_cons (name : String) (value : Tree) (next : String × Tree)
    (more : List (String × Tree)) :
    Tree.writeEntries ((name, value) :: next :: more) =
      quote name ++ ':' :: (value.write ++ ',' :: Tree.writeEntries (next :: more)) := by
  rw [Tree.writeEntries]
  simp

/-- A quoted text is its escaped characters between quotes, whatever comes after it. -/
theorem quote_append (s : String) (rest : List Char) :
    quote s ++ rest = '"' :: (s.toList.flatMap escapeChar ++ '"' :: rest) := by
  rw [quote, List.cons_append, List.append_assoc]
  rfl

/-- What is written of items starts with a character that starts a value. -/
theorem exists_writeItems_eq_cons {depth : Nat} {item : Tree} (h : item.Fits depth)
    (rest : List Tree) :
    ∃ c cs, Tree.writeItems (item :: rest) = c :: cs ∧ isLeading c = true := by
  obtain ⟨c, cs, hcs, hc⟩ := exists_write_eq_cons h
  cases rest with
  | nil => exact ⟨c, cs, by rw [Tree.writeItems, hcs], hc⟩
  | cons next more => exact ⟨c, _, by rw [writeItems_cons, hcs]; rfl, hc⟩

/-- What is written of entries starts with a quote. -/
theorem exists_writeEntries_eq_cons (entry : String × Tree) (rest : List (String × Tree)) :
    ∃ cs, Tree.writeEntries (entry :: rest) = '"' :: cs := by
  obtain ⟨name, value⟩ := entry
  cases rest with
  | nil => exact ⟨_, rfl⟩
  | cons next more => exact ⟨_, rfl⟩

mutual

/-- A tree that fits is read back from its text. -/
theorem readValue_write : ∀ (t : Tree) (depth fuel : Nat) (rest : List Char), t.Fits depth →
    2 * t.write.length ≤ fuel → Stops rest →
    readValue depth fuel (t.write ++ rest) = some (t, rest)
  | t, depth, 0, rest, h, hfuel, _ => by
    obtain ⟨c, cs, hcs, -⟩ := exists_write_eq_cons h
    rw [hcs, List.length_cons] at hfuel
    omega
  | .null, depth, fuel + 1, rest, _, _, _ => rfl
  | .bool true, depth, fuel + 1, rest, _, _, _ => rfl
  | .bool false, depth, fuel + 1, rest, _, _, _ => rfl
  | .plain _, depth, fuel + 1, rest, h, _, _ => h.elim
  | .unusable, depth, fuel + 1, rest, h, _, _ => h.elim
  | .string s, depth, fuel + 1, rest, _, _, _ => by
    rw [Tree.write, quote_append, readValue_string (readUnits_escaped _ rest), unitsText?_string]
    rfl
  | .number (.double d), depth, fuel + 1, rest, h, _, _ => h.elim
  | .number (.int n), depth, fuel + 1, rest, h, _, hrest => by
    obtain ⟨⟨c, cs, hcs, hc⟩, -⟩ := integer_ends n
    have hread := readNumber_integer h.1 h.2 hrest
    rw [Tree.write, Number.text]
    rw [hcs, List.cons_append] at hread ⊢
    rw [readValue_number hc, hread]
    rfl
  | .sequence true [], depth, fuel + 1, rest, h, _, _ => by
    change some (Tree.within depth (.sequence true []), rest) = _
    rw [within_of_pos h.2.1]
  | .sequence true (item :: items), depth, fuel + 1, rest, h, hfuel, _ => by
    obtain ⟨c, cs, hcs, hc⟩ := exists_writeItems_eq_cons h.2.2.1 items
    have hread := readItems_write (item :: items) (depth - 1) fuel rest (List.cons_ne_nil _ _)
      h.2.2 (by simp only [Tree.write, List.length_cons, List.length_append] at hfuel; omega)
    rw [Tree.write, List.cons_append, List.append_assoc, List.singleton_append]
    rw [hcs, List.cons_append] at hread ⊢
    rw [readValue_items hc h.2.1, hread]
    rfl
  | .mapping [], depth, fuel + 1, rest, h, _, _ => by
    change some (Tree.within depth (.mapping []), rest) = _
    rw [within_of_pos h.1]
  | .mapping (entry :: entries), depth, fuel + 1, rest, h, hfuel, _ => by
    obtain ⟨cs, hcs⟩ := exists_writeEntries_eq_cons entry entries
    have hread := readEntries_write (entry :: entries) (depth - 1) fuel rest
      (List.cons_ne_nil _ _) h.2
      (by simp only [Tree.write, List.length_cons, List.length_append] at hfuel; omega)
    rw [Tree.write, List.cons_append, List.append_assoc, List.singleton_append]
    rw [hcs, List.cons_append] at hread ⊢
    rw [readValue_entries h.1, hread, Option.map_some]
    dsimp only
    rw [ofNamed_named]

/-- The items of a sequence are read back from their texts and the closing bracket. -/
theorem readItems_write : ∀ (items : List Tree) (depth fuel : Nat) (rest : List Char), items ≠ [] →
    Tree.FitsItems depth items → 2 * (Tree.writeItems items).length + 1 ≤ fuel →
    readItems depth fuel (Tree.writeItems items ++ ']' :: rest) = some (items, rest)
  | [], _, _, _, hne, _, _ => absurd rfl hne
  | _, _, 0, _, _, _, hfuel => absurd hfuel (by omega)
  | [item], depth, fuel + 1, rest, _, h, hfuel => by
    rw [Tree.writeItems] at hfuel ⊢
    exact readItems_last
      (readValue_write item depth fuel _ h.1 (by omega) (stops_cons (by decide)))
  | item :: next :: more, depth, fuel + 1, rest, _, h, hfuel => by
    rw [writeItems_cons, List.length_append, List.length_cons] at hfuel
    rw [writeItems_cons, List.append_assoc, List.cons_append, readItems_more
      (readValue_write item depth fuel _ h.1 (by omega) (stops_cons (by decide))),
      readItems_write (next :: more) depth fuel rest (List.cons_ne_nil _ _) h.2 (by omega)]
    rfl

/-- The entries of a mapping are read back from their texts and the closing brace. -/
theorem readEntries_write : ∀ (entries : List (String × Tree)) (depth fuel : Nat)
    (rest : List Char), entries ≠ [] → Tree.FitsEntries depth entries →
    2 * (Tree.writeEntries entries).length + 1 ≤ fuel →
    readEntries depth fuel (Tree.writeEntries entries ++ '\x7d' :: rest) =
      some (entries.map fun (name, t) => (some name, t), rest)
  | [], _, _, _, hne, _, _ => absurd rfl hne
  | _, _, 0, _, _, _, hfuel => absurd hfuel (by omega)
  | [(name, value)], depth, fuel + 1, rest, _, h, hfuel => by
    rw [Tree.writeEntries, List.length_append, List.length_cons] at hfuel
    rw [Tree.writeEntries, List.append_assoc, List.cons_append, quote_append,
      readEntries_last (readUnits_escaped _ _)
        (readValue_write value depth fuel _ h.1 (by omega) (stops_cons (by decide))),
      unitsText?_string]
    rfl
  | (name, value) :: next :: more, depth, fuel + 1, rest, _, h, hfuel => by
    rw [writeEntries_cons, List.length_append, List.length_cons, List.length_append,
      List.length_cons] at hfuel
    rw [writeEntries_cons, List.append_assoc, List.cons_append, List.append_assoc, List.cons_append,
      quote_append,
      readEntries_more (readUnits_escaped _ _)
        (readValue_write value depth fuel _ h.1 (by omega) (stops_cons (by decide))),
      unitsText?_string,
      readEntries_write (next :: more) depth fuel rest (List.cons_ne_nil _ _) h.2 (by omega)]
    rfl

end

/-- A tree that fits is what its text is read to. -/
theorem readTree?_write {t : Tree} (h : t.Fits maxDepth) : readTree? t.write = some t := by
  have hread := readValue_write t maxDepth (2 * t.write.length + 2) [] h (by omega) stops_nil
  rw [List.append_nil] at hread
  rw [readTree?, hread]
  rfl

/-! ## Values -/

/-- An item of an array is written with a comma before the next one. -/
theorem write_items_cons (item next : Json) (more : List Json) :
    writeItems (item :: next :: more) = write item ++ ',' :: writeItems (next :: more) := by
  rw [writeItems]
  simp

/-- A field of an object is written with a comma before the next one. -/
theorem write_fields_cons (name : String) (value : Json) (next : String × Json)
    (more : List (String × Json)) :
    writeFields ((name, value) :: next :: more) =
      quote name ++ ':' :: (write value ++ ',' :: writeFields (next :: more)) := by
  rw [writeFields]
  simp

mutual

/-- A value has the text of its tree. -/
theorem treeWrite_ofJson : ∀ v : Json, (Tree.ofJson v).write = write v
  | .null | .bool true | .bool false | .number _ | .string _ => rfl
  | .array items => by
    rw [Tree.ofJson, Tree.write, write, writeItems_ofItems items]
  | .object fields => by
    rw [Tree.ofJson, Tree.write, write, writeEntries_ofFields fields]

/-- The trees of items are written as the items are. -/
theorem writeItems_ofItems : ∀ items : List Json,
    Tree.writeItems (Tree.ofItems items) = writeItems items
  | [] => rfl
  | [item] => treeWrite_ofJson item
  | item :: next :: more => by
    have hrest := writeItems_ofItems (next :: more)
    rw [Tree.ofItems] at hrest
    rw [Tree.ofItems, Tree.ofItems, writeItems_cons, treeWrite_ofJson item, hrest,
      write_items_cons]

/-- The trees of fields are written as the fields are. -/
theorem writeEntries_ofFields : ∀ fields : List (String × Json),
    Tree.writeEntries (Tree.ofFields fields) = writeFields fields
  | [] => rfl
  | [(name, value)] => by
    rw [Tree.ofFields, Tree.ofFields, Tree.writeEntries, treeWrite_ofJson value, writeFields]
  | (name, value) :: (name', value') :: more => by
    have hrest := writeEntries_ofFields ((name', value') :: more)
    rw [Tree.ofFields] at hrest
    rw [Tree.ofFields, Tree.ofFields, writeEntries_cons, treeWrite_ofJson value, hrest,
      write_fields_cons]

end

mutual

/-- The tree of a value that fits fits. -/
theorem fits_ofJson (depth : Nat) : ∀ v : Json, Fits depth v → (Tree.ofJson v).Fits depth
  | .null, _ | .bool _, _ | .string _, _ => trivial
  | .number (.int _), h => h
  | .number (.double _), h => h.elim
  | .array items, h => ⟨rfl, h.1, fitsItems_ofItems (depth - 1) items h.2⟩
  | .object fields, h => ⟨h.1, fitsEntries_ofFields (depth - 1) fields h.2.2⟩

/-- Items that are nested no deeper than may be read have trees that are not either. -/
theorem fitsItems_ofItems (depth : Nat) :
    ∀ items : List Json, FitsItems depth items → Tree.FitsItems depth (Tree.ofItems items)
  | [], _ => trivial
  | item :: rest, h => ⟨fits_ofJson depth item h.1, fitsItems_ofItems depth rest h.2⟩

/-- Fields that are nested no deeper than may be read have trees that are not either. -/
theorem fitsEntries_ofFields (depth : Nat) : ∀ fields : List (String × Json),
    FitsFields depth fields → Tree.FitsEntries depth (Tree.ofFields fields)
  | [], _ => trivial
  | (_, value) :: rest, h => ⟨fits_ofJson depth value h.1, fitsEntries_ofFields depth rest h.2⟩

end

mutual

/-- The objects of a value that fits are in order. -/
theorem sorted_of_fits (depth : Nat) : ∀ v : Json, Fits depth v → Sorted v
  | .null, _ | .bool _, _ | .number _, _ | .string _, _ => trivial
  | .array items, h => by
    rw [Fits] at h
    exact sortedItems_of_fits (depth - 1) items h.2
  | .object fields, h => by
    rw [Fits] at h
    exact ⟨h.2.1, sortedFields_of_fits (depth - 1) fields h.2.2⟩

/-- Items that are read as they are written have the objects in them in order. -/
theorem sortedItems_of_fits (depth : Nat) :
    ∀ items : List Json, FitsItems depth items → SortedItems items
  | [], _ => trivial
  | item :: rest, h => by
    rw [FitsItems] at h
    exact ⟨sorted_of_fits depth item h.1, sortedItems_of_fits depth rest h.2⟩

/-- Fields that are read as they are written have the objects in them in order. -/
theorem sortedFields_of_fits (depth : Nat) :
    ∀ fields : List (String × Json), FitsFields depth fields → SortedFields fields
  | [], _ => trivial
  | (_, value) :: rest, h => by
    rw [FitsFields] at h
    exact ⟨sorted_of_fits depth value h.1, sortedFields_of_fits depth rest h.2⟩

end

/-- The text of a value that fits neither starts nor ends with a blank. -/
theorem solid_write {depth : Nat} {v : Json} (h : Fits depth v) : Solid (write v) := by
  rw [← treeWrite_ofJson]
  exact solid_treeWrite (fits_ofJson depth v h)

/-- A value that fits is what its text stands for. -/
theorem ofChars?_write {v : Json} (h : Fits maxDepth v) : ofChars? (write v) = some v := by
  rw [ofChars?, ← treeWrite_ofJson, readTree?_write (fits_ofJson maxDepth v h)]
  exact toJson?_ofJson v (sorted_of_fits maxDepth v h)

end Json

end Automation
