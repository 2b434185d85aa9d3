import Automation.Json.Reader
import Automation.Text.Blank

/-!
# Reading integers back

The digits of a number are digits, the first of which is no zero unless the number is zero. An
integer of 64 bits, signed or not, is read back from its text, whatever comes after it, if that does
not go on with the number (`Json.readNumber_integer`).
-/

namespace Automation

namespace Text

/-- The character of a digit is one. -/
theorem isDigit_digitChar {d : Nat} (h : d < 10) : isDigit (digitChar d) = true := by
  rw [isDigit, digitValue?_digitChar h]
  rfl

/-- A number below ten is one digit. -/
theorem digits_of_lt {n : Nat} (h : n < 10) : digits n = [digitChar n] := by
  unfold digits
  rw [if_pos h]

/-- The last digit of a number is what remains of it when it is divided by ten. -/
theorem digits_of_le {n : Nat} (h : 10 ≤ n) :
    digits n = digits (n / 10) ++ [digitChar (n % 10)] := by
  rw [digits, if_neg (Nat.not_lt.2 h)]

/-- A number is written in digits only. -/
theorem isDigit_of_mem_digits (n : Nat) : ∀ c ∈ digits n, isDigit c = true := by
  induction n using Nat.strongRecOn with
  | ind n ih =>
    rcases Nat.lt_or_ge n 10 with h | h
    · rw [digits_of_lt h]
      exact List.forall_mem_singleton.2 (isDigit_digitChar h)
    · rw [digits_of_le h]
      exact List.forall_mem_append.2 ⟨ih (n / 10) (by omega),
        List.forall_mem_singleton.2 (isDigit_digitChar (Nat.mod_lt n (by omega)))⟩

/-- The first digit of a positive number is no zero. -/
theorem exists_digits_eq_cons {n : Nat} (h : 0 < n) :
    ∃ d cs, digits n = digitChar d :: cs ∧ 0 < d ∧ d < 10 := by
  induction n using Nat.strongRecOn with
  | ind n ih =>
    rcases Nat.lt_or_ge n 10 with hn | hn
    · exact ⟨n, [], digits_of_lt hn, h, hn⟩
    · obtain ⟨d, cs, hd, hpos, hlt⟩ := ih (n / 10) (by omega) (by omega)
      exact ⟨d, cs ++ [digitChar (n % 10)], by rw [digits_of_le hn, hd]; rfl, hpos, hlt⟩

/-- Reading on from a number leads to no smaller one. -/
theorem le_of_readDigitsFrom {m n : Nat} {cs : List Char} (h : readDigitsFrom m cs = some n) :
    m ≤ n := by
  induction cs generalizing m with
  | nil =>
    cases h
    exact Nat.le_refl _
  | cons c cs ih =>
    obtain ⟨d, -, hrest⟩ := Option.bind_eq_some_iff.1 h
    have hle := ih hrest
    omega

/-- No digit comes after `9`. -/
theorem toNat_of_isDigit {c : Char} (h : isDigit c = true) : c.toNat ≤ 57 := by
  unfold isDigit digitValue? at h
  split at h
  · next hrange => exact hrange.2
  · cases h

/-- No digit is blank. -/
theorem isBlank_of_isDigit {c : Char} (h : isDigit c = true) : isBlank c = false := by
  unfold isDigit digitValue? at h
  split at h
  · next hc =>
    have hlow : 48 ≤ c.toNat := hc.1
    have hhigh : c.toNat ≤ 57 := hc.2
    simp only [isBlank, Bool.or_eq_false_iff, Bool.and_eq_false_iff, decide_eq_false_iff_not,
      beq_eq_false_iff_ne]
    omega
  · cases h

/-- Numbers with the same digits are the same. -/
theorem digits_inj {m n : Nat} (h : digits m = digits n) : m = n := by
  have hread := readDigits?_digits m
  rw [h, readDigits?_digits, Option.some_inj] at hread
  exact hread.symm

/-- A word is read from the digits of a number that is not too large. -/
theorem readWord?_digits (limit n : Nat) :
    readWord? limit (digits n) = if n ≤ limit then some n else none := by
  have hbody : readWord? limit (digits n) = (readDigits? (digits n)).filter (· ≤ limit) := by
    unfold readWord?
    cases hdigits : digits n with
    | nil => exact absurd hdigits (digits_ne_nil n)
    | cons c cs =>
      have hsign : c ≠ '+' := by
        rintro rfl
        have hdigit := isDigit_of_mem_digits n '+' (hdigits ▸ List.mem_cons_self ..)
        exact absurd hdigit (by decide)
      split
      · next heq => exact absurd (List.cons.inj heq).1 hsign
      · rfl
  rw [hbody, readDigits?_digits, Option.filter_some]
  simp

end Text

namespace Json

open Text

/-- What comes after a number does not go on with it. -/
def Stops (rest : List Char) : Prop :=
  ∀ c ∈ rest.head?, isDigit c = false ∧ c ≠ '.' ∧ c ≠ 'e' ∧ c ≠ 'E'

/-- A numeral stops at the end of the text. -/
theorem stops_nil : Stops [] := by
  intro c hc
  cases hc

/-- Where a numeral stops no digit is read. -/
theorem readDigits_stop {l : Leading} {count : Nat} {rest : List Char} (h : Stops rest) :
    readDigits l count rest = (l, count, rest) := by
  cases rest with
  | nil => rfl
  | cons c rest =>
    have hnone : digitValue? c = none := by simpa [isDigit] using (h c rfl).1
    rw [readDigits, hnone]

/-- Digits of a number that fits into 64 bits are all taken at their value. -/
theorem readDigits_append {cs rest : List Char} {m n count : Nat}
    (h : readDigitsFrom m cs = some n) (hn : n ≤ maxWord64) (hrest : Stops rest) :
    readDigits ⟨m, 0⟩ count (cs ++ rest) = (⟨n, 0⟩, count + cs.length, rest) := by
  induction cs generalizing m count with
  | nil =>
    cases h
    exact readDigits_stop hrest
  | cons c cs ih =>
    obtain ⟨d, hd, hcs⟩ := Option.bind_eq_some_iff.1 h
    have hfits : 10 * m + d ≤ maxWord64 := Nat.le_trans (le_of_readDigitsFrom hcs) hn
    have hpush : (⟨m, 0⟩ : Leading).push d = ⟨10 * m + d, 0⟩ := if_pos ⟨rfl, hfits⟩
    rw [List.cons_append, readDigits, hd]
    dsimp only
    rw [hpush, ih hcs, List.length_cons, Nat.add_assoc, Nat.add_comm 1]

/-- A number that nothing goes on with is an integer, if it has no sign or is a negative number of
64 bits. -/
theorem readNumberTail_stop {negative : Bool} {n : Nat} {rest : List Char} (hrest : Stops rest)
    (h : negative = true → 0 < n ∧ n ≤ Nat.pow 2 63) :
    readNumberTail negative ⟨n, 0⟩ rest =
      some (some (.int (if negative then -(n : Int) else n)), rest) := by
  unfold readNumberTail
  split
  · exact absurd rfl (hrest _ rfl).2.1
  · exact absurd rfl (hrest _ rfl).2.2.1
  · exact absurd rfl (hrest _ rfl).2.2.2
  · cases negative with
    | false => rfl
    | true =>
      obtain ⟨hpos, hle⟩ := h rfl
      have hrange : ¬(n = 0 ∨ n > Nat.pow 2 63) :=
        not_or.2 ⟨Nat.ne_of_gt hpos, Nat.not_lt.2 hle⟩
      rw [if_neg (Nat.lt_irrefl 0), if_neg (by decide), if_neg hrange, if_pos rfl]

/-- The character of a digit above zero is neither `0` nor a sign. -/
theorem digitChar_ne {d : Nat} (hpos : 0 < d) (hlt : d < 10) :
    digitChar d ≠ '0' ∧ digitChar d ≠ '-' := by
  have hall : ∀ d < 10, 0 < d → digitChar d ≠ '0' ∧ digitChar d ≠ '-' := by decide
  exact hall d hlt hpos

/-- The number after its sign. -/
def readUnsigned (negative : Bool) (cs : List Char) : Option (Option Number × List Char) :=
  match cs with
  | '0' :: rest => if rest.head?.any isDigit then none else readNumberTail negative ⟨0, 0⟩ rest
  | _ =>
    let (l, count, rest) := readDigits ⟨0, 0⟩ 0 cs
    if count = 0 then none else readNumberTail negative l rest

/-- A number after a sign is read as a negative one. -/
theorem readNumber_minus (cs : List Char) : readNumber ('-' :: cs) = readUnsigned true cs :=
  rfl

/-- A number without a sign is read as a positive one. -/
theorem readNumber_of_ne {c : Char} (h : c ≠ '-') (cs : List Char) :
    readNumber (c :: cs) = readUnsigned false (c :: cs) := by
  unfold readNumber
  split
  next negative body heq =>
    split at heq
    · next hminus => exact absurd (List.cons.inj hminus).1 h
    · cases heq
      rfl

/-- The digits of a word are read up to what comes after them. -/
theorem readUnsigned_digits {n : Nat} {rest : List Char} (hn : n ≤ maxWord64) (hrest : Stops rest)
    (negative : Bool) :
    readUnsigned negative (digits n ++ rest) = readNumberTail negative ⟨n, 0⟩ rest := by
  rcases Nat.eq_zero_or_pos n with rfl | hpos
  · have hhead : rest.head?.any isDigit = false := by
      cases rest with
      | nil => rfl
      | cons c rest => simp [(hrest c rfl).1]
    rw [digits_of_lt (by omega)]
    change (if rest.head?.any isDigit then none else readNumberTail negative ⟨0, 0⟩ rest) = _
    rw [hhead]
    rfl
  · obtain ⟨d, cs, hd, hdpos, hdlt⟩ := exists_digits_eq_cons hpos
    have hread : readDigits ⟨0, 0⟩ 0 (digits n ++ rest) = (⟨n, 0⟩, 0 + (digits n).length, rest) :=
      readDigits_append (readDigitsFrom_digits n) hn hrest
    rw [hd] at hread ⊢
    unfold readUnsigned
    split
    · next heq => exact absurd (List.cons.inj heq).1 (digitChar_ne hdpos hdlt).1
    · rw [hread]
      dsimp only
      rw [if_neg (by simp)]

/-- An integer is read back from its text. -/
theorem readNumber_integer {n : Int} {rest : List Char} (hlow : -(Nat.pow 2 63 : Nat) ≤ n)
    (hhigh : n < Nat.pow 2 64) (hrest : Stops rest) :
    readNumber (integer n ++ rest) = some (some (.int n), rest) := by
  cases n with
  | ofNat n =>
    have hn : n ≤ maxWord64 := Nat.le_sub_one_of_lt (Int.ofNat_lt.1 hhigh)
    have hunsigned : readNumber (digits n ++ rest) = readUnsigned false (digits n ++ rest) := by
      cases hcs : digits n with
      | nil => exact absurd hcs (digits_ne_nil n)
      | cons c cs =>
        refine readNumber_of_ne ?_ (cs ++ rest)
        rintro rfl
        have hdigit := isDigit_of_mem_digits n '-' (hcs ▸ List.mem_cons_self ..)
        exact absurd hdigit (by decide)
    rw [integer, hunsigned, readUnsigned_digits hn hrest,
      readNumberTail_stop hrest fun h => absurd h (by decide)]
    rfl
  | negSucc n =>
    have hle : n + 1 ≤ Nat.pow 2 63 := by omega
    have hn : n + 1 ≤ maxWord64 := Nat.le_trans hle (by decide)
    rw [integer, List.cons_append, readNumber_minus, readUnsigned_digits hn hrest,
      readNumberTail_stop hrest fun _ => ⟨Nat.succ_pos n, hle⟩]
    rfl

end Json

end Automation
