/-!
# Decimal numerals

A numeral is a nonempty run of ASCII digits. `digits` writes a number without leading zeros,
`readDigits?` reads any numeral, and `readWord?` reads the numerals of a bounded word, which may
carry a plus sign.
-/

namespace Automation.Text

/-- The character of a digit below ten. -/
def digitChar (d : Nat) : Char :=
  Char.ofNat (48 + d)

/-- The value of an ASCII digit. -/
def digitValue? (c : Char) : Option Nat :=
  if '0' ≤ c ∧ c ≤ '9' then some (c.toNat - 48) else none

/-- An ASCII digit. -/
def isDigit (c : Char) : Bool :=
  (digitValue? c).isSome

/-- An ASCII letter. -/
def isLetter (c : Char) : Bool :=
  ('a' ≤ c && c ≤ 'z') || ('A' ≤ c && c ≤ 'Z')

/-- The decimal digits of a number, most significant first. -/
def digits (n : Nat) : List Char :=
  if n < 10 then [digitChar n] else digits (n / 10) ++ [digitChar (n % 10)]
termination_by n

/-- The decimal text of an integer, with a minus sign for the negative ones. -/
def integer : Int → List Char
  | .ofNat n => digits n
  | .negSucc n => '-' :: digits (n + 1)

/-- The number that a run of digits continues to, starting from `n`. -/
def readDigitsFrom : Nat → List Char → Option Nat
  | n, [] => some n
  | n, c :: cs => (digitValue? c).bind fun d => readDigitsFrom (10 * n + d) cs

/-- The value of a nonempty run of digits. -/
def readDigits? : List Char → Option Nat
  | [] => none
  | c :: cs => readDigitsFrom 0 (c :: cs)

/-- The value of a numeral that is at most `limit`; one leading plus sign is allowed. -/
def readWord? (limit : Nat) (cs : List Char) : Option Nat :=
  let body := match cs with
    | '+' :: rest => rest
    | _ => cs
  (readDigits? body).filter (· ≤ limit)

/-- The largest number that fits into 64 bits. -/
def maxWord64 : Nat := Nat.pow 2 64 - 1

/-- The largest number that fits into 32 bits. -/
def maxWord32 : Nat := Nat.pow 2 32 - 1

/-- The character of a digit has the value of the digit. -/
theorem digitValue?_digitChar {d : Nat} (h : d < 10) : digitValue? (digitChar d) = some d := by
  match d, h with
  | 0, _ | 1, _ | 2, _ | 3, _ | 4, _ | 5, _ | 6, _ | 7, _ | 8, _ | 9, _ => decide

/-- Digits are read one text after the other. -/
theorem readDigitsFrom_append (cs ds : List Char) (n : Nat) :
    readDigitsFrom n (cs ++ ds) = (readDigitsFrom n cs).bind fun m => readDigitsFrom m ds := by
  induction cs generalizing n with
  | nil => rfl
  | cons c cs ih =>
    cases h : digitValue? c <;> simp [readDigitsFrom, h, ih]

/-- The digits of a number are read as the number. -/
theorem readDigitsFrom_digits (n : Nat) : readDigitsFrom 0 (digits n) = some n := by
  induction n using Nat.strongRecOn with
  | ind n ih =>
    unfold digits
    split
    · next h => simp [readDigitsFrom, digitValue?_digitChar h]
    · next h =>
      rw [readDigitsFrom_append, ih (n / 10) (by omega)]
      simp [readDigitsFrom, digitValue?_digitChar (Nat.mod_lt n (by omega : 10 > 0))]
      omega

/-- Every number has a digit. -/
theorem digits_ne_nil (n : Nat) : digits n ≠ [] := by
  unfold digits
  split <;> simp

/-- Reading the digits of a number gives the number back. -/
theorem readDigits?_digits (n : Nat) : readDigits? (digits n) = some n := by
  have h := readDigitsFrom_digits n
  cases hd : digits n with
  | nil => exact absurd hd (digits_ne_nil n)
  | cons c cs => rw [hd] at h; exact h

end Automation.Text
