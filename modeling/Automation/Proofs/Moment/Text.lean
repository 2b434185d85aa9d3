import Automation.Moment.Reader
import Automation.Proofs.Json.Numeral
import Automation.Proofs.Text.Trim

/-!
# Moments as texts

A moment exists if its day is one of the calendar and its time is one of a day (`Moment.Exists`).
Later moments exist too (`Moment.Exists.later`). In the years that are written with four digits, a
moment that exists is read back from its text to the nanosecond, with a fraction of as many digits
as it needs (`Moment.ofRelaxed_text`).
-/

namespace Automation

open Text

namespace Moment

/-! ## The calendar -/

/-- The day of a moment is one of the calendar. -/
structure OnCalendar (m : Moment) : Prop where
  month_pos : 0 < m.month
  month_le : m.month ≤ 12
  day_pos : 0 < m.day
  day_le : m.day ≤ daysIn m.year m.month

/-- The moment has a day of the calendar and a time of a day. A leap second counts as one. -/
structure Exists (m : Moment) : Prop extends m.OnCalendar where
  hour : m.hour < 24
  minute : m.minute < 60
  second : m.second ≤ 60
  nanos : m.nanos < 1000000000

/-- The year of a moment is written with four digits and no sign. -/
def FourDigits (m : Moment) : Prop :=
  0 ≤ m.year ∧ m.year ≤ 9999

/-- A month has between one and 31 days. -/
theorem daysIn_bounds (y : Int) (month : Nat) : 0 < daysIn y month ∧ daysIn y month ≤ 31 := by
  unfold daysIn
  repeat' split
  all_goals decide

variable {m : Moment}

/-- The day after a day of the calendar is one. -/
theorem OnCalendar.nextDay (h : m.OnCalendar) : m.nextDay.OnCalendar := by
  unfold Moment.nextDay
  split
  · next hday => exact ⟨h.month_pos, h.month_le, Nat.succ_pos _, hday⟩
  · split
    · next hmonth => exact ⟨Nat.succ_pos _, hmonth, Nat.one_pos, (daysIn_bounds _ _).1⟩
    · exact ⟨Nat.one_pos, (by decide : 1 ≤ 12), Nat.one_pos, (daysIn_bounds _ _).1⟩

/-- A day some days after a day of the calendar is one. -/
theorem OnCalendar.laterByDays (h : m.OnCalendar) (n : Nat) : (m.laterByDays n).OnCalendar := by
  induction n generalizing m with
  | zero => exact h
  | succ n ih => exact ih h.nextDay

/-- What is later than a moment of the calendar exists. -/
theorem OnCalendar.later (h : m.OnCalendar) (millis : Nat) : (m.later millis).Exists := by
  have hclock (total : Nat) : total % dayMillis < 86400000 := Nat.mod_lt _ (by decide)
  have hlater (days : Nat) := h.laterByDays days
  constructor
  · exact ⟨(hlater _).month_pos, (hlater _).month_le, (hlater _).day_pos, (hlater _).day_le⟩
  · exact Nat.div_lt_of_lt_mul (hclock _)
  · exact Nat.mod_lt _ (by decide)
  · exact Nat.le_of_lt (Nat.mod_lt _ (by decide))
  · have hmillis (total : Nat) : total % 1000 * 1000000 + m.nanos % 1000000 < 1000000000 := by
      omega
    exact hmillis _

end Moment

namespace Text

/-! ## Digits -/

/-- Zeros in front of a number do not count. -/
theorem readDigitsFrom_padded (width n : Nat) :
    readDigitsFrom 0 (Moment.padded width n) = some n := by
  unfold Moment.padded
  dsimp only
  induction width - (digits n).length with
  | zero => exact readDigitsFrom_digits n
  | succ k ih => exact ih

/-- A padded number is written in digits only. -/
theorem isDigit_of_mem_padded {width n : Nat} : ∀ c ∈ Moment.padded width n, isDigit c = true := by
  intro c hc
  rw [Moment.padded, List.mem_append] at hc
  cases hc with
  | inl hzero => rw [List.eq_of_mem_replicate hzero]; rfl
  | inr hdigit => exact isDigit_of_mem_digits n c hdigit

/-- A number below a power of ten has no more digits than the exponent says. -/
theorem length_digits_le {width n : Nat} (hwidth : 0 < width) (h : n < Nat.pow 10 width) :
    (digits n).length ≤ width := by
  induction width generalizing n with
  | zero => exact absurd hwidth (Nat.lt_irrefl 0)
  | succ width ih =>
    rcases Nat.lt_or_ge n 10 with hn | hn
    · rw [digits_of_lt hn]
      exact hwidth
    · rw [digits_of_le hn, List.length_append]
      have hpow : Nat.pow 10 (width + 1) = Nat.pow 10 width * 10 := rfl
      have hpos : 0 < width := by
        rcases Nat.eq_zero_or_pos width with rfl | hpos
        · exact absurd h (Nat.not_lt.2 hn)
        · exact hpos
      exact Nat.succ_le_succ (ih hpos (by omega))

/-- A number that is not too wide has exactly the width to which it is padded. -/
theorem length_padded {width n : Nat} (hwidth : 0 < width) (h : n < Nat.pow 10 width) :
    (Moment.padded width n).length = width := by
  have hlength := length_digits_le hwidth h
  rw [Moment.padded, List.length_append, List.length_replicate]
  omega

/-- A number that is padded starts with a digit. -/
theorem exists_padded_eq_cons (width n : Nat) :
    ∃ c cs, Moment.padded width n = c :: cs ∧ isDigit c = true := by
  cases hcs : Moment.padded width n with
  | nil => exact absurd (List.append_eq_nil_iff.1 hcs).2 (digits_ne_nil n)
  | cons c cs => exact ⟨c, cs, rfl, isDigit_of_mem_padded c (hcs ▸ List.mem_cons_self ..)⟩

/-- The digits of a padded number are read as the number. -/
theorem readDigits?_padded (width n : Nat) : readDigits? (Moment.padded width n) = some n := by
  have hread := readDigitsFrom_padded width n
  obtain ⟨c, cs, hcs, -⟩ := exists_padded_eq_cons width n
  rw [hcs] at hread ⊢
  exact hread

end Text

namespace Moment

variable {m : Moment}

/-- Blanks are not skipped where there is a number. -/
theorem trimStart_padded (width n : Nat) (rest : List Char) :
    trimStart (padded width n ++ rest) = padded width n ++ rest := by
  obtain ⟨c, cs, hcs, hc⟩ := exists_padded_eq_cons width n
  refine trimStart_append blanks_nil fun d hd => ?_
  rw [hcs] at hd
  cases hd
  exact isBlank_of_isDigit hc

/-- A padded number is read where more digits could be, if none follows. -/
theorem number_padded {width n max : Nat} {rest : List Char} (hwidth : 0 < width)
    (h : n < Nat.pow 10 width) (hmax : width ≤ max)
    (hrest : width = max ∨ ∀ c ∈ rest.head?, isDigit c = false) :
    number max (padded width n ++ rest) = .ok (n, rest) := by
  have hlength := length_padded hwidth h
  have hdigits : ((padded width n ++ rest).take max).takeWhile isDigit = padded width n := by
    rw [List.take_append, hlength, List.take_of_length_le (by omega),
      List.takeWhile_append_of_pos isDigit_of_mem_padded]
    have hstop : (rest.take (max - width)).takeWhile isDigit = [] := by
      rcases hrest with rfl | hrest
      · rw [Nat.sub_self]
        rfl
      · cases rest with
        | nil => rw [List.take_nil]; rfl
        | cons c rest =>
          cases max - width with
          | zero => rfl
          | succ k => exact List.takeWhile_cons_of_neg (by simp [hrest c rfl])
    rw [hstop, List.append_nil]
  obtain ⟨c, cs, hcs, -⟩ := exists_padded_eq_cons width n
  have hne : padded width n ++ rest ≠ [] := by
    rw [hcs]
    exact List.cons_ne_nil _ _
  unfold number
  split
  · next hnil => exact absurd hnil hne
  · dsimp only
    rw [hdigits, readDigits?_padded, List.drop_left]

/-! ## The parts of a text -/

/-- A padded field of two digits is read as its number if that is within the bounds. -/
theorem relaxedField_padded {low high n : Nat} (hlow : low ≤ n) (hhigh : n ≤ high)
    (h : n < 100) (rest : List Char) :
    relaxedField low high (padded 2 n ++ rest) = .ok (n, rest) := by
  rw [relaxedField, trimStart_padded, number_padded (by decide) h (Nat.le_refl 2) (.inl rfl)]
  exact if_pos ⟨hlow, hhigh⟩

/-- A year of four digits is read without a sign. -/
theorem relaxedYear_yearText {y : Int} (hy : 0 ≤ y ∧ y ≤ 9999) (rest : List Char) :
    relaxedYear (trimStart (yearText y ++ rest)) = .ok (y, rest) := by
  have hlt : y.toNat < Nat.pow 10 4 := by
    have hpow : Nat.pow 10 4 = 10000 := rfl
    omega
  have hread : number 4 (padded 4 y.toNat ++ rest) = .ok (y.toNat, rest) :=
    number_padded (by decide) hlt (Nat.le_refl 4) (.inl rfl)
  obtain ⟨c, cs, hcs, hc⟩ := exists_padded_eq_cons 4 y.toNat
  rw [yearText, if_pos hy, trimStart_padded]
  unfold relaxedYear
  split
  · next heq =>
    rw [hcs] at heq
    cases heq
    cases hc
  · next heq =>
    rw [hcs] at heq
    cases heq
    cases hc
  · rw [hread]
    exact congrArg (fun y => Except.ok (y, rest)) (Int.toNat_of_nonneg hy.1)

/-- A fraction of so many digits counts that many powers of ten less than one of nine. -/
theorem fraction_padded {width n : Nat} (hwidth : 0 < width) (h : n < Nat.pow 10 width)
    (hmax : width ≤ 9) :
    fraction ('.' :: (padded width n ++ ['Z'])) = .ok (n * Nat.pow 10 (9 - width), ['Z']) := by
  have hread : number 9 (padded width n ++ ['Z']) = .ok (n, ['Z']) :=
    number_padded hwidth h hmax (.inr fun c hc => by cases hc; rfl)
  have hused : (padded width n ++ ['Z']).length - ['Z'].length = width := by
    rw [List.length_append, Nat.add_sub_cancel, length_padded hwidth h]
  rw [fraction, hread]
  dsimp only [bind, Except.bind]
  rw [hused]
  rfl

/-- The fraction of a second is read as its nanoseconds. -/
theorem fraction_fractionText {nanos : Nat} (h : nanos < 1000000000) :
    fraction (fractionText nanos ++ ['Z']) = .ok (nanos, ['Z']) := by
  have hmillis : Nat.pow 10 3 = 1000 := rfl
  have hmicros : Nat.pow 10 6 = 1000000 := rfl
  unfold fractionText
  split
  · next hzero =>
    rw [hzero]
    rfl
  · split
    · next hdivides =>
      have hread := @fraction_padded 3 (nanos / 1000000) (by decide) (by omega) (by decide)
      rw [List.cons_append, hread, hmicros, Nat.div_mul_cancel (Nat.dvd_of_mod_eq_zero hdivides)]
    · split
      · next hdivides =>
        have hread := @fraction_padded 6 (nanos / 1000) (by decide) (by omega) (by decide)
        rw [List.cons_append, hread, hmillis,
          Nat.div_mul_cancel (Nat.dvd_of_mod_eq_zero hdivides)]
      · have hread := @fraction_padded 9 nanos (by decide) h (by decide)
        rw [List.cons_append, hread, Nat.sub_self]
        exact congrArg (fun n => Except.ok (n, ['Z'])) (Nat.mul_one nanos)

/-- A moment that exists is put together from its fields in UTC. -/
theorem assemble_utc (h : m.Exists) (hyear : isYear m.year = true) : assemble m 0 = .ok m := by
  have hlocal : m.ofLocal 0 = m := by
    have htotal : ((m.hour * 60 + m.minute : Nat) : Int) - 0 = (m.hour * 60 + m.minute : Nat) :=
      Int.sub_zero _
    have hminute := h.minute
    have hhour := h.hour
    unfold ofLocal
    rw [htotal]
    dsimp only
    rw [if_neg (by omega), if_neg (by omega), Int.toNat_natCast,
      show (m.hour * 60 + m.minute) / 60 = m.hour by omega,
      show (m.hour * 60 + m.minute) % 60 = m.minute by omega]
  have hrange : ¬(!isYear m.year ∨ m.day > daysIn m.year m.month ∨ (0 : Int).natAbs ≥ 1440) := by
    rw [hyear]
    simpa using h.day_le
  rw [assemble, if_neg hrange, hlocal]
  exact if_pos hyear

/-- A moment that exists is read back from its text, in a year of four digits. -/
theorem ofRelaxed_text (h : m.Exists) (hyear : m.FourDigits) : ofRelaxed m.text = .ok m := by
  have hday : m.day ≤ 31 := Nat.le_trans h.day_le (daysIn_bounds _ _).2
  have hmark (c : Char) (hc : isBlank c = false) (rest : List Char) :
      relaxedMark c (c :: rest) = .ok rest := by
    rw [relaxedMark, trimStart, List.dropWhile_cons_of_neg (by simp [hc])]
    exact if_pos rfl
  have hseparator (rest : List Char) : separator ('T' :: rest) = .ok rest := rfl
  have hoffset : relaxedOffset (trimStart ['Z']) = .ok (0, []) := rfl
  have hisYear : isYear m.year = true := by
    rw [FourDigits] at hyear
    rw [isYear, Bool.and_eq_true, decide_eq_true_eq, decide_eq_true_eq]
    omega
  have hmonth := relaxedField_padded h.month_pos h.month_le (by have := h.month_le; omega)
  have hdayRead := relaxedField_padded h.day_pos hday (by omega)
  have hhour := relaxedField_padded (Nat.zero_le m.hour) (Nat.le_sub_one_of_lt h.hour)
    (by have := h.hour; omega)
  have hminute := relaxedField_padded (Nat.zero_le m.minute) (Nat.le_sub_one_of_lt h.minute)
    (by have := h.minute; omega)
  have hsecond := relaxedField_padded (Nat.zero_le m.second) h.second
    (by have := h.second; omega)
  rw [ofRelaxed, text, String.toList_ofList, write, relaxedYear_yearText hyear]
  simp only [bind, Except.bind, hmark '-' rfl, hmark ':' rfl, hmonth, hdayRead, hseparator, hhour,
    hminute, hsecond, fraction_fractionText h.nanos, hoffset]
  exact assemble_utc h hisYear

end Moment

end Automation
