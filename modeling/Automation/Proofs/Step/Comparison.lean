import Automation.Proofs.Json.Numeral
import Automation.Proofs.Result
import Automation.Proofs.Text.Trim
import Automation.Step.Comparison

/-!
# Comparing consistently

Two values are compared in one of three ways (`Json.Comparison`): as numbers, as moments or as
displayed texts. Equality knows the first and the last way only, but a text of a moment is no number
(`Json.asNumber?_of_moment`), so equality differs from the order just for two texts of one moment
(`Json.looselyEqual_iff`). There is an order unless one of two numbers is not a number
(`Json.loosely?_eq_none_iff`). So of two values that are not null exactly one of the conditions
equal, larger and less is true, and none in these two cases
(`FilterCondition.holds_exactly_one`). One moment in two time zones is such a case
(`FilterCondition.holds_one_moment`).
-/

namespace Automation

open Text

/-! ## Orders -/

namespace Json

/-- Doubles that are numbers are in the order of their values. -/
theorem orderDoubles?_eq_some_iff {x y : Double} {o : Ordering} :
    orderDoubles? x y = some o ↔
      (x.isNaN = false ∧ y.isNaN = false) ∧ compare x.order y.order = o := by
  unfold orderDoubles? Double.less Double.equal
  cases x.isNaN <;> cases y.isNaN <;> try simp
  rcases Int.lt_trichotomy x.order y.order with hlt | heq | hgt
  · simp [hlt, Int.compare_eq_lt.2 hlt]
  · simp [heq]
  · simp [hgt, Int.not_lt.2 (Int.le_of_lt hgt), Int.compare_eq_gt.2 hgt]

/-- Only what is no number is not comparable with doubles. -/
theorem orderDoubles?_eq_none_iff {x y : Double} :
    orderDoubles? x y = none ↔ x.isNaN = true ∨ y.isNaN = true := by
  rw [Option.eq_none_iff_forall_ne_some]
  simp only [ne_eq, orderDoubles?_eq_some_iff]
  cases x.isNaN <;> cases y.isNaN <;> simp

/-- Doubles are equal if they are in the order of equals. -/
theorem equal_iff {x y : Double} : x.equal y = true ↔ orderDoubles? x y = some .eq := by
  rw [orderDoubles?_eq_some_iff, Int.compare_eq_eq, Double.equal]
  simp

/-- Texts in the order of equals are the same. -/
theorem orderTexts_eq_iff {a b : String} : orderTexts a b = .eq ↔ a = b := by
  unfold orderTexts
  constructor
  · intro h
    rcases before_total a b with hab | hab | hba
    · rw [if_pos hab] at h
      cases h
    · exact hab
    · rw [if_pos hba] at h
      split at h <;> cases h
  · rintro rfl
    rw [before_irrefl]
    rfl

end Json

namespace Moment

/-- Lists of one length in the order of equals are the same. -/
theorem compareFields_eq_iff {as bs : List Int} (h : as.length = bs.length) :
    compareFields as bs = .eq ↔ as = bs := by
  induction as generalizing bs with
  | nil =>
    cases bs with
    | nil => exact ⟨fun _ => rfl, fun _ => rfl⟩
    | cons b bs => cases h
  | cons a as ih =>
    cases bs with
    | nil => cases h
    | cons b bs =>
      rw [List.cons.injEq, ← ih (Nat.succ.inj h), compareFields]
      rcases Int.lt_trichotomy a b with hab | rfl | hba
      · simp [hab, Int.ne_of_lt hab]
      · simp
      · simp [Int.not_lt.2 (Int.le_of_lt hba), hba, Int.ne_of_gt hba]

/-- Moments in the order of equals are the same. -/
theorem order_eq_iff {a b : Moment} : a.order b = .eq ↔ a = b := by
  rw [order, compareFields_eq_iff (by rfl)]
  refine ⟨fun h => ?_, fun h => by rw [h]⟩
  cases a
  cases b
  simpa [fields, Int.natCast_inj] using h

/-! ## Moments are no numbers -/

/-- A field of fixed width is read off as many digits. -/
theorem exists_of_fixed {width n : Nat} {cs rest : List Char} (h : fixed width cs = .ok (n, rest)) :
    ∃ ds, ds.length = width ∧ (∀ c ∈ ds, isDigit c = true) ∧ cs = ds ++ rest := by
  unfold fixed at h
  split at h
  · cases h
  · dsimp only at h
    split at h
    · next hds =>
      cases h
      exact ⟨_, hds.1, List.all_eq_true.1 hds.2, (List.take_append_drop width cs).symm⟩
    · cases h

/-- A mark that is read stands in front of the text. -/
theorem eq_cons_of_mark {c : Char} {cs rest : List Char} (h : mark c cs = .ok rest) :
    cs = c :: rest := by
  unfold mark at h
  split at h
  · cases h
  · split at h
    · next hc =>
      cases h
      rw [hc]
    · cases h

/-- The text of a moment begins with a year of four digits and a minus sign. -/
theorem exists_of_ofStrict? {s : String} {m : Moment} (h : ofStrict? s = some m) :
    ∃ year rest, year.length = 4 ∧ (∀ c ∈ year, isDigit c = true) ∧
      s.toList = year ++ '-' :: rest := by
  unfold ofStrict? at h
  cases hs : ofStrict s with
  | error fault =>
    rw [hs] at h
    cases h
  | ok m =>
    rw [ofStrict] at hs
    obtain ⟨⟨n, cs⟩, hyear, hs⟩ := bind_eq_ok_iff.1 hs
    obtain ⟨rest, hmark, -⟩ := bind_eq_ok_iff.1 hs
    obtain ⟨year, hlength, hdigits, hcs⟩ := exists_of_fixed hyear
    exact ⟨year, rest, hlength, hdigits, by rw [hcs, eq_cons_of_mark hmark]⟩

end Moment

namespace Double

/-- A run of digits ends before the first character that is none. -/
theorem exists_readRun {ds : List Char} (hds : ∀ c ∈ ds, isDigit c = true) {c : Char}
    (hc : isDigit c = false) (n count : Nat) (rest : List Char) :
    ∃ m, readRun n count (ds ++ c :: rest) = (m, count + ds.length, c :: rest) := by
  induction ds generalizing n count with
  | nil =>
    have hnone : digitValue? c = none := by simpa [isDigit] using hc
    exact ⟨n, by rw [List.nil_append, readRun, hnone]; rfl⟩
  | cons d ds ih =>
    obtain ⟨k, hk⟩ := Option.isSome_iff_exists.1 (hds d (List.mem_cons_self ..))
    obtain ⟨m, hm⟩ := ih (fun e he => hds e (List.mem_cons_of_mem _ he)) (10 * n + k) (count + 1)
    refine ⟨m, ?_⟩
    rw [List.cons_append, readRun, hk]
    dsimp only
    rw [hm, List.length_cons, Nat.add_assoc, Nat.add_comm 1]

/-- A digit has no lower case. -/
theorem toLower_of_isDigit {c : Char} (h : isDigit c = true) : c.toLower = c := by
  have hlt : c.toNat < 'A'.toNat := Nat.lt_of_le_of_lt (toNat_of_isDigit h) (by decide)
  have hupper : ¬(c.val ≥ 'A'.val ∧ c.val ≤ 'Z'.val) := fun hrange =>
    absurd (UInt32.le_iff_toNat_le.1 hrange.1) (Nat.not_le.2 hlt)
  exact dif_neg hupper

/-- No word for infinity or for no number starts with a digit. -/
theorem ofWord?_of_isDigit {c : Char} (h : isDigit c = true) (negative : Bool) (cs : List Char) :
    ofWord? negative (c :: cs) = none := by
  have hword {word : String} (hfirst : word.toList.head?.all (!isDigit ·) = true) :
      String.ofList ((c :: cs).map Char.toLower) ≠ word := by
    rintro rfl
    rw [String.toList_ofList, List.map_cons, toLower_of_isDigit h, List.head?_cons,
      Option.all_some, h] at hfirst
    cases hfirst
  rw [ofWord?, if_neg (not_or.2 ⟨hword (by decide), hword (by decide)⟩), if_neg (hword (by decide))]

/-- Digits with a minus sign behind them are no number. -/
theorem ofText?_digits_minus {ds : List Char} (hne : ds ≠ []) (hds : ∀ c ∈ ds, isDigit c = true)
    (rest : List Char) : ofText? (ds ++ '-' :: rest) = none := by
  obtain ⟨c, cs, rfl⟩ := List.exists_cons_of_ne_nil hne
  have hc : isDigit c = true := hds c (List.mem_cons_self ..)
  have hunsigned : ofUnsigned? false (c :: cs ++ '-' :: rest) = none := by
    obtain ⟨m, hm⟩ := exists_readRun hds (by decide : isDigit '-' = false) 0 0 rest
    rw [ofUnsigned?, hm]
    exact (if_neg (Nat.ne_of_gt (Nat.add_pos_right 0 (List.length_pos_iff.2 hne)))).trans rfl
  have hword : ofWord? false (c :: cs ++ '-' :: rest) = none := ofWord?_of_isDigit hc false _
  unfold ofText?
  split
  next negative body hbody =>
    split at hbody
    · next hminus =>
      rw [(List.cons.inj hminus).1] at hc
      cases hc
    · next hplus =>
      rw [(List.cons.inj hplus).1] at hc
      cases hc
    · cases hbody
      rw [hunsigned, hword]
      rfl

end Double

namespace Json

variable {a b : Json}

/-- Both values are or spell numbers in the sense of doubles, and one of these is not a number. -/
def HaveNaN (a b : Json) : Prop :=
  ∃ x ∈ a.asNumber?, ∃ y ∈ b.asNumber?, x.isNaN = true ∨ y.isNaN = true

instance : Decidable (HaveNaN a b) :=
  inferInstanceAs (Decidable (∃ x ∈ a.asNumber?, ∃ y ∈ b.asNumber?,
    x.isNaN = true ∨ y.isNaN = true))

/-- The values are different texts of one moment. -/
def SpellOneMoment (a b : Json) : Prop :=
  ∃ s ∈ a.asString?, ∃ t ∈ b.asString?, s ≠ t ∧
    ∃ m ∈ Moment.ofStrict? s, Moment.ofStrict? t = some m

instance : Decidable (SpellOneMoment a b) :=
  inferInstanceAs (Decidable (∃ s ∈ a.asString?, ∃ t ∈ b.asString?, s ≠ t ∧
    ∃ m ∈ Moment.ofStrict? s, Moment.ofStrict? t = some m))

/-- A text of a moment is no number. -/
theorem asNumber?_of_moment {s : String} {m : Moment} (h : Moment.ofStrict? s = some m) :
    asNumber? (.string s) = none := by
  obtain ⟨year, rest, hlength, hdigits, hs⟩ := Moment.exists_of_ofStrict? h
  have hne : year ≠ [] := by
    rintro rfl
    cases hlength
  have hsolid : Solid (year ++ ['-']) := by
    refine solid_of_any (List.append_ne_nil_of_left_ne_nil hne _) (List.any_eq_false.2 ?_)
    intro c hc
    rcases List.mem_append.1 hc with hc | hc
    · exact Bool.eq_false_iff.1 (isBlank_of_isDigit (hdigits c hc))
    · rw [List.mem_singleton.1 hc]
      decide
  obtain ⟨kept, hkept⟩ := exists_trim_append hsolid rest
  rw [List.append_cons] at hs
  rw [asNumber?, hs, hkept, ← List.append_cons]
  exact Double.ofText?_digits_minus hne hdigits kept

/-! ## Three ways to compare -/

/-- Values are compared as moments if both are texts of one. -/
theorem asMoments?_eq_some_iff {x y : Moment} :
    asMoments? a b = some (x, y) ↔ ∃ s t, a = .string s ∧ b = .string t ∧
      Moment.ofStrict? s = some x ∧ Moment.ofStrict? t = some y := by
  constructor
  · intro h
    unfold asMoments? at h
    split at h
    · next s t =>
      obtain ⟨x', hx, h⟩ := Option.bind_eq_some_iff.1 h
      obtain ⟨y', hy, h⟩ := Option.bind_eq_some_iff.1 h
      cases h
      exact ⟨s, t, rfl, rfl, hx, hy⟩
    · cases h
  · rintro ⟨s, t, rfl, rfl, hx, hy⟩
    rw [asMoments?, hx, hy]
    rfl

/-- Texts spell one moment if they are different texts of the same moment. -/
theorem spellOneMoment_string {s t : String} :
    SpellOneMoment (.string s) (.string t) ↔
      s ≠ t ∧ ∃ m, Moment.ofStrict? s = some m ∧ Moment.ofStrict? t = some m := by
  constructor
  · rintro ⟨_, ⟨⟩, _, ⟨⟩, h⟩
    exact h
  · exact fun h => ⟨s, rfl, t, rfl, h⟩

/-- Spellings of one moment are compared as that moment. -/
theorem asMoments?_of_spellOneMoment (h : SpellOneMoment a b) :
    ∃ m, asMoments? a b = some (m, m) := by
  obtain ⟨s, hs, t, ht, -, m, hx, hy⟩ := h
  cases a <;> cases hs
  cases b <;> cases ht
  exact ⟨m, asMoments?_eq_some_iff.2 ⟨s, t, rfl, rfl, hx, hy⟩⟩

/-- The ways to compare two values, with the order and the equality that they give. -/
inductive Comparison (a b : Json) : Option Ordering → Bool → Prop where
  | numbers {x y : Double} (hx : a.asNumber? = some x) (hy : b.asNumber? = some y) :
    Comparison a b (orderDoubles? x y) (x.equal y)
  | moments {s t : String} {x y : Moment} (ha : a = .string s) (hb : b = .string t)
    (hx : Moment.ofStrict? s = some x) (hy : Moment.ofStrict? t = some y) :
    Comparison a b (some (x.order y)) (s == t)
  | texts (hnumbers : ∀ x y, a.asNumber? = some x → b.asNumber? = some y → False)
    (hmoments : asMoments? a b = none) :
    Comparison a b (some (orderTexts a.display b.display)) (a.display == b.display)

/-- Values other than null compare in one of the ways that there are. -/
theorem comparison (ha : a.isNull = false) (hb : b.isNull = false) :
    Comparison a b (loosely? a b) (looselyEqual a b) := by
  unfold loosely? looselyEqual
  split
  · next x y hx hy => exact .numbers hx hy
  · next hnumbers =>
    split
    · next x y hmoments =>
      obtain ⟨s, t, rfl, rfl, hx, hy⟩ := asMoments?_eq_some_iff.1 hmoments
      exact .moments rfl rfl hx hy
    · next hmoments =>
      rw [ha, hb, if_neg (by decide)]
      exact .texts hnumbers hmoments

/-- Two values are ordered, unless they are numbers one of which is not a number. -/
theorem loosely?_eq_none_iff (ha : a.isNull = false) (hb : b.isNull = false) :
    loosely? a b = none ↔ HaveNaN a b := by
  have h := comparison ha hb
  generalize loosely? a b = order, looselyEqual a b = equality at h ⊢
  cases h with
  | numbers hx hy =>
    rw [orderDoubles?_eq_none_iff, HaveNaN, hx, hy]
    simp
  | moments ha hb hx hy =>
    refine ⟨fun h => (by cases h), fun ⟨x, hnumber, _⟩ => ?_⟩
    rw [ha, asNumber?_of_moment hx] at hnumber
    cases hnumber
  | texts hnumbers hmoments =>
    exact ⟨fun h => (by cases h), fun ⟨x, hx, y, hy, _⟩ => (hnumbers x y hx hy).elim⟩

/-- Two values are equal if neither comes before the other, unless they are different texts of one
moment. -/
theorem looselyEqual_iff (ha : a.isNull = false) (hb : b.isNull = false) :
    looselyEqual a b = true ↔ loosely? a b = some .eq ∧ ¬SpellOneMoment a b := by
  have h := comparison ha hb
  generalize loosely? a b = order, looselyEqual a b = equality at h ⊢
  cases h with
  | numbers hx hy =>
    rw [equal_iff, iff_self_and]
    rintro - ⟨s, hs, -, -, -, m, hm, -⟩
    cases a <;> cases hs
    rw [asNumber?_of_moment hm] at hx
    cases hx
  | @moments s t x y ha hb hx hy =>
    subst ha hb
    rw [beq_iff_eq, Option.some_inj, Moment.order_eq_iff, spellOneMoment_string, hx, hy]
    constructor
    · rintro rfl
      rw [hx] at hy
      exact ⟨Option.some.inj hy, fun h => h.1 rfl⟩
    · rintro ⟨rfl, h⟩
      exact Classical.not_not.1 fun hne => h ⟨hne, x, rfl, rfl⟩
  | texts hnumbers hmoments =>
    rw [beq_iff_eq, Option.some_inj, orderTexts_eq_iff, iff_self_and]
    intro _ hspell
    obtain ⟨m, hm⟩ := asMoments?_of_spellOneMoment hspell
    rw [hm] at hmoments
    cases hmoments

/-- Spellings of one moment are in the order of equals. -/
theorem loosely?_of_spellOneMoment (h : SpellOneMoment a b) : loosely? a b = some .eq := by
  obtain ⟨m, hm⟩ := asMoments?_of_spellOneMoment h
  obtain ⟨s, t, rfl, rfl, hs, ht⟩ := asMoments?_eq_some_iff.1 hm
  rw [loosely?, asNumber?_of_moment hs]
  dsimp only
  rw [hm]
  exact congrArg some (Moment.order_eq_iff.2 rfl)

end Json

/-! ## One condition of three -/

namespace FilterCondition

/-- The condition that asks for an order. -/
def ofOrdering : Ordering → FilterCondition
  | .lt => .lessThan
  | .eq => .equal
  | .gt => .largerThan

variable {field value : Json}

/-- Different orders have different conditions. -/
theorem ofOrdering_inj {o o' : Ordering} (h : ofOrdering o = ofOrdering o') : o = o' := by
  cases o <;> cases o' <;> first | rfl | cases h

/-- The three comparisons are the conditions of the three orders. -/
theorem mem_iff_exists_ofOrdering {c : FilterCondition} :
    c ∈ [equal, largerThan, lessThan] ↔ ∃ o, ofOrdering o = c := by
  constructor
  · cases c
    · exact fun _ => ⟨.eq, rfl⟩
    · exact fun h => absurd h (by decide)
    · exact fun _ => ⟨.gt, rfl⟩
    · exact fun _ => ⟨.lt, rfl⟩
  · rintro ⟨o, rfl⟩
    cases o <;> decide

/-- A comparison holds between values in its order, unless these spell one moment differently. -/
theorem holds_ofOrdering_iff (hfield : field.isNull = false) (hvalue : value.isNull = false)
    (o : Ordering) :
    (ofOrdering o).holds field value = true ↔
      Json.loosely? field value = some o ∧ ¬Json.SpellOneMoment field value := by
  have hordered (ho : o ≠ .eq) : (Json.loosely? field value == some o) = true ↔
      Json.loosely? field value = some o ∧ ¬Json.SpellOneMoment field value := by
    rw [beq_iff_eq, iff_self_and]
    intro h hspell
    rw [Json.loosely?_of_spellOneMoment hspell] at h
    exact ho (Option.some.inj h).symm
  cases o with
  | lt => exact hordered (by decide)
  | eq => exact Json.looselyEqual_iff hfield hvalue
  | gt => exact hordered (by decide)

/-- Of two values that are not null exactly one of the three conditions is true, unless they are
numbers one of which is not a number, or different texts of one moment; then none of them is. -/
theorem holds_exactly_one (hfield : field.isNull = false) (hvalue : value.isNull = false) :
    (¬Json.HaveNaN field value → ¬Json.SpellOneMoment field value →
      ∃ c ∈ [equal, largerThan, lessThan], ∀ d ∈ [equal, largerThan, lessThan],
        d.holds field value = true ↔ d = c) ∧
    (Json.HaveNaN field value ∨ Json.SpellOneMoment field value →
      ∀ c ∈ [equal, largerThan, lessThan], c.holds field value = false) := by
  have hnone := Json.loosely?_eq_none_iff hfield hvalue
  constructor
  · intro hnan hspell
    obtain ⟨o, ho⟩ := Option.ne_none_iff_exists'.1 (mt hnone.1 hnan)
    refine ⟨ofOrdering o, mem_iff_exists_ofOrdering.2 ⟨o, rfl⟩, fun d hd => ?_⟩
    obtain ⟨o', rfl⟩ := mem_iff_exists_ofOrdering.1 hd
    rw [holds_ofOrdering_iff hfield hvalue, ho, Option.some.injEq]
    exact ⟨fun h => congrArg ofOrdering h.1.symm, fun h => ⟨(ofOrdering_inj h).symm, hspell⟩⟩
  · intro h c hc
    obtain ⟨o, rfl⟩ := mem_iff_exists_ofOrdering.1 hc
    rw [← Bool.not_eq_true, holds_ofOrdering_iff hfield hvalue]
    rintro ⟨ho, hspell⟩
    rcases h with hnan | h
    · rw [hnone.2 hnan] at ho
      cases ho
    · exact hspell h

/-- The text of ten is larger than nine, and nothing else. -/
theorem holds_exactly_one_ten :
    ∃ c ∈ [equal, largerThan, lessThan], ∀ d ∈ [equal, largerThan, lessThan],
      d.holds (.string "10") (.int 9) = true ↔ d = c :=
  (holds_exactly_one rfl rfl).1 (by decide +kernel) (by decide +kernel)

/-- One moment in two time zones is neither equal to itself nor larger or less. -/
theorem holds_one_moment :
    ¬∃ c ∈ [equal, largerThan, lessThan],
      c.holds (.string "2026-01-01T00:00:00Z") (.string "2026-01-01T01:00:00+01:00") = true := by
  decide +kernel

end FilterCondition

end Automation
