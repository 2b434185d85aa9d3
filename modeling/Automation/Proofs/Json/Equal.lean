import Automation.Json.Basic

/-!
# Equality of values

Two values are equal if they are the same but for the sign of zero in doubles: putting the positive
zero in the place of the negative one everywhere, which changes no other number, makes them the same
(`Json.same_iff`). A value with a NaN in it is equal to none, not even to itself. Whether two values
are one and the same, signs included, is decided constructor by constructor (`Json.beq_iff`).
-/

namespace Automation

/-! ## Doubles -/

namespace Double

variable {a b : Double}

/-- The double, with the positive zero for either zero. -/
def unsigned (d : Double) : Double :=
  if d.isZero then zero false else d

/-- Doubles with one sign and one magnitude are the same. -/
theorem eq_of_magnitude (hsign : a.isNegative = b.isNegative) (h : a.magnitude = b.magnitude) :
    a = b := by
  have hbits : a.bits.toNat = b.bits.toNat := by
    have ha := a.bits.toNat_lt
    have hb := b.bits.toNat_lt
    simp only [isNegative, magnitude, ge_iff_le, decide_eq_decide] at hsign h
    simp only [Nat.pow_eq, Nat.reducePow] at hsign h ha hb
    omega
  cases a
  cases b
  exact congrArg _ (UInt64.toNat_inj.1 hbits)

/-- A double that is no zero shares its place in the order with no other. -/
theorem order_inj (hb : b.magnitude ≠ 0) : a.order = b.order ↔ a = b := by
  refine ⟨fun h => ?_, congrArg order⟩
  unfold order at h
  cases hna : a.isNegative <;> cases hnb : b.isNegative <;> rw [hna, hnb] at h <;>
    simp only [Bool.false_eq_true, if_false, if_true] at h
  · exact eq_of_magnitude (hna.trans hnb.symm) (by omega)
  · omega
  · omega
  · exact eq_of_magnitude (hna.trans hnb.symm) (by omega)

/-- Zeros, and no other doubles, have the place 0 in the order. -/
theorem order_eq_zero_iff : a.order = 0 ↔ a.magnitude = 0 := by
  unfold order
  split <;> omega

/-- Doubles have one place in the order exactly if they are the same but for the sign of zero. -/
theorem order_eq_iff : a.order = b.order ↔ a.unsigned = b.unsigned := by
  have hzero : (zero false).magnitude = 0 := by decide
  unfold unsigned isZero
  by_cases ha : a.magnitude = 0 <;> by_cases hb : b.magnitude = 0
  · simp [ha, hb, order_eq_zero_iff.2]
  · have hne : zero false ≠ b := fun h => hb (h ▸ hzero)
    have horder : (0 : Int) ≠ b.order := fun h => hb (order_eq_zero_iff.1 h.symm)
    simp [ha, hb, order_eq_zero_iff.2 ha, hne, horder]
  · have hne : a ≠ zero false := fun h => ha (h ▸ hzero)
    have horder : a.order ≠ 0 := fun h => ha (order_eq_zero_iff.1 h)
    simp [ha, hb, order_eq_zero_iff.2 hb, hne, horder]
  · simp [ha, hb, order_inj hb]

/-- Putting the positive zero in for a zero makes no NaN and removes none. -/
theorem isNaN_unsigned : a.unsigned.isNaN = a.isNaN := by
  unfold unsigned
  split
  · next h =>
    have hmagnitude : a.magnitude = 0 := by simpa [isZero] using h
    rw [isNaN, isNaN, hmagnitude]
    decide
  · rfl

/-- Doubles are equal exactly if they are the same but for the sign of zero, and no NaN. -/
theorem equal_iff_unsigned : a.equal b = true ↔ a.isNaN = false ∧ a.unsigned = b.unsigned := by
  rw [equal, Bool.and_eq_true, Bool.and_eq_true, beq_iff_eq, order_eq_iff, Bool.not_eq_true',
    Bool.not_eq_true', and_assoc, and_congr_right_iff]
  refine fun ha => ⟨fun h => h.2, fun h => ⟨?_, h⟩⟩
  rw [← isNaN_unsigned, ← h, isNaN_unsigned, ha]

end Double

/-! ## Numbers and values -/

/-- The number, with the positive zero for either zero of a double. -/
def Number.unsigned : Number → Number
  | .int n => .int n
  | .double d => .double d.unsigned

/-- The number is no NaN. -/
def Number.isProper : Number → Bool
  | .int _ => true
  | .double d => !d.isNaN

/-- Numbers of one kind are equal if they are the same but for the sign of zero, and no NaN. -/
theorem Number.same_iff {a b : Number} :
    a.same b = true ↔ a.isProper = true ∧ a.unsigned = b.unsigned := by
  cases a <;> cases b <;> simp [same, isProper, unsigned, Double.equal_iff_unsigned]

namespace Json

mutual

/-- The value, with the positive zero for either zero of a double. -/
def unsigned : Json → Json
  | .number n => .number n.unsigned
  | .array items => .array (unsignedItems items)
  | .object fields => .object (unsignedFields fields)
  | v => v

/-- The items of an array, with the positive zero for either zero of a double. -/
def unsignedItems : List Json → List Json
  | [] => []
  | item :: rest => unsigned item :: unsignedItems rest

/-- The fields of an object, with the positive zero for either zero of a double. -/
def unsignedFields : List (String × Json) → List (String × Json)
  | [] => []
  | (name, value) :: rest => (name, unsigned value) :: unsignedFields rest

end

mutual

/-- There is no NaN in the value. -/
def isProper : Json → Bool
  | .number n => n.isProper
  | .array items => areProper items
  | .object fields => areProperFields fields
  | _ => true

/-- There is no NaN in the items of an array. -/
def areProper : List Json → Bool
  | [] => true
  | item :: rest => isProper item && areProper rest

/-- There is no NaN in the fields of an object. -/
def areProperFields : List (String × Json) → Bool
  | [] => true
  | (_, value) :: rest => isProper value && areProperFields rest

end

/-- Two values are the same but for the sign of zero in doubles, and there is no NaN in them. -/
def Equal (a b : Json) : Prop :=
  a.isProper = true ∧ a.unsigned = b.unsigned

mutual

/-- The comparison of values decides equality but for the sign of zero. -/
theorem same_iff : ∀ a b : Json, a.same b = true ↔ a.Equal b
  | .number a, b => by
    cases b <;> simp [same, Equal, isProper, unsigned, Number.same_iff]
  | .array as, b => by
    cases b with
    | array bs => simpa [same, Equal, isProper, unsigned] using sameItems_iff as bs
    | _ => simp [same, Equal, unsigned]
  | .object as, b => by
    cases b with
    | object bs => simpa [same, Equal, isProper, unsigned] using sameFields_iff as bs
    | _ => simp [same, Equal, unsigned]
  | .null, b | .bool _, b | .string _, b => by
    cases b <;> simp [same, Equal, isProper, unsigned]

/-- The items of two arrays are equal exactly if they are the same but for the sign of zero. -/
theorem sameItems_iff : ∀ as bs : List Json,
    sameItems as bs = true ↔ areProper as = true ∧ unsignedItems as = unsignedItems bs
  | [], bs => by cases bs <;> simp [sameItems, areProper, unsignedItems]
  | a :: as, [] => by simp [sameItems, unsignedItems]
  | a :: as, b :: bs => by
    simp only [sameItems, areProper, unsignedItems, Bool.and_eq_true, List.cons.injEq,
      same_iff a b, sameItems_iff as bs, Equal]
    exact and_and_and_comm

/-- The fields of two objects are equal exactly if they are the same but for the sign of zero. -/
theorem sameFields_iff : ∀ as bs : List (String × Json),
    sameFields as bs = true ↔
      areProperFields as = true ∧ unsignedFields as = unsignedFields bs
  | [], bs => by cases bs <;> simp [sameFields, areProperFields, unsignedFields]
  | (k, a) :: as, [] => by simp [sameFields, unsignedFields]
  | (k, a) :: as, (l, b) :: bs => by
    simp only [sameFields, areProperFields, unsignedFields, Bool.and_eq_true, beq_iff_eq,
      List.cons.injEq, Prod.mk.injEq, same_iff a b, sameFields_iff as bs,
      Equal]
    constructor
    · rintro ⟨⟨hname, ha, hab⟩, has, hrest⟩
      exact ⟨⟨ha, has⟩, ⟨hname, hab⟩, hrest⟩
    · rintro ⟨⟨ha, has⟩, ⟨hname, hab⟩, hrest⟩
      exact ⟨⟨hname, ha, hab⟩, has, hrest⟩

end

/-! ## Deciding what a value is -/

mutual

/-- Values are compared constructor by constructor. -/
def beq : Json → Json → Bool
  | .null, .null => true
  | .bool a, .bool b => a == b
  | .number a, .number b => a == b
  | .string a, .string b => a == b
  | .array as, .array bs => beqItems as bs
  | .object as, .object bs => beqFields as bs
  | _, _ => false

/-- Arrays are compared item by item. -/
def beqItems : List Json → List Json → Bool
  | [], [] => true
  | a :: as, b :: bs => beq a b && beqItems as bs
  | _, _ => false

/-- Objects are compared field by field. -/
def beqFields : List (String × Json) → List (String × Json) → Bool
  | [], [] => true
  | (k, a) :: as, (l, b) :: bs => k == l && beq a b && beqFields as bs
  | _, _ => false

end

mutual

/-- The comparison finds out whether two values are one. -/
theorem beq_iff : ∀ a b : Json, a.beq b = true ↔ a = b
  | .array as, b => by
    cases b <;> simp [beq, beqItems_iff as]
  | .object as, b => by
    cases b <;> simp [beq, beqFields_iff as]
  | .null, b | .bool _, b | .number _, b | .string _, b => by
    cases b <;> simp [beq]

/-- The comparison finds out whether two lists of items are one. -/
theorem beqItems_iff : ∀ as bs : List Json, beqItems as bs = true ↔ as = bs
  | [], bs => by cases bs <;> simp [beqItems]
  | a :: as, bs => by
    cases bs <;> simp [beqItems, beq_iff a, beqItems_iff as]

/-- The comparison finds out whether two lists of fields are one. -/
theorem beqFields_iff : ∀ as bs : List (String × Json), beqFields as bs = true ↔ as = bs
  | [], bs => by cases bs <;> simp [beqFields]
  | (k, a) :: as, [] => by simp [beqFields]
  | (k, a) :: as, (l, b) :: bs => by
    simp [beqFields, beq_iff a, beqFields_iff as]

end

instance : DecidableEq Json := fun a b => decidable_of_iff _ (beq_iff a b)

end Json

end Automation
