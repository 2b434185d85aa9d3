/-!
# Results that may be faults

What is computed in several parts, each of which may end in a fault, has a value just if every part
has one (`bind_eq_ok_iff`). Readers and decoders are taken apart with these equivalences.
-/

namespace Automation

section
variable {ε α β : Type} {a : α} {b : β}

/-- What is computed from a value has a value just if both computations have one. -/
theorem bind_eq_ok_iff {x : Except ε α} {f : α → Except ε β} :
    (x >>= f) = .ok b ↔ ∃ a, x = .ok a ∧ f a = .ok b := by
  cases x with
  | error fault =>
    constructor
    · intro h
      cases h
    · rintro ⟨a, h, -⟩
      cases h
  | ok a =>
    constructor
    · exact fun h => ⟨a, rfl, h⟩
    · rintro ⟨_, ⟨⟩, h⟩
      exact h

/-- A value that is given has itself as its value. -/
theorem pure_eq_ok_iff {a' : α} : (pure a' : Except ε α) = .ok a ↔ a = a' := by
  rw [pure, Applicative.toPure, Monad.toApplicative]
  exact ⟨fun h => (Except.ok.inj h).symm, fun h => congrArg _ h.symm⟩

/-- A function of a value has a value just if there is a value to apply it to. -/
theorem map_eq_ok_iff {f : α → β} {x : Except ε α} :
    f <$> x = .ok b ↔ ∃ a, x = .ok a ∧ f a = b := by
  cases x with
  | error fault =>
    constructor
    · intro h
      cases h
    · rintro ⟨a, h, -⟩
      cases h
  | ok a =>
    constructor
    · exact fun h => ⟨a, rfl, Except.ok.inj h⟩
    · rintro ⟨_, ⟨⟩, rfl⟩
      rfl

end

end Automation
