/-!
# The order of texts

Texts are ordered by the code points of their characters, the first difference deciding; this is
also the order of their UTF-8 bytes.
-/

namespace Automation.Text

/-- The first list of characters comes strictly before the second. -/
def charsBefore : List Char → List Char → Bool
  | [], [] => false
  | [], _ :: _ => true
  | _ :: _, [] => false
  | a :: as, b :: bs => a.toNat < b.toNat || (a == b && charsBefore as bs)

/-- The first text comes strictly before the second. -/
def before (a b : String) : Bool :=
  charsBefore a.toList b.toList

/-- The first text comes before the second or equals it. -/
def atMost (a b : String) : Bool :=
  !before b a

/-- No text comes before itself. -/
theorem charsBefore_irrefl (a : List Char) : charsBefore a a = false := by
  induction a with
  | nil => rfl
  | cons c cs ih => simp [charsBefore, ih]

/-- What comes before a text comes before all that come after it. -/
theorem charsBefore_trans {a b c : List Char} :
    charsBefore a b = true → charsBefore b c = true → charsBefore a c = true := by
  induction a generalizing b c with
  | nil => cases b <;> cases c <;> simp [charsBefore]
  | cons x xs ih =>
    cases b with
    | nil => simp [charsBefore]
    | cons y ys =>
      cases c with
      | nil => simp [charsBefore]
      | cons z zs =>
        simp only [charsBefore, Bool.or_eq_true, decide_eq_true_eq, Bool.and_eq_true, beq_iff_eq]
        rintro (h | ⟨rfl, h⟩) (h' | ⟨rfl, h'⟩)
        · exact .inl (Nat.lt_trans h h')
        · exact .inl h
        · exact .inl h'
        · exact .inr ⟨rfl, ih h h'⟩

/-- Of two texts one comes before the other, unless they are the same. -/
theorem charsBefore_total (a b : List Char) :
    charsBefore a b = true ∨ a = b ∨ charsBefore b a = true := by
  induction a generalizing b with
  | nil => cases b <;> simp [charsBefore]
  | cons x xs ih =>
    cases b with
    | nil => simp [charsBefore]
    | cons y ys =>
      simp only [charsBefore, Bool.or_eq_true, decide_eq_true_eq, Bool.and_eq_true, beq_iff_eq,
        List.cons.injEq]
      rcases Nat.lt_trichotomy x.toNat y.toNat with h | h | h
      · exact .inl (.inl h)
      · have hxy : x = y := Char.toNat_inj.1 h
        subst hxy
        rcases ih ys with h | h | h
        · exact .inl (.inr ⟨rfl, h⟩)
        · exact .inr (.inl ⟨rfl, h⟩)
        · exact .inr (.inr (.inr ⟨rfl, h⟩))
      · exact .inr (.inr (.inl h))

/-- No string comes before itself. -/
theorem before_irrefl (a : String) : before a a = false :=
  charsBefore_irrefl _

/-- What comes before a string comes before all that come after it. -/
theorem before_trans {a b c : String} (h : before a b = true) (h' : before b c = true) :
    before a c = true :=
  charsBefore_trans h h'

/-- Of two strings one comes before the other, unless they are the same. -/
theorem before_total (a b : String) : before a b = true ∨ a = b ∨ before b a = true := by
  simpa [before, String.toList_inj] using charsBefore_total a.toList b.toList

end Automation.Text
