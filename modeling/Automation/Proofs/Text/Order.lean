import Automation.Proofs.Text.Utf8
import Automation.Text.Order

/-!
# The order of bytes

Texts are ordered as their UTF-8 bytes are (`Text.before_iff_encode`), since the bytes of characters
are ordered as the characters (`Utf8.encodeChar_lt`): of two characters the larger one has the
larger lead byte, or the same lead byte and a larger byte after it.
-/

namespace Automation

namespace Utf8

/-- A text is encoded character by character. -/
theorem encode_cons (c : Char) (cs : List Char) : encode (c :: cs) = encodeChar c ++ encode cs :=
  List.flatMap_cons

/-- The bytes of a character come before those of a larger one, whatever follows them. -/
theorem encodeChar_lt {c d : Char} (h : c.toNat < d.toNat) (cs ds : List Nat) :
    encodeChar c ++ cs < encodeChar d ++ ds := by
  have hc := sequence_encodeChar c
  have hd := sequence_encodeChar d
  generalize encodeChar c = as at hc ⊢
  generalize encodeChar d = bs at hd ⊢
  -- Each character has one to four bytes, and fewer only if it is smaller.
  cases hc <;> cases hd <;>
    simp only [List.cons_append, List.nil_append, List.cons_lt_cons_iff] <;> omega

end Utf8

namespace Text

open Utf8

/-- A text that comes before another one also does so byte by byte. -/
theorem encode_lt_of_charsBefore {as bs : List Char} (h : charsBefore as bs = true) :
    encode as < encode bs := by
  induction as generalizing bs with
  | nil =>
    cases bs with
    | nil => cases h
    | cons b bs =>
      have hb := sequence_encodeChar b
      rw [encode_cons]
      generalize encodeChar b = bytes at hb
      cases hb <;> exact List.nil_lt_cons _ _
  | cons a as ih =>
    cases bs with
    | nil => cases h
    | cons b bs =>
      rw [charsBefore, Bool.or_eq_true, decide_eq_true_eq, Bool.and_eq_true, beq_iff_eq] at h
      rw [encode_cons, encode_cons]
      rcases h with hlt | ⟨rfl, hrest⟩
      · exact encodeChar_lt hlt _ _
      · exact List.append_left_lt (ih hrest)

/-- One text comes before another if its bytes do. -/
theorem before_iff_encode {a b : String} :
    before a b = true ↔ encode a.toList < encode b.toList := by
  refine ⟨encode_lt_of_charsBefore, fun h => ?_⟩
  rcases before_total a b with hab | rfl | hba
  · exact hab
  · exact absurd h (List.lt_irrefl _)
  · exact absurd (List.lt_trans h (encode_lt_of_charsBefore hba)) (List.lt_irrefl _)

end Text

end Automation
