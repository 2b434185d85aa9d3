import Automation.Proofs.Result
import Automation.Text.Utf8

/-!
# Texts and their bytes

The bytes of a text are its UTF-8 as strings have it (`Utf8.encode_toList`). Decoding gives a text
from exactly its bytes (`Utf8.decode_eq_ok_iff`). That rests on the first character alone: it is
read from bytes just if they begin with its own (`Utf8.decodeFirst_eq_ok_iff`), so no character is
read from a sequence that is too long for it, nor from one of a surrogate.
-/

namespace Automation.Utf8

variable {low high b lead start width : Nat} {rest bytes : List Nat} {c : Char} {cs : List Char}

/-! ## Encoding -/

/-- The code points of characters are those below `U+110000` that are no surrogates. -/
theorem toNat_valid (c : Char) : c.toNat < 0xD800 ∨ 0xDFFF < c.toNat ∧ c.toNat < 0x110000 :=
  c.valid

/-- The bytes of a character are those that strings have for it. -/
theorem encodeChar_eq (c : Char) : encodeChar c = (String.utf8EncodeChar c).map UInt8.toNat := by
  have hvalid := toNat_valid c
  have hval : c.val.toNat = c.toNat := rfl
  unfold encodeChar String.utf8EncodeChar
  simp only [hval]
  split
  · rw [if_pos (show c.toNat ≤ 127 by omega)]
    simp only [List.map_cons, List.map_nil, UInt8.toNat_ofNat', List.cons.injEq, and_true]
    omega
  · rw [if_neg (show ¬c.toNat ≤ 127 by omega)]
    split
    · rw [if_pos (show c.toNat ≤ 2047 by omega)]
      simp only [List.map_cons, List.map_nil, UInt8.toNat_ofNat', List.cons.injEq, and_true]
      omega
    · rw [if_neg (show ¬c.toNat ≤ 2047 by omega)]
      split
      · rw [if_pos (show c.toNat ≤ 65535 by omega)]
        simp only [List.map_cons, List.map_nil, UInt8.toNat_ofNat', List.cons.injEq, and_true]
        omega
      · rw [if_neg (show ¬c.toNat ≤ 65535 by omega)]
        simp only [List.map_cons, List.map_nil, UInt8.toNat_ofNat', List.cons.injEq, and_true]
        omega

/-- The bytes of a string. -/
theorem encode_toList (s : String) : encode s.toList = s.toUTF8.data.toList.map UInt8.toNat := by
  have hbytes : s.toUTF8.data.toList = s.toList.flatMap String.utf8EncodeChar := by
    rw [String.toUTF8, ← String.utf8Encode_toList, List.utf8Encode, List.toList_data_toByteArray]
  rw [hbytes, List.map_flatMap, encode]
  exact congrArg (s.toList.flatMap ·) (funext encodeChar_eq)

/-- What encodes a text are bytes. -/
theorem lt_of_mem_encode (h : b ∈ encode cs) : b < 256 := by
  obtain ⟨c, -, hb⟩ := List.mem_flatMap.1 h
  rw [encodeChar_eq] at hb
  obtain ⟨byte, -, rfl⟩ := List.mem_map.1 hb
  exact byte.toNat_lt

/-! ## The first character -/

/-- The number of a character and its bytes, of which there are no more than the number needs. The
numbers of surrogates have no bytes. -/
inductive Sequence (n : Nat) : List Nat → Prop
  | one (hn : n < 0x80) : Sequence n [n]
  | two {a b : Nat} (ha : 0xC2 ≤ a ∧ a ≤ 0xDF) (hb : 0x80 ≤ b ∧ b ≤ 0xBF)
      (hn : n = (a - 0xC0) * 64 + (b - 0x80)) : Sequence n [a, b]
  | three {a b c : Nat} (ha : 0xE0 ≤ a ∧ a ≤ 0xEF) (hb : 0x80 ≤ b ∧ b ≤ 0xBF)
      (hc : 0x80 ≤ c ∧ c ≤ 0xBF) (hshort : a = 0xE0 → 0xA0 ≤ b) (hsurrogate : a = 0xED → b ≤ 0x9F)
      (hn : n = (a - 0xE0) * 4096 + (b - 0x80) * 64 + (c - 0x80)) : Sequence n [a, b, c]
  | four {a b c d : Nat} (ha : 0xF0 ≤ a ∧ a ≤ 0xF4) (hb : 0x80 ≤ b ∧ b ≤ 0xBF)
      (hc : 0x80 ≤ c ∧ c ≤ 0xBF) (hd : 0x80 ≤ d ∧ d ≤ 0xBF) (hshort : a = 0xF0 → 0x90 ≤ b)
      (hlast : a = 0xF4 → b ≤ 0x8F)
      (hn : n = (a - 0xF0) * 262144 + (b - 0x80) * 4096 + (c - 0x80) * 64 + (d - 0x80)) :
      Sequence n [a, b, c, d]

/-- A valid code point is that of its character. -/
theorem toNat_ofNat {n : Nat} (h : n.isValidChar) : (Char.ofNat n).toNat = n := by
  rw [Char.ofNat, dif_pos h]
  rfl

/-- What a number has for its bytes are those of its character. -/
theorem Sequence.eq_encodeChar {n : Nat} (h : Sequence n bytes) :
    (Char.ofNat n).toNat = n ∧ bytes = encodeChar (Char.ofNat n) := by
  have hvalid : n.isValidChar := by
    unfold Nat.isValidChar
    cases h <;> omega
  refine ⟨toNat_ofNat hvalid, ?_⟩
  unfold encodeChar
  rw [toNat_ofNat hvalid]
  cases h with
  | one hn => rw [if_pos hn]
  | two ha hb hn =>
    rw [if_neg (by omega), if_pos (by omega)]
    simp only [List.cons.injEq, and_true]
    omega
  | three ha hb hc hshort hsurrogate hn =>
    rw [if_neg (by omega), if_neg (by omega), if_pos (by omega)]
    simp only [List.cons.injEq, and_true]
    omega
  | four ha hb hc hd hshort hlast hn =>
    rw [if_neg (by omega), if_neg (by omega), if_neg (by omega)]
    simp only [List.cons.injEq, and_true]
    omega

/-- The bytes of a character are a sequence for its code point. -/
theorem sequence_encodeChar (c : Char) : Sequence c.toNat (encodeChar c) := by
  have hvalid := toNat_valid c
  unfold encodeChar
  dsimp only
  generalize c.toNat = n at hvalid ⊢
  split
  · next hone => exact .one hone
  · split
    · exact .two (by omega) (by omega) (by omega)
    · split
      · exact .three (by omega) (by omega) (by omega) (by omega) (by omega) (by omega)
      · exact .four (by omega) (by omega) (by omega) (by omega) (by omega) (by omega) (by omega)

/-- A byte is within two bounds, both included. -/
theorem isWithin_iff : isWithin low high b = true ↔ low ≤ b ∧ b ≤ high := by
  simp [isWithin]

/-- After the lead of a sequence of three, the bounds of the second byte leave out what two bytes
encode and the surrogates. -/
theorem isWithin_secondOfThree :
    isWithin (secondOfThree lead).1 (secondOfThree lead).2 b = true ↔
      (0x80 ≤ b ∧ b ≤ 0xBF) ∧ (lead = 0xE0 → 0xA0 ≤ b) ∧ (lead = 0xED → b ≤ 0x9F) := by
  rw [isWithin_iff]
  unfold secondOfThree
  simp only [beq_iff_eq]
  split
  · dsimp only
    omega
  · split
    · dsimp only
      omega
    · dsimp only
      omega

/-- After the lead of a sequence of four, the bounds of the second byte leave out what three bytes
encode and what is no code point. -/
theorem isWithin_secondOfFour :
    isWithin (secondOfFour lead).1 (secondOfFour lead).2 b = true ↔
      (0x80 ≤ b ∧ b ≤ 0xBF) ∧ (lead = 0xF0 → 0x90 ≤ b) ∧ (lead = 0xF4 → b ≤ 0x8F) := by
  rw [isWithin_iff]
  unfold secondOfFour
  simp only [beq_iff_eq]
  split
  · dsimp only
    omega
  · split
    · dsimp only
      omega
    · dsimp only
      omega

/-- A character is read from its bytes, whatever follows them. -/
theorem decodeFirst_of_sequence {n : Nat} {tail : List Nat} (h : Sequence n (lead :: rest)) :
    decodeFirst start lead (rest ++ tail) = .ok (Char.ofNat n, (lead :: rest).length) := by
  unfold decodeFirst
  cases h with
  | one hn =>
    rw [if_pos hn]
    rfl
  | two ha hb hn =>
    rw [hn, if_neg (by omega), if_pos (isWithin_iff.2 ha)]
    exact if_pos (isWithin_iff.2 hb)
  | three ha hb hc hshort hsurrogate hn =>
    have hsecond := isWithin_secondOfThree.2 ⟨hb, hshort, hsurrogate⟩
    rw [hn, if_neg (by omega), if_neg (by rw [isWithin_iff]; omega), if_pos (isWithin_iff.2 ha)]
    dsimp only [List.cons_append, List.nil_append]
    rw [if_neg (by simp [hsecond])]
    exact if_pos (isWithin_iff.2 hc)
  | four ha hb hc hd hshort hlast hn =>
    have hsecond := isWithin_secondOfFour.2 ⟨hb, hshort, hlast⟩
    rw [hn, if_neg (by omega), if_neg (by rw [isWithin_iff]; omega),
      if_neg (by rw [isWithin_iff]; omega), if_pos (isWithin_iff.2 ha)]
    dsimp only [List.cons_append, List.nil_append]
    rw [if_neg (by simp [hsecond]), if_neg (by simp [isWithin_iff.2 hc])]
    exact if_pos (isWithin_iff.2 hd)

/-- A character is read from nothing but its bytes. -/
theorem sequence_of_decodeFirst (h : decodeFirst start lead rest = .ok (c, width)) :
    ∃ n pre tail, Char.ofNat n = c ∧ Sequence n (lead :: pre) ∧ rest = pre ++ tail ∧
      pre.length + 1 = width := by
  unfold decodeFirst at h
  split at h
  · next hone =>
    obtain ⟨hchar, hwidth⟩ := Prod.mk.inj (Except.ok.inj h)
    exact ⟨lead, [], rest, hchar, .one hone, rfl, hwidth⟩
  split at h
  · next hlead =>
    split at h
    · cases h
    · next b tail =>
      split at h
      · next hb =>
        obtain ⟨hchar, hwidth⟩ := Prod.mk.inj (Except.ok.inj h)
        exact ⟨_, [b], tail, hchar, .two (isWithin_iff.1 hlead) (isWithin_iff.1 hb) rfl, rfl,
          hwidth⟩
      · cases h
  split at h
  · next hlead =>
    dsimp only at h
    split at h
    · cases h
    · next b rest =>
      split at h
      · cases h
      · next hsecond =>
        rw [Bool.not_eq_true', Bool.not_eq_false, isWithin_secondOfThree] at hsecond
        obtain ⟨hb, hshort, hsurrogate⟩ := hsecond
        split at h
        · cases h
        · next d tail =>
          split at h
          · next hd =>
            obtain ⟨hchar, hwidth⟩ := Prod.mk.inj (Except.ok.inj h)
            exact ⟨_, [b, d], tail, hchar,
              .three (isWithin_iff.1 hlead) hb (isWithin_iff.1 hd) hshort hsurrogate rfl, rfl,
              hwidth⟩
          · cases h
  split at h
  · next hlead =>
    dsimp only at h
    split at h
    · cases h
    · next b rest =>
      split at h
      · cases h
      · next hsecond =>
        rw [Bool.not_eq_true', Bool.not_eq_false, isWithin_secondOfFour] at hsecond
        obtain ⟨hb, hshort, hlast⟩ := hsecond
        split at h
        · cases h
        · next d rest =>
          split at h
          · cases h
          · next hd =>
            rw [Bool.not_eq_true', Bool.not_eq_false, isWithin_iff] at hd
            split at h
            · cases h
            · next e tail =>
              split at h
              · next he =>
                obtain ⟨hchar, hwidth⟩ := Prod.mk.inj (Except.ok.inj h)
                exact ⟨_, [b, d, e], tail, hchar,
                  .four (isWithin_iff.1 hlead) hb hd (isWithin_iff.1 he) hshort hlast rfl, rfl,
                  hwidth⟩
              · cases h
  · cases h

/-- The first character is read from bytes just if they begin with its own. -/
theorem decodeFirst_eq_ok_iff : decodeFirst start lead rest = .ok (c, width) ↔
    ∃ pre tail, encodeChar c = lead :: pre ∧ rest = pre ++ tail ∧ width = pre.length + 1 := by
  constructor
  · intro h
    obtain ⟨n, pre, tail, rfl, hseq, hrest, hwidth⟩ := sequence_of_decodeFirst h
    exact ⟨pre, tail, hseq.eq_encodeChar.2.symm, hrest, hwidth.symm⟩
  · rintro ⟨pre, tail, hbytes, rfl, rfl⟩
    have hseq := sequence_encodeChar c
    rw [hbytes] at hseq
    rw [decodeFirst_of_sequence hseq, Char.ofNat_toNat, List.length_cons]

/-! ## The whole text -/

/-- The other bytes of a character are passed over. -/
theorem decodeFrom_append (start : Nat) (pre tail : List Nat) :
    decodeFrom start pre.length (pre ++ tail) = decodeFrom (start + pre.length) 0 tail := by
  induction pre generalizing start with
  | nil => rfl
  | cons b pre ih =>
    rw [List.length_cons, List.cons_append, decodeFrom, ih]
    congr 1
    omega

/-- A text is decoded from the bytes of its first character, followed by bytes from which the rest
of it is decoded. -/
theorem decodeFrom_cons_eq_ok_iff : decodeFrom start 0 bytes = .ok (c :: cs) ↔
    ∃ tail, bytes = encodeChar c ++ tail ∧
      decodeFrom (start + (encodeChar c).length) 0 tail = .ok cs := by
  constructor
  · intro h
    cases bytes with
    | nil => cases h
    | cons lead rest =>
      rw [decodeFrom, bind_eq_ok_iff] at h
      obtain ⟨⟨c', width⟩, hfirst, h⟩ := h
      obtain ⟨cs', hrest, heq⟩ := bind_eq_ok_iff.1 h
      cases pure_eq_ok_iff.1 heq
      obtain ⟨pre, tail, hbytes, rfl, rfl⟩ := decodeFirst_eq_ok_iff.1 hfirst
      refine ⟨tail, by rw [hbytes]; rfl, ?_⟩
      rw [Nat.add_sub_cancel, decodeFrom_append] at hrest
      rw [hbytes, List.length_cons, Nat.add_comm pre.length, ← Nat.add_assoc]
      exact hrest
  · rintro ⟨tail, rfl, hrest⟩
    cases hbytes : encodeChar c with
    | nil =>
      have hseq := sequence_encodeChar c
      rw [hbytes] at hseq
      cases hseq
    | cons lead pre =>
      have hfirst : decodeFirst start lead (pre ++ tail) = .ok (c, pre.length + 1) :=
        decodeFirst_eq_ok_iff.2 ⟨pre, tail, hbytes, rfl, rfl⟩
      rw [hbytes, List.length_cons, Nat.add_comm pre.length, ← Nat.add_assoc] at hrest
      rw [List.cons_append, decodeFrom]
      refine bind_eq_ok_iff.2 ⟨_, hfirst, bind_eq_ok_iff.2 ⟨cs, ?_, rfl⟩⟩
      rw [Nat.add_sub_cancel, decodeFrom_append]
      exact hrest

/-- Bytes are read as a text exactly if they encode it. -/
theorem decodeFrom_eq_ok_iff : decodeFrom start 0 bytes = .ok cs ↔ bytes = encode cs := by
  induction cs generalizing start bytes with
  | nil =>
    cases bytes with
    | nil => exact iff_of_true rfl rfl
    | cons lead rest =>
      refine iff_of_false (fun h => ?_) (fun h => by cases h)
      rw [decodeFrom, bind_eq_ok_iff] at h
      obtain ⟨⟨c, width⟩, -, h⟩ := h
      obtain ⟨cs, -, heq⟩ := bind_eq_ok_iff.1 h
      cases pure_eq_ok_iff.1 heq
  | cons c cs ih =>
    rw [decodeFrom_cons_eq_ok_iff]
    constructor
    · rintro ⟨tail, rfl, hrest⟩
      rw [ih.1 hrest]
      rfl
    · intro h
      exact ⟨encode cs, h, ih.2 rfl⟩

/-- A text is decoded from its bytes and from no others. -/
theorem decode_eq_ok_iff : decode bytes = .ok cs ↔ bytes = encode cs :=
  decodeFrom_eq_ok_iff

/-- The bytes of a text are not those of another one. -/
theorem encode_inj {cs ds : List Char} (h : encode cs = encode ds) : cs = ds :=
  Except.ok.inj ((decode_eq_ok_iff.2 rfl).symm.trans (decode_eq_ok_iff.2 h))

/-- Numbers below 128 are the bytes of their characters. -/
theorem encode_ascii {bytes : List Nat} (h : ∀ b ∈ bytes, b < 128) :
    encode (bytes.map Char.ofNat) = bytes := by
  induction bytes with
  | nil => rfl
  | cons b bytes ih =>
    obtain ⟨hb, hbytes⟩ := List.forall_mem_cons.1 h
    have hchar : (Char.ofNat b).toNat = b := toNat_ofNat (.inl (by omega))
    have hbyte : encodeChar (Char.ofNat b) = [b] := by
      rw [encodeChar, hchar]
      exact if_pos hb
    rw [List.map_cons, encode, List.flatMap_cons, hbyte]
    exact congrArg (b :: ·) (ih hbytes)

end Automation.Utf8
