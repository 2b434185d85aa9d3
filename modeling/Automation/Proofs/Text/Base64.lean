import Mathlib.Algebra.Group.Nat.Defs
import Automation.Proofs.Result
import Automation.Text.Base64

/-!
# Base64 and bytes

Decoding succeeds on what encoding writes of bytes and on nothing else
(`Base64.decode_eq_ok_iff`). What encoding writes is the one text that has the bytes in the format
(`Base64.spells_iff`), which is put without it: as an alphabet and a rule for the bits and the
padding (`Base64.Spells`).
-/

namespace Automation.Base64

variable {offset b v : Nat} {vs bytes text group : List Nat}

/-! ## Symbols -/

/-- The symbol of a value is read as the value. -/
theorem value?_symbol (h : v < 64) : value? (symbol v) = some v := by
  revert v
  decide

/-- What is read as a value is the symbol of that value. -/
theorem eq_symbol_of_value? (h : value? b = some v) : v < 64 ∧ b = symbol v := by
  unfold value? at h
  split at h
  · cases h
    exact ⟨by omega, by rw [symbol, if_pos (by omega)]; omega⟩
  split at h
  · cases h
    exact ⟨by omega, by rw [symbol, if_neg (by omega), if_pos (by omega)]; omega⟩
  split at h
  · cases h
    refine ⟨by omega, ?_⟩
    rw [symbol, if_neg (by omega), if_neg (by omega), if_pos (by omega)]
    omega
  split at h
  · next hb =>
    cases h
    exact ⟨by decide, hb⟩
  split at h
  · next hb =>
    cases h
    exact ⟨by decide, hb⟩
  · cases h

/-- No symbol is the character that fills up the last group. -/
theorem symbol_ne_pad (h : v < 64) : symbol v ≠ pad := by
  revert v
  decide

/-- Bytes have numbers just if they are the symbols of these. -/
theorem values_eq_ok_iff {bs : List Nat} :
    values offset bs = .ok vs ↔ bs = vs.map symbol ∧ ∀ v ∈ vs, v < 64 := by
  induction bs generalizing offset vs with
  | nil =>
    cases vs with
    | nil => exact iff_of_true rfl ⟨rfl, fun _ h => nomatch h⟩
    | cons v vs => exact iff_of_false (fun h => by cases h) (fun h => by cases h.1)
  | cons b bs ih =>
    rw [values]
    constructor
    · intro h
      split at h
      · next v hv =>
        obtain ⟨rest, hrest, rfl⟩ := map_eq_ok_iff.1 h
        obtain ⟨hless, rfl⟩ := eq_symbol_of_value? hv
        obtain ⟨rfl, hall⟩ := ih.1 hrest
        exact ⟨rfl, List.forall_mem_cons.2 ⟨hless, hall⟩⟩
      · cases h
    · rintro ⟨hbs, hall⟩
      cases vs with
      | nil => cases hbs
      | cons v vs =>
        obtain ⟨rfl, rfl⟩ := List.cons.inj hbs
        obtain ⟨hless, hall⟩ := List.forall_mem_cons.1 hall
        rw [value?_symbol hless]
        exact map_eq_ok_iff.2 ⟨vs, ih.2 ⟨rfl, hall⟩, rfl⟩

/-- The symbols lie between the codes of `+` and `z`. -/
theorem symbol_bounds (v : Nat) : 43 ≤ symbol v ∧ symbol v ≤ 122 := by
  unfold symbol
  split
  · omega
  split
  · omega
  split
  · omega
  split <;> decide

/-- The symbols are characters of ASCII. -/
theorem symbol_lt (v : Nat) : symbol v < 128 :=
  Nat.lt_of_le_of_lt (symbol_bounds v).2 (by decide)

/-! ## Groups -/

/-- The numbers of a last group and its bytes, which leave no bit out that is set. -/
inductive Last : List Nat → List Nat → Prop
  | one {v w : Nat} (h : w % 16 = 0) : Last [v, w] [v * 4 + w / 16]
  | two {v w x : Nat} (h : x % 4 = 0) : Last [v, w, x] [v * 4 + w / 16, w % 16 * 16 + x / 4]
  | three {v w x y : Nat} :
      Last [v, w, x, y] [v * 4 + w / 16, w % 16 * 16 + x / 4, x % 4 * 64 + y]

/-- What is read as a last group consists of symbols and padding in place of those that are missing,
and its bytes leave nothing out. -/
theorem last_of_decodeLast (h : decodeLast offset group = .ok bytes) :
    ∃ vs, (∀ v ∈ vs, v < 64) ∧ Last vs bytes ∧
      group = vs.map symbol ++ List.replicate (4 - vs.length) pad := by
  unfold decodeLast at h
  dsimp only at h
  obtain ⟨vs, hvs, h⟩ := bind_eq_ok_iff.1 h
  split at h
  · cases h
  next hpadding =>
  split at h
  · cases h
  next htwo =>
  split at h
  · cases h
  next hfour =>
  obtain ⟨hsymbols, hless⟩ := values_eq_ok_iff.1 hvs
  have hgroup : group = vs.map symbol ++ group.dropWhile (· != pad) := by
    rw [← hsymbols, List.takeWhile_append_dropWhile]
  have hlength : vs.length + (group.dropWhile (· != pad)).length = 4 := by
    have hcount := congrArg List.length hgroup
    rw [List.length_append, List.length_map] at hcount
    omega
  have hpads : group.dropWhile (· != pad) = List.replicate (4 - vs.length) pad := by
    refine List.eq_replicate_iff.2 ⟨by omega, fun p hp => ?_⟩
    by_cases heq : p = pad
    · exact heq
    · exact absurd ⟨List.ne_nil_of_mem hp, .inr (List.any_eq_true.2 ⟨p, hp, bne_iff_ne.2 heq⟩)⟩
        hpadding
  rw [hpads] at hgroup
  refine ⟨vs, hless, ?_, hgroup⟩
  split at h
  · split at h
    · next hzero =>
      cases pure_eq_ok_iff.1 h
      exact .one hzero
    · cases h
  · split at h
    · next hzero =>
      cases pure_eq_ok_iff.1 h
      exact .two hzero
    · cases h
  · cases pure_eq_ok_iff.1 h
    exact .three
  · next hone htwo' hthree =>
    -- No other number of symbols is left.
    rw [hsymbols, List.length_map] at htwo
    match vs, htwo, hlength with
    | [], htwo, _ => exact absurd htwo (by decide)
    | [v], htwo, _ => exact absurd htwo (by simp)
    | [v, w], _, _ => exact absurd rfl (hone v w)
    | [v, w, x], _, _ => exact absurd rfl (htwo' v w x)
    | [v, w, x, y], _, _ => exact absurd rfl (hthree v w x y)
    | v :: w :: x :: y :: z :: vs, _, hlength => simp only [List.length_cons] at hlength; omega

/-- The symbols of a last group with padding in place of those that are missing are read as its
bytes. -/
theorem Last.decodeLast_eq (h : Last vs bytes) (hless : ∀ v ∈ vs, v < 64) :
    decodeLast offset (vs.map symbol ++ List.replicate (4 - vs.length) pad) = .ok bytes := by
  have hvalues : values offset (vs.map symbol) = .ok vs := values_eq_ok_iff.2 ⟨rfl, hless⟩
  have hsymbols : ∀ b ∈ vs.map symbol, (b != pad) = true := by
    intro b hb
    obtain ⟨v, hv, rfl⟩ := List.mem_map.1 hb
    exact bne_iff_ne.2 (symbol_ne_pad (hless v hv))
  have htake : (vs.map symbol ++ List.replicate (4 - vs.length) pad).takeWhile (· != pad) =
      vs.map symbol := by
    rw [List.takeWhile_append_of_pos hsymbols, List.takeWhile_replicate]
    simp
  have hdrop : (vs.map symbol ++ List.replicate (4 - vs.length) pad).dropWhile (· != pad) =
      List.replicate (4 - vs.length) pad := by
    rw [List.dropWhile_append_of_pos hsymbols, List.dropWhile_replicate]
    simp
  unfold decodeLast
  rw [htake, hdrop]
  dsimp only
  refine bind_eq_ok_iff.2 ⟨vs, hvalues, ?_⟩
  cases h with
  | one hzero => exact if_pos hzero
  | two hzero => exact if_pos hzero
  | three => rfl

/-- Four symbols in front of others are read as three bytes. -/
theorem decodeFrom_four_eq_ok_iff {a b c d e : Nat} {rest : List Nat} :
    decodeFrom offset (a :: b :: c :: d :: e :: rest) = .ok bytes ↔
      ∃ v w x y more, (v < 64 ∧ w < 64 ∧ x < 64 ∧ y < 64) ∧
        [a, b, c, d] = [symbol v, symbol w, symbol x, symbol y] ∧
        decodeFrom (offset + 4) (e :: rest) = .ok more ∧
        bytes = (v * 4 + w / 16) :: (w % 16 * 16 + x / 4) :: (x % 4 * 64 + y) :: more := by
  rw [decodeFrom]
  dsimp only
  constructor
  · intro h
    obtain ⟨vs, hvs, h⟩ := bind_eq_ok_iff.1 h
    obtain ⟨hsymbols, hless⟩ := values_eq_ok_iff.1 hvs
    have hlength := congrArg List.length hsymbols
    rw [List.length_map] at hlength
    match vs, hlength with
    | [v, w, x, y], _ =>
      obtain ⟨head, hhead, h⟩ := bind_eq_ok_iff.1 h
      obtain ⟨more, hmore, h⟩ := bind_eq_ok_iff.1 h
      cases pure_eq_ok_iff.1 hhead
      cases pure_eq_ok_iff.1 h
      exact ⟨v, w, x, y, more, by simpa using hless, hsymbols, hmore, rfl⟩
  · rintro ⟨v, w, x, y, more, hless, hsymbols, hmore, rfl⟩
    have hvs : values offset [a, b, c, d] = .ok [v, w, x, y] :=
      values_eq_ok_iff.2 ⟨hsymbols, by simpa using hless⟩
    exact bind_eq_ok_iff.2 ⟨_, hvs, bind_eq_ok_iff.2 ⟨_, rfl, bind_eq_ok_iff.2 ⟨more, hmore, rfl⟩⟩⟩

/-! ## Groups of bytes -/

section
variable {v w x y : Nat}

/-- Three bytes are written as the four symbols from which they are read. -/
theorem encode_group (hw : w < 64) (hx : x < 64) (hy : y < 64) (rest : List Nat) :
    encode ((v * 4 + w / 16) :: (w % 16 * 16 + x / 4) :: (x % 4 * 64 + y) :: rest) =
      symbol v :: symbol w :: symbol x :: symbol y :: encode rest := by
  have hfirst : (v * 4 + w / 16) / 4 = v := by omega
  have hsecond : (v * 4 + w / 16) % 4 * 16 + (w % 16 * 16 + x / 4) / 16 = w := by omega
  have hthird : (w % 16 * 16 + x / 4) % 16 * 4 + (x % 4 * 64 + y) / 64 = x := by omega
  have hfourth : (x % 4 * 64 + y) % 64 = y := by omega
  rw [encode, hfirst, hsecond, hthird, hfourth]

/-- Three bytes are four values: the bits of the bytes are dealt out anew, six to a value. -/
theorem exists_group {a b c : Nat} (ha : a < 256) (hb : b < 256) (hc : c < 256) :
    ∃ v w x y, (v < 64 ∧ w < 64 ∧ x < 64 ∧ y < 64) ∧
      a = v * 4 + w / 16 ∧ b = w % 16 * 16 + x / 4 ∧ c = x % 4 * 64 + y :=
  ⟨a / 4, a % 4 * 16 + b / 16, b % 16 * 4 + c / 64, c % 64, by omega, by omega, by omega, by omega⟩

/-- What the last group says is written as that group. -/
theorem Last.encode_eq (h : Last vs bytes) (hless : ∀ v ∈ vs, v < 64) :
    encode bytes = vs.map symbol ++ List.replicate (4 - vs.length) pad := by
  cases h with
  | @one v w hzero =>
    simp only [List.forall_mem_cons] at hless
    have hfirst : (v * 4 + w / 16) / 4 = v := by omega
    have hsecond : (v * 4 + w / 16) % 4 * 16 = w := by omega
    rw [encode, hfirst, hsecond]
    rfl
  | @two v w x hzero =>
    simp only [List.forall_mem_cons] at hless
    have hfirst : (v * 4 + w / 16) / 4 = v := by omega
    have hsecond : (v * 4 + w / 16) % 4 * 16 + (w % 16 * 16 + x / 4) / 16 = w := by omega
    have hthird : (w % 16 * 16 + x / 4) % 16 * 4 = x := by omega
    rw [encode, hfirst, hsecond, hthird]
    rfl
  | three =>
    simp only [List.forall_mem_cons] at hless
    obtain ⟨-, hw, hx, hy, -⟩ := hless
    exact encode_group hw hx hy []

/-- The bytes of a last group are bytes if its values are values. -/
theorem Last.lt (h : Last vs bytes) (hless : ∀ v ∈ vs, v < 64) : ∀ b ∈ bytes, b < 256 := by
  cases h with
  | one | two | three =>
    simp only [List.forall_mem_cons] at hless ⊢
    simp
    omega

/-- Some bytes are what a last group says, if they are not more than three. -/
theorem exists_last (hbytes : ∀ b ∈ bytes, b < 256) (hne : bytes ≠ [])
    (hlength : bytes.length ≤ 3) :
    ∃ vs, (∀ v ∈ vs, v < 64) ∧ Last vs bytes := by
  match bytes, hbytes, hne, hlength with
  | [a], hbytes, _, _ =>
    simp only [List.forall_mem_cons] at hbytes
    refine ⟨[a / 4, a % 4 * 16], by simp; omega, ?_⟩
    have hlast := Last.one (v := a / 4) (w := a % 4 * 16) (by omega)
    have ha : a / 4 * 4 + a % 4 * 16 / 16 = a := by omega
    rwa [ha] at hlast
  | [a, b], hbytes, _, _ =>
    simp only [List.forall_mem_cons] at hbytes
    refine ⟨[a / 4, a % 4 * 16 + b / 16, b % 16 * 4], by simp; omega, ?_⟩
    have hlast := Last.two (v := a / 4) (w := a % 4 * 16 + b / 16) (x := b % 16 * 4) (by omega)
    have ha : a / 4 * 4 + (a % 4 * 16 + b / 16) / 16 = a := by omega
    have hb : (a % 4 * 16 + b / 16) % 16 * 16 + b % 16 * 4 / 4 = b := by omega
    rwa [ha, hb] at hlast
  | [a, b, c], hbytes, _, _ =>
    simp only [List.forall_mem_cons] at hbytes
    obtain ⟨ha, hb, hc, -⟩ := hbytes
    obtain ⟨v, w, x, y, hless, rfl, rfl, rfl⟩ := exists_group ha hb hc
    exact ⟨[v, w, x, y], by simpa using hless, .three⟩

end

/-! ## Texts -/

/-- Only no bytes at all are encoded by no symbols. -/
theorem encode_eq_nil_iff : encode bytes = [] ↔ bytes = [] := by
  fun_cases encode bytes <;> simp

/-- Whole groups are written. -/
theorem encode_length_mod : (encode bytes).length % 4 = 0 := by
  induction bytes using encode.induct with
  | case1 | case2 | case3 => simp [encode]
  | case4 a b c rest ih =>
    simp only [encode, List.length_cons]
    omega

/-- What is written is ASCII. -/
theorem encode_lt : ∀ b ∈ encode bytes, b < 128 := by
  induction bytes using encode.induct with
  | case1 | case2 | case3 => simp [encode, symbol_lt, pad]
  | case4 a b c rest ih => simpa [encode, symbol_lt] using ih

/-- Only what is written of bytes is read as these bytes. -/
theorem encode_of_decodeFrom (h : decodeFrom offset text = .ok bytes) :
    text = encode bytes ∧ ∀ b ∈ bytes, b < 256 := by
  induction offset, text using decodeFrom.induct generalizing bytes with
  | case1 offset a b c d e rest ih =>
    obtain ⟨v, w, x, y, more, ⟨hv, hw, hx, hy⟩, hsymbols, hmore, rfl⟩ :=
      decodeFrom_four_eq_ok_iff.1 h
    obtain ⟨htext, hless⟩ := ih hmore
    simp only [List.cons.injEq, and_true] at hsymbols
    obtain ⟨rfl, rfl, rfl, rfl⟩ := hsymbols
    refine ⟨by rw [encode_group hw hx hy, htext], ?_⟩
    simp only [List.forall_mem_cons]
    exact ⟨by omega, by omega, by omega, hless⟩
  | case2 offset =>
    cases h
    exact ⟨rfl, fun _ hb => nomatch hb⟩
  | case3 offset group hmore hempty =>
    rw [decodeFrom] at h
    · obtain ⟨vs, hless, hlast, rfl⟩ := last_of_decodeLast h
      exact ⟨(hlast.encode_eq hless).symm, hlast.lt hless⟩
    · exact hmore
    · exact hempty

/-- What is written of at most three bytes is read as these bytes. -/
theorem decodeFrom_encode_last (hbytes : ∀ b ∈ bytes, b < 256) (hne : bytes ≠ [])
    (hlength : bytes.length ≤ 3) : decodeFrom offset (encode bytes) = .ok bytes := by
  obtain ⟨vs, hless, hlast⟩ := exists_last hbytes hne hlength
  have hread :
      decodeLast offset (vs.map symbol ++ List.replicate (4 - vs.length) pad) = .ok bytes :=
    hlast.decodeLast_eq hless
  rw [hlast.encode_eq hless]
  cases hlast with
  | one | two | three => exact hread

/-- What is written of bytes is read as these bytes. -/
theorem decodeFrom_encode (hbytes : ∀ b ∈ bytes, b < 256) :
    decodeFrom offset (encode bytes) = .ok bytes := by
  induction bytes using encode.induct generalizing offset with
  | case1 => rfl
  | case2 a => exact decodeFrom_encode_last hbytes (List.cons_ne_nil _ _) (by simp)
  | case3 a b => exact decodeFrom_encode_last hbytes (List.cons_ne_nil _ _) (by simp)
  | case4 a b c rest ih =>
    by_cases hrest : rest = []
    · subst hrest
      exact decodeFrom_encode_last hbytes (List.cons_ne_nil _ _) (by simp)
    · simp only [List.forall_mem_cons] at hbytes
      obtain ⟨ha, hb, hc, hbytes⟩ := hbytes
      obtain ⟨v, w, x, y, hless, rfl, rfl, rfl⟩ := exists_group ha hb hc
      obtain ⟨e, more, hmore⟩ := List.exists_cons_of_ne_nil (mt encode_eq_nil_iff.1 hrest)
      rw [encode_group hless.2.1 hless.2.2.1 hless.2.2.2, hmore]
      have hread : decodeFrom (offset + 4) (e :: more) = .ok rest := hmore ▸ ih hbytes
      exact decodeFrom_four_eq_ok_iff.2 ⟨v, w, x, y, rest, hless, rfl, hread, rfl⟩

/-- Decoding reads what encoding writes of bytes, and nothing else. -/
theorem decode_eq_ok_iff :
    decode text = .ok bytes ↔ text = encode bytes ∧ ∀ b ∈ bytes, b < 256 := by
  unfold decode
  constructor
  · intro h
    split at h
    · split at h
      · cases h
      · exact encode_of_decodeFrom h
    · next hlast =>
      cases h
      exact ⟨List.getLast?_eq_none_iff.1 hlast, fun _ hb => nomatch hb⟩
  · rintro ⟨rfl, hbytes⟩
    split
    · rw [if_neg (fun hfault => absurd hfault.1 (by rw [encode_length_mod]; decide))]
      exact decodeFrom_encode hbytes
    · next hlast =>
      rw [encode_eq_nil_iff.1 (List.getLast?_eq_none_iff.1 hlast)]

/-! ## The format -/

/-- The symbols in the order of their numbers. -/
def alphabet : List Char :=
  "ABCDEFGHIJKLMNOPQRSTUVWXYZabcdefghijklmnopqrstuvwxyz0123456789+/".toList

/-- The last `width` bits of a number, the highest first. -/
def bits : Nat → Nat → List Bool
  | 0, _ => []
  | width + 1, n => n.testBit width :: bits width n

/-- The format, as its definition puts it: the bits of the bytes, filled up with as few zeros as
make groups of six, are those of the numbers of the symbols, and as few `=` follow the symbols as
make the number of characters a multiple of four. -/
def Spells (bytes : List Nat) (text : List Char) : Prop :=
  ∃ (numbers : List Nat) (zeros pads : Nat),
    text.map some = numbers.map (alphabet[·]?) ++ List.replicate pads (some '=') ∧
    numbers.flatMap (bits 6) = bytes.flatMap (bits 8) ++ List.replicate zeros false ∧
    zeros < 6 ∧ pads < 4 ∧ text.length % 4 = 0

/-- The alphabet lists the symbols of the values in order. -/
theorem alphabet_getElem? (h : v < 64) : alphabet[v]? = some (Char.ofNat (symbol v)) := by
  revert v
  decide

section
variable {width k x y : Nat}

/-- All bits of zero are off. -/
theorem bits_zero : bits width 0 = List.replicate width false := by
  induction width with
  | zero => rfl
  | succ width ih => rw [bits, ih, Nat.zero_testBit, List.replicate_succ]

/-- The lower bits of a number do not depend on those above them. -/
theorem bits_low (hy : y < 2 ^ k) (hwidth : width ≤ k) :
    bits width (x * 2 ^ k + y) = bits width y := by
  induction width with
  | zero => rfl
  | succ width ih =>
    rw [bits, bits, Nat.mul_comm, Nat.testBit_two_pow_mul_add _ hy, if_pos (by omega), Nat.mul_comm,
      ih (by omega)]

/-- The bits of a number are those of its upper part, and then those of its lower part. -/
theorem bits_append (hy : y < 2 ^ k) :
    bits (width + k) (x * 2 ^ k + y) = bits width x ++ bits k y := by
  induction width with
  | zero => rw [Nat.zero_add, bits_low hy (Nat.le_refl k)]; rfl
  | succ width ih =>
    rw [Nat.succ_add, bits, bits, Nat.mul_comm, Nat.testBit_two_pow_mul_add _ hy,
      if_neg (by omega), Nat.add_sub_cancel, Nat.mul_comm, ih, List.cons_append]

/-- A number is cut between two bits by dividing it. -/
theorem bits_div_mod : bits (width + k) x = bits width (x / 2 ^ k) ++ bits k (x % 2 ^ k) := by
  rw [← bits_append (Nat.mod_lt x (Nat.two_pow_pos k)), Nat.div_add_mod']

end

section
variable {v w x y : Nat}

/-- The second value of a group has two bits of the first byte and four of the second. -/
theorem bits_second (w : Nat) : bits 6 w = bits 2 (w / 16) ++ bits 4 (w % 16) :=
  bits_div_mod (k := 4)

/-- The third value of a group has four bits of the second byte and two of the third. -/
theorem bits_third (x : Nat) : bits 6 x = bits 4 (x / 4) ++ bits 2 (x % 4) :=
  bits_div_mod (k := 2)

/-- The first byte of a group has the bits of the first value and two of the second. -/
theorem bits_first_byte (hw : w < 64) : bits 8 (v * 4 + w / 16) = bits 6 v ++ bits 2 (w / 16) :=
  bits_append (k := 2) (by omega)

/-- The second byte of a group has four bits of the second value and four of the third. -/
theorem bits_second_byte (hx : x < 64) :
    bits 8 (w % 16 * 16 + x / 4) = bits 4 (w % 16) ++ bits 4 (x / 4) :=
  bits_append (k := 4) (by omega)

/-- The third byte of a group has two bits of the third value and those of the fourth. -/
theorem bits_third_byte (hy : y < 64) : bits 8 (x % 4 * 64 + y) = bits 2 (x % 4) ++ bits 6 y :=
  bits_append (k := 6) hy

/-- The bits of four numbers are those of three bytes. -/
theorem bits_group (hw : w < 64) (hx : x < 64) (hy : y < 64) :
    bits 6 v ++ bits 6 w ++ bits 6 x ++ bits 6 y =
      bits 8 (v * 4 + w / 16) ++ bits 8 (w % 16 * 16 + x / 4) ++ bits 8 (x % 4 * 64 + y) := by
  rw [bits_second w, bits_third x, bits_first_byte hw, bits_second_byte hx, bits_third_byte hy]
  simp only [List.append_assoc]

end

/-- The symbols of values are where the alphabet lists the values. -/
theorem map_symbol (hless : ∀ v ∈ vs, v < 64) :
    ((vs.map symbol).map Char.ofNat).map some = vs.map (alphabet[·]?) := by
  rw [List.map_map, List.map_map]
  exact List.map_congr_left fun v hv => (alphabet_getElem? (hless v hv)).symm

/-- The bits of a last group are those of its bytes and the zeros that fill up its last number. -/
theorem Last.bits_eq (h : Last vs bytes) (hless : ∀ v ∈ vs, v < 64) :
    ∃ zeros < 6, vs.flatMap (bits 6) = bytes.flatMap (bits 8) ++ List.replicate zeros false := by
  cases h with
  | @one v w hzero =>
    simp only [List.forall_mem_cons] at hless
    obtain ⟨-, hw, -⟩ := hless
    exact ⟨4, by decide, by simp [bits_second w, bits_first_byte hw, hzero, bits_zero]⟩
  | @two v w x hzero =>
    simp only [List.forall_mem_cons] at hless
    obtain ⟨-, hw, hx, -⟩ := hless
    refine ⟨2, by decide, ?_⟩
    simp [bits_second w, bits_third x, bits_first_byte hw, bits_second_byte hx, hzero, bits_zero]
  | three =>
    simp only [List.forall_mem_cons] at hless
    obtain ⟨-, hw, hx, hy, -⟩ := hless
    exact ⟨0, by decide, by simpa using bits_group hw hx hy⟩

/-- A last group is written in the format. -/
theorem Last.spells (h : Last vs bytes) (hless : ∀ v ∈ vs, v < 64) :
    Spells bytes ((encode bytes).map Char.ofNat) := by
  obtain ⟨zeros, hzeros, hbits⟩ := h.bits_eq hless
  refine ⟨vs, zeros, 4 - vs.length, ?_, hbits, hzeros, ?_, ?_⟩
  · rw [h.encode_eq hless, List.map_append, List.map_append, map_symbol hless, List.map_replicate,
      List.map_replicate]
    rfl
  · cases h with
    | one | two | three => simp
  · rw [List.length_map]
    exact encode_length_mod

/-- Encoding writes bytes in the format. -/
theorem spells_encode (hbytes : ∀ b ∈ bytes, b < 256) :
    Spells bytes ((encode bytes).map Char.ofNat) := by
  induction bytes using encode.induct with
  | case1 => exact ⟨[], 0, 0, rfl, rfl, by decide, by decide, rfl⟩
  | case2 a =>
    obtain ⟨vs, hless, hlast⟩ := exists_last hbytes (List.cons_ne_nil _ _) (by simp)
    exact hlast.spells hless
  | case3 a b =>
    obtain ⟨vs, hless, hlast⟩ := exists_last hbytes (List.cons_ne_nil _ _) (by simp)
    exact hlast.spells hless
  | case4 a b c rest ih =>
    simp only [List.forall_mem_cons] at hbytes
    obtain ⟨ha, hb, hc, hbytes⟩ := hbytes
    obtain ⟨v, w, x, y, ⟨hv, hw, hx, hy⟩, rfl, rfl, rfl⟩ := exists_group ha hb hc
    obtain ⟨numbers, zeros, pads, htext, hbits, hzeros, hpads, hlength⟩ := ih hbytes
    refine ⟨v :: w :: x :: y :: numbers, zeros, pads, ?_, ?_, hzeros, hpads, ?_⟩
    · rw [encode_group hw hx hy]
      simp only [List.map_cons, htext, alphabet_getElem? hv, alphabet_getElem? hw,
        alphabet_getElem? hx, alphabet_getElem? hy, List.cons_append]
    · have hgroup := bits_group (v := v) hw hx hy
      calc (v :: w :: x :: y :: numbers).flatMap (bits 6)
          = (bits 6 v ++ bits 6 w ++ bits 6 x ++ bits 6 y) ++ numbers.flatMap (bits 6) := by
            simp only [List.flatMap_cons, List.append_assoc]
        _ = _ := by
            rw [hgroup, hbits]
            simp only [List.flatMap_cons, List.append_assoc]
    · rw [List.length_map] at hlength ⊢
      exact encode_length_mod

/-- The alphabet has no more than 64 symbols. -/
theorem lt_of_alphabet {c : Char} (h : some c = alphabet[v]?) : v < 64 :=
  (List.getElem?_eq_some_iff.1 h.symm).1

/-- Numbers of the same bits are the same. -/
theorem eq_of_bits_eq {width x y : Nat} (hx : x < 2 ^ width) (hy : y < 2 ^ width)
    (h : bits width x = bits width y) : x = y := by
  have hmod (width : Nat) (h : bits width x = bits width y) : x % 2 ^ width = y % 2 ^ width := by
    induction width with
    | zero => rw [Nat.pow_zero, Nat.mod_one, Nat.mod_one]
    | succ width ih =>
      obtain ⟨hhigh, hlow⟩ := List.cons.inj h
      rw [Nat.mod_pow_succ, Nat.mod_pow_succ, ← Nat.toNat_testBit, ← Nat.toNat_testBit, hhigh,
        ih hlow]
  rw [← Nat.mod_eq_of_lt hx, ← Nat.mod_eq_of_lt hy, hmod width h]

/-- There are as many bits as are asked for. -/
theorem bits_length (width n : Nat) : (bits width n).length = width := by
  induction width with
  | zero => rfl
  | succ width ih => rw [bits, List.length_cons, ih]

/-- Each of some numbers contributes its bits. -/
theorem flatMap_bits_length (width : Nat) (ns : List Nat) :
    (ns.flatMap (bits width)).length = ns.length * width := by
  induction ns with
  | nil => rw [List.length_nil, Nat.zero_mul]; rfl
  | cons n ns ih =>
    rw [List.flatMap_cons, List.length_append, bits_length, ih, List.length_cons, Nat.succ_mul,
      Nat.add_comm]

/-- Numbers whose bits in a row are the same are the same. -/
theorem eq_of_flatMap_bits_eq {width : Nat} {ns ms : List Nat} (hns : ∀ n ∈ ns, n < 2 ^ width)
    (hms : ∀ m ∈ ms, m < 2 ^ width) (hlength : ns.length = ms.length)
    (h : ns.flatMap (bits width) = ms.flatMap (bits width)) : ns = ms := by
  induction ns generalizing ms with
  | nil => exact (List.length_eq_zero_iff.1 hlength.symm).symm
  | cons n ns ih =>
    cases ms with
    | nil => cases hlength
    | cons m ms =>
      obtain ⟨hn, hns⟩ := List.forall_mem_cons.1 hns
      obtain ⟨hm, hms⟩ := List.forall_mem_cons.1 hms
      rw [List.flatMap_cons, List.flatMap_cons] at h
      obtain ⟨hhead, htail⟩ := List.append_inj h (by rw [bits_length, bits_length])
      rw [eq_of_bits_eq hn hm hhead, ih hns hms (Nat.succ.inj hlength) htail]

/-- The numbers of a text in the format are numbers of symbols, and there are as many of them and of
pads as the number of the bytes says. -/
theorem Spells.exists_numbers {text : List Char} (h : Spells bytes text) :
    ∃ (numbers : List Nat) (zeros pads : Nat), (∀ v ∈ numbers, v < 2 ^ 6) ∧
      text.map some = numbers.map (alphabet[·]?) ++ List.replicate pads (some '=') ∧
      numbers.flatMap (bits 6) = bytes.flatMap (bits 8) ++ List.replicate zeros false ∧
      numbers.length * 6 = bytes.length * 8 + zeros ∧ zeros < 6 ∧
      pads < 4 ∧ (numbers.length + pads) % 4 = 0 := by
  obtain ⟨numbers, zeros, pads, htext, hbits, hzeros, hpads, hlength⟩ := h
  refine ⟨numbers, zeros, pads, ?_, htext, hbits, ?_, hzeros, hpads, ?_⟩
  · intro v hv
    have hmem : alphabet[v]? ∈ text.map some := by
      rw [htext]
      exact List.mem_append_left _ (List.mem_map_of_mem hv)
    obtain ⟨c, -, hc⟩ := List.mem_map.1 hmem
    exact lt_of_alphabet hc
  · have hcount := congrArg List.length hbits
    rwa [List.length_append, List.length_replicate, flatMap_bits_length, flatMap_bits_length]
      at hcount
  · have hcount := congrArg List.length htext
    rw [List.length_append, List.length_map, List.length_map, List.length_replicate] at hcount
    rwa [← hcount]

/-- No two texts have the same bytes in the format. -/
theorem Spells.eq {text other : List Char} (h : Spells bytes text) (h' : Spells bytes other) :
    text = other := by
  obtain ⟨ns, zeros, pads, hns, htext, hbits, hlength, hzeros, hpads, hwhole⟩ := h.exists_numbers
  obtain ⟨ms, zeros', pads', hms, hother, hbits', hlength', hzeros', hpads', hwhole'⟩ :=
    h'.exists_numbers
  obtain rfl : zeros = zeros' := by omega
  have hcount : ns.length = ms.length := by omega
  obtain rfl : pads = pads' := by omega
  have hnumbers : ns = ms := eq_of_flatMap_bits_eq hns hms hcount (hbits.trans hbits'.symm)
  rw [hnumbers] at htext
  exact (List.map_inj_right fun _ _ => Option.some.inj).1 (htext.trans hother.symm)

/-- The text that encoding writes is the one that has the bytes in the format. -/
theorem spells_iff {text : List Char} (hbytes : ∀ b ∈ bytes, b < 256) :
    Spells bytes text ↔ text = (encode bytes).map Char.ofNat := by
  constructor
  · exact fun h => h.eq (spells_encode hbytes)
  · rintro rfl
    exact spells_encode hbytes

end Automation.Base64
