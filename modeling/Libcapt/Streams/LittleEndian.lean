import Mathlib.Data.Nat.Digits.Defs

/-! Unsigned integers as bytes, the least significant first. -/

namespace Streams

/-- The low `size` bytes of a number. -/
def littleBytes : Nat → Nat → List UInt8
  | 0, _ => []
  | size + 1, value => UInt8.ofNat value :: littleBytes size (value / 256)

/-- The number that bytes stand for. -/
def littleValue (bytes : List UInt8) : Nat :=
  Nat.ofDigits 256 (bytes.map UInt8.toNat)

/-- A number takes the bytes it is given. -/
@[simp]
theorem littleBytes_length (size value : Nat) : (littleBytes size value).length = size := by
  induction size generalizing value with
  | zero => rfl
  | succ size ih => rw [littleBytes, List.length_cons, ih]

/-- No bytes are zero. -/
theorem littleValue_nil : littleValue [] = 0 := rfl

/-- The first byte is the lowest one. -/
theorem littleValue_cons (b : UInt8) (rest : List UInt8)
    : littleValue (b :: rest) = b.toNat + 256 * littleValue rest := by
  rw [littleValue, List.map_cons, Nat.ofDigits_cons]
  rfl

/-- One byte is its own value. -/
theorem littleValue_singleton (b : UInt8) : littleValue [b] = b.toNat := by
  rw [littleValue_cons, littleValue_nil]
  rfl

/-- A number is read back from its bytes, up to what did not fit in them. -/
theorem littleValue_littleBytes (size value : Nat)
    : littleValue (littleBytes size value) = value % 256 ^ size := by
  induction size generalizing value with
  | zero =>
      rw [Nat.pow_zero, Nat.mod_one]
      rfl
  | succ size ih =>
      have low : (UInt8.ofNat value).toNat = value % 256 := UInt8.toNat_ofNat'
      rw [littleBytes, littleValue_cons, ih, low, Nat.pow_succ', Nat.mod_mul]

/-- A number that fits is read as it was written. -/
theorem littleValue_littleBytes_of_lt {size value : Nat} (h : value < 256 ^ size)
    : littleValue (littleBytes size value) = value := by
  rw [littleValue_littleBytes, Nat.mod_eq_of_lt h]

/-- The value of `n` bytes. -/
theorem littleValue_lt (bytes : List UInt8) : littleValue bytes < 256 ^ bytes.length := by
  induction bytes with
  | nil => exact Nat.one_pos
  | cons b rest ih =>
      have low := b.toNat_lt
      rw [littleValue_cons, List.length_cons, Nat.pow_succ']
      omega

-----------------------------------------------------------------------------------------
-- Shifts and masks
-----------------------------------------------------------------------------------------

/-- A number shifted over the bits of a smaller one is joined to it by addition. -/
theorem shiftLeft_or {low high k : Nat} (fits : low < 2 ^ k)
    : high <<< k ||| low = low + 2 ^ k * high := by
  rw [← Nat.shiftLeft_add_eq_or_of_lt fits, Nat.shiftLeft_eq, Nat.mul_comm, Nat.add_comm]

/-- A byte shifted within 32 bits loses nothing. -/
theorem shiftLeft_byte {k : Nat} (b : UInt8) (few : k ≤ 24)
    : b.toNat <<< k % 2 ^ 32 = b.toNat <<< k := by
  have byte : b.toNat * 2 ^ k < 2 ^ 8 * 2 ^ k :=
    (Nat.mul_lt_mul_right (Nat.two_pow_pos k)).mpr b.toNat_lt
  have power : 2 ^ 8 * 2 ^ k ≤ 2 ^ 8 * 2 ^ 24 :=
    Nat.mul_le_mul_left _ (Nat.pow_le_pow_right Nat.two_pos few)
  rw [Nat.shiftLeft_eq]
  exact Nat.mod_eq_of_lt (Nat.lt_of_lt_of_le byte power)

/-- Two bytes put together by shifting. -/
theorem join_uint16 (lo hi : UInt8)
    : (hi.toUInt16 <<< 8) ||| lo.toUInt16 = UInt16.ofNat (littleValue [lo, hi]) := by
  have low := lo.toNat_lt
  have high := hi.toNat_lt
  have joined := @shiftLeft_or lo.toNat hi.toNat 8 low
  have shifted : hi.toNat <<< 8 < 2 ^ 16 := by
    rw [Nat.shiftLeft_eq]
    omega
  apply UInt16.toNat_inj.mp
  simp only [littleValue_cons, littleValue_nil, UInt16.toNat_or, UInt16.toNat_shiftLeft,
    UInt8.toNat_toUInt16, UInt16.toNat_ofNat']
  change hi.toNat <<< 8 % 2 ^ 16 ||| lo.toNat = _
  rw [Nat.mod_eq_of_lt shifted, joined]
  omega

/-- Four bytes put together by shifting. -/
theorem join_uint32 (a b c d : UInt8)
    : (0 : UInt32) ||| a.toUInt32 ||| (b.toUInt32 <<< 8) ||| (c.toUInt32 <<< 16)
        ||| (d.toUInt32 <<< 24)
      = UInt32.ofNat (littleValue [a, b, c, d]) := by
  have ha := a.toNat_lt
  have hb := b.toNat_lt
  have hc := c.toNat_lt
  have hd := d.toNat_lt
  have two := @shiftLeft_or a.toNat b.toNat 8 ha
  have three := @shiftLeft_or (a.toNat + 2 ^ 8 * b.toNat) c.toNat 16 (by omega)
  have four := @shiftLeft_or (a.toNat + 2 ^ 8 * b.toNat + 2 ^ 16 * c.toNat) d.toNat 24 (by omega)
  apply UInt32.toNat_inj.mp
  simp only [littleValue_cons, littleValue_nil, UInt32.toNat_or, UInt32.toNat_shiftLeft,
    UInt8.toNat_toUInt32, UInt32.toNat_ofNat']
  change 0 ||| a.toNat ||| (b.toNat <<< 8 % 2 ^ 32) ||| (c.toNat <<< 16 % 2 ^ 32)
    ||| (d.toNat <<< 24 % 2 ^ 32) = _
  rw [shiftLeft_byte b (by decide), shiftLeft_byte c (by decide), shiftLeft_byte d (by decide),
    Nat.zero_or, Nat.or_comm a.toNat, two, Nat.or_comm _ (c.toNat <<< 16), three,
    Nat.or_comm _ (d.toNat <<< 24), four]
  omega

/-- Masking a byte. -/
theorem and_mask (n : Nat) : n % 256 &&& 255 = n % 256 := by
  rw [show (255 : Nat) = 2 ^ 8 - 1 from rfl, Nat.and_two_pow_sub_one_eq_mod, Nat.mod_mod]

/-- Two bytes taken apart by shifting. -/
theorem split_uint16 (value : UInt16)
    : [(value &&& 0xff).toUInt8, ((value >>> 8) &&& 0xff).toUInt8]
      = littleBytes 2 value.toNat := by
  simp only [littleBytes, List.cons.injEq, and_true]
  constructor <;> apply UInt8.toNat_inj.mp <;> simp [Nat.shiftRight_eq_div_pow, and_mask]

/-- Four bytes taken apart by shifting. -/
theorem split_uint32 (value : UInt32)
    : [(value &&& 0xff).toUInt8, ((value >>> 8) &&& 0xff).toUInt8,
        ((value >>> 16) &&& 0xff).toUInt8, ((value >>> 24) &&& 0xff).toUInt8]
      = littleBytes 4 value.toNat := by
  simp only [littleBytes, List.cons.injEq, and_true]
  refine ⟨?_, ?_, ?_, ?_⟩ <;> apply UInt8.toNat_inj.mp <;>
    simp [Nat.shiftRight_eq_div_pow, and_mask, Nat.div_div_eq_div_mul]

end Streams
