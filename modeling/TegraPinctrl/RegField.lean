import TegraPinctrl.Basic

/-! # Bit fields of a 32-bit register

The shift-and-mask expressions of `tegra_pinconf_group_get` and `tegra_pinconf_group_set`,
written as the driver computes them on `u32` values, and their two laws (as for any
register view): reading back a field returns what was written, and a write leaves every bit
outside its field unchanged. Both hold whenever the field lies inside the register,
`bit + width ≤ 32`.

`cShl` is the C left shift of a 32-bit value by an `int` amount: GCC defines it for
amounts `0 ≤ n < 32`; any other amount is undefined behaviour, `none`. -/

namespace TegraPinctrl

/-- `(1 << width) - 1`, the `mask` of a `width`-bit field. -/
def fieldMask (width : Nat) : BitVec 32 := (1#32 <<< width) - 1#32

/-- `(val >> bit) & mask`: the field of `val` at `bit`, shifted down. -/
def readField (val : BitVec 32) (bit width : Nat) : BitVec 32 :=
  (val >>> bit) &&& fieldMask width

/-- `val &= ~(mask << bit); val |= arg << bit`: `val` with its field at `bit` set to `arg`. -/
def writeField (val : BitVec 32) (bit width arg : Nat) : BitVec 32 :=
  (val &&& ~~~(fieldMask width <<< bit)) ||| (BitVec.ofNat 32 arg <<< bit)

/-- The C shift `x << n`; `none` where C leaves it undefined. -/
def cShl (x : BitVec 32) (n : Int) : Option (BitVec 32) :=
  if 0 ≤ n ∧ n < 32 then some (x <<< n.toNat) else none

theorem fieldMask_toNat {width : Nat} (h : width ≤ 32) :
    (fieldMask width).toNat = 2 ^ width - 1 := by
  have hpos : 0 < 2 ^ width := Nat.two_pow_pos width
  rw [fieldMask, BitVec.toNat_sub, BitVec.toNat_shiftLeft]
  rcases Nat.lt_or_eq_of_le h with h | rfl
  · have hlt : 2 ^ width < 2 ^ 32 := Nat.pow_lt_pow_right (by decide) h
    simp only [BitVec.toNat_ofNat, Nat.one_mod_two_pow (show 0 < 32 by decide),
      Nat.one_shiftLeft, Nat.mod_eq_of_lt hlt]
    omega
  · rfl

@[simp] theorem getLsbD_fieldMask {width : Nat} (h : width ≤ 32) (i : Nat) :
    (fieldMask width).getLsbD i = decide (i < width) := by
  rw [← BitVec.testBit_toNat, fieldMask_toNat h, Nat.testBit_two_pow_sub_one]

theorem getLsbD_readField {val : BitVec 32} {bit width : Nat} (h : width ≤ 32) (j : Nat) :
    (readField val bit width).getLsbD j = (decide (j < width) && val.getLsbD (bit + j)) := by
  simp only [readField, BitVec.getLsbD_and, BitVec.getLsbD_ushiftRight, getLsbD_fieldMask h]
  exact Bool.and_comm _ _

/-- Every bit of a field write: inside the field the bits of `arg`, outside it the old
bits. -/
theorem getLsbD_writeField {val : BitVec 32} {bit width arg : Nat} (harg : arg < 2 ^ width)
    (hfit : bit + width ≤ 32) (i : Nat) :
    (writeField val bit width arg).getLsbD i =
      if bit ≤ i ∧ i < bit + width then arg.testBit (i - bit) else val.getLsbD i := by
  by_cases h32 : i < 32
  · simp only [writeField, BitVec.getLsbD_or, BitVec.getLsbD_and, BitVec.getLsbD_not,
      BitVec.getLsbD_shiftLeft, getLsbD_fieldMask (show width ≤ 32 by omega),
      BitVec.getLsbD_ofNat, h32, decide_True, Bool.true_and]
    by_cases hlo : bit ≤ i
    · by_cases hhi : i < bit + width
      · simp [hlo, hhi, Nat.not_lt.mpr hlo, show i - bit < width by omega,
          show i - bit < 32 by omega]
      · have hz : arg.testBit (i - bit) = false := testBit_of_lt_two_pow harg (by omega)
        simp [hlo, hhi, Nat.not_lt.mpr hlo, hz, show ¬ i - bit < width by omega]
    · simp [hlo, Nat.lt_of_not_le hlo]
  · have hge : 32 ≤ i := Nat.le_of_not_lt h32
    simp [BitVec.getLsbD_ge _ _ hge, show ¬ i < bit + width by omega]

/-- Reading back a written field gives the value written. -/
theorem readField_writeField {val : BitVec 32} {bit width arg : Nat} (harg : arg < 2 ^ width)
    (hfit : bit + width ≤ 32) :
    readField (writeField val bit width arg) bit width = BitVec.ofNat 32 arg := by
  ext j
  rw [getLsbD_readField (by omega), getLsbD_writeField harg hfit, BitVec.getLsbD_ofNat]
  by_cases hj : (j : Nat) < width
  · simp [hj]
  · simp [hj, testBit_of_lt_two_pow harg (Nat.le_of_not_lt hj)]

/-- A field read sees only the bits of its field. -/
theorem readField_congr {v w : BitVec 32} {bit width : Nat} (h : width ≤ 32)
    (hbits : ∀ i, bit ≤ i → i < bit + width → v.getLsbD i = w.getLsbD i) :
    readField v bit width = readField w bit width := by
  ext j
  rw [getLsbD_readField h, getLsbD_readField h]
  by_cases hj : (j : Nat) < width
  · simp [hj, hbits (bit + j) (by omega) (by omega)]
  · simp [hj]

theorem readField_toNat_lt (val : BitVec 32) {bit width : Nat} (h : width ≤ 32) :
    (readField val bit width).toNat < 2 ^ width :=
  Nat.lt_pow_two_of_testBit _ fun i hi => by
    rw [BitVec.testBit_toNat, getLsbD_readField h]
    simp [Nat.not_lt.mpr hi]

/-- A 1-bit field reads 1 exactly when its bit is set. -/
theorem readField_one_toNat (val : BitVec 32) (bit : Nat) :
    (readField val bit 1).toNat = if val.getLsbD bit then 1 else 0 := by
  have hlt := @readField_toNat_lt val bit 1 (by decide)
  have hb : (readField val bit 1).toNat.testBit 0 = val.getLsbD bit := by
    rw [BitVec.testBit_toNat, getLsbD_readField (by decide)]
    simp
  rcases (by omega : (readField val bit 1).toNat = 0 ∨ (readField val bit 1).toNat = 1) with h | h
  · rw [h] at hb ⊢
    rw [← hb]
    rfl
  · rw [h] at hb ⊢
    rw [← hb]
    rfl

theorem fieldMask_toNat_of_ge {width : Nat} (h : 32 ≤ width) :
    (fieldMask width).toNat = 2 ^ 32 - 1 := by
  have hz : (2 ^ width) % 2 ^ 32 = 0 :=
    Nat.mod_eq_zero_of_dvd (Nat.pow_dvd_pow 2 h)
  simp only [fieldMask, BitVec.toNat_sub, BitVec.toNat_shiftLeft, BitVec.toNat_ofNat,
    Nat.one_mod_two_pow (show 0 < 32 by decide), Nat.one_shiftLeft, hz]
  omega

/-- The range check `arg & ~mask` of `tegra_pinconf_group_set` rejects exactly the arguments
that do not fit in the field, whatever its width. -/
theorem ofNat_and_not_fieldMask_eq_zero {arg width : Nat} (harg : arg < 2 ^ 32) :
    (BitVec.ofNat 32 arg &&& ~~~fieldMask width = 0#32) ↔ arg < 2 ^ width := by
  have hmask : ∀ i : Nat, (fieldMask width).getLsbD i = decide (i < min width 32) := by
    intro i
    rw [← BitVec.testBit_toNat]
    rcases Nat.le_total width 32 with h | h
    · rw [fieldMask_toNat h, Nat.testBit_two_pow_sub_one, Nat.min_eq_left h]
    · rw [fieldMask_toNat_of_ge h, Nat.testBit_two_pow_sub_one, Nat.min_eq_right h]
  constructor
  · intro hz
    refine Nat.lt_pow_two_of_testBit _ fun i hi => ?_
    by_cases hi32 : i < 32
    · have := congrArg (fun v => v.getLsbD i) hz
      simpa [hmask, hi32, Nat.not_lt.mpr hi, BitVec.getLsbD_ofNat] using this
    · exact testBit_of_lt_two_pow harg (Nat.le_of_not_lt hi32)
  · intro hlt
    ext i
    by_cases hi : (i : Nat) < width
    · simp [hmask, hi, i.isLt]
    · simp [hmask, hi, BitVec.getLsbD_ofNat, testBit_of_lt_two_pow hlt (Nat.le_of_not_lt hi)]

/-- Writing 1 into the one-bit field at bit 0 sets bit 0. -/
theorem writeField_zero_one_one (v : BitVec 32) : writeField v 0 1 1 = v ||| 1#32 := by
  ext i
  simp only [writeField, BitVec.getLsbD_or, BitVec.getLsbD_and, BitVec.getLsbD_not,
    BitVec.shiftLeft_zero, getLsbD_fieldMask (show 1 ≤ 32 by decide), BitVec.getLsbD_one]
  by_cases h : (i : Nat) = 0 <;> simp [h]

/-- `BIT(n)` on a 32-bit register. -/
theorem getLsbD_one_shiftLeft (n j : Nat) :
    (1#32 <<< n).getLsbD j = decide (j = n ∧ j < 32) := by
  simp only [BitVec.getLsbD_shiftLeft, BitVec.getLsbD_one]
  by_cases h : j = n
  · subst h; by_cases h32 : j < 32 <;> simp [h32]
  · by_cases hle : n ≤ j
    · simp [h, Nat.not_lt.mpr hle, show j - n ≠ 0 by omega]
    · simp [h, Nat.lt_of_not_le hle]

theorem cShl_of_lt {x : BitVec 32} {n : Int} (h0 : 0 ≤ n) (h32 : n < 32) :
    cShl x n = some (x <<< n.toNat) := by
  simp [cShl, h0, h32]

theorem cShl_of_neg {x : BitVec 32} {n : Int} (h : n < 0) : cShl x n = none := by
  simp [cShl, Int.not_le.mpr h]

end TegraPinctrl
