import Mathlib
import ZoneBridge.Host

/-!
# Floats whose sign is clear

A float is a binary64 bit pattern; it unpacks into NaN, a signed zero, a signed infinity or a
signed finite number. Its *sign is clear* when it is NaN or carries the positive sign. Packing
keeps the sign bit, so a float built from an unpacked value whose sign is clear has its sign
clear too: the absolute value of a float, and the float of an unsigned integer. No float whose
sign is clear compares below zero.

Rounding to the nearest integer keeps a clear sign, and cutting such a float to a 32-bit integer
gives no negative number. Main statement: `Float.toInt32_roundEven_abs_nonneg`, the rounded
magnitude of any host value is not negative.
-/

namespace ZoneBridge

open Float.Model
open Float.Model.UnpackedFloat (Sign)

/-- An unpacked float whose sign is clear: NaN, or a zero, infinity or number of positive sign. -/
def SignClear : UnpackedFloat → Prop
  | .notANumber => True
  | .infinity s => s = .positive
  | .zero s => s = .positive
  | .finite s _ _ _ => s = .positive

/-- Unpacking a bit pattern whose sign bit is clear gives a value whose sign is clear: every value
but NaN takes its sign from that bit. -/
theorem signClear_unpack {spec : Format} {b : BitVec spec.numBits}
    (h : UnpackedFloat.unpackSign b = 0#1) : SignClear (UnpackedFloat.unpack spec b) := by
  have hs : UnpackedFloat.Sign.ofBitVec (UnpackedFloat.unpackSign b) = .positive := by
    simp [h, UnpackedFloat.Sign.ofBitVec]
  unfold UnpackedFloat.unpack
  dsimp only
  split_ifs <;> simp [SignClear, hs]

/-- Packing a value whose sign is clear writes a clear sign bit; NaN is packed with it clear. -/
theorem unpackSign_pack {spec : Format} {f : UnpackedFloat} (hf : SignClear f) :
    UnpackedFloat.unpackSign (UnpackedFloat.pack spec f) = 0#1 := by
  cases f with
  | notANumber => simp [UnpackedFloat.pack, UnpackedFloat.packedNaN, UnpackedFloat.Sign.toBitVec]
  | infinity s =>
    cases hf
    simp [UnpackedFloat.pack, UnpackedFloat.packedInfinity, UnpackedFloat.Sign.toBitVec]
  | zero s =>
    cases hf
    simp [UnpackedFloat.pack, UnpackedFloat.packedZero, UnpackedFloat.Sign.toBitVec]
  | finite s m e hm =>
    cases hf
    -- a number too large for the format is packed as an infinity of its sign
    simp only [UnpackedFloat.pack]
    split_ifs <;> simp [UnpackedFloat.packedInfinity, UnpackedFloat.Sign.toBitVec]

theorem signClear_abs (u : UnpackedFloat) : SignClear u.abs := by
  cases u <;> simp [UnpackedFloat.abs, SignClear]

/-- The float of a natural number is zero or positive: it is rounded with the positive sign. -/
theorem signClear_ofNat (spec : Format) (n : Nat) : SignClear (UnpackedFloat.ofNat spec n) := by
  unfold UnpackedFloat.ofNat UnpackedFloat.ofInt UnpackedFloat.normalize
  split
  · rename_i h
    simp [compare, compareOfLessAndEq] at h
  · simp [SignClear]
  · unfold UnpackedFloat.round UnpackedFloat.roundWithAccuracy
    dsimp only
    split <;> simp [SignClear]

namespace SignClear

variable {a : UnpackedFloat}

theorem compare_zero (ha : SignClear a) (s : Sign) : a.compare (.zero s) ≠ some .lt := by
  cases a with
  | notANumber => simp [UnpackedFloat.compare]
  | infinity t => cases ha; simp [UnpackedFloat.compare]
  | zero t => cases ha; simp [UnpackedFloat.compare]
  | finite t m e hm => cases ha; simp [UnpackedFloat.compare]

theorem compare_negative (ha : SignClear a) {m : Nat} {e : Int} {hm : 0 < m} :
    (a.compare (.finite .negative m e hm)).any (·.isLE) = false := by
  cases a with
  | notANumber => simp [UnpackedFloat.compare]
  | infinity t => cases ha; simp [UnpackedFloat.compare]
  | zero t => cases ha; simp [UnpackedFloat.compare]
  | finite t m e hm => cases ha; simp [UnpackedFloat.compare]

end SignClear

namespace Float

theorem lt_iff {x y : Float} : x < y ↔ x.toModel.unpack.compare y.toModel.unpack = some .lt := by
  show x.lt y = true ↔ _
  simp only [Float.lt, decide_eq_true_eq]
  show x.toModel.lt y.toModel = true ↔ _
  simp [Float.Model.lt, UnpackedFloat.lt]

theorem le_iff {x y : Float} :
    x ≤ y ↔ (x.toModel.unpack.compare y.toModel.unpack).any (·.isLE) := by
  show x.le y = true ↔ _
  simp only [Float.le, decide_eq_true_eq]
  show x.toModel.le y.toModel = true ↔ _
  simp [Float.Model.le, UnpackedFloat.le]

theorem signClear_pack {f : UnpackedFloat} (hf : SignClear f) :
    SignClear (⟨Float.Model.pack f⟩ : Float).toModel.unpack :=
  signClear_unpack (by simpa [Float.Model.pack, Float.Model.unpack] using
    (unpackSign_pack hf : UnpackedFloat.unpackSign (UnpackedFloat.pack .binary64 f) = 0#1))

theorem signClear_abs (x : Float) : SignClear x.abs.toModel.unpack :=
  signClear_pack (ZoneBridge.signClear_abs _)

theorem signClear_toFloat (k : UInt64) : SignClear k.toFloat.toModel.unpack :=
  signClear_pack (signClear_ofNat _ _)

theorem not_lt_zero {x : Float} (hx : SignClear x.toModel.unpack) : ¬ x < 0 := by
  rw [lt_iff]
  exact hx.compare_zero _

theorem not_le_of_negative {x y : Float} (hx : SignClear x.toModel.unpack) {m : Nat} {e : Int}
    {hm : 0 < m} (hy : y.toModel.unpack = .finite .negative m e hm) : ¬ x ≤ y := by
  rw [le_iff, hy, hx.compare_negative]
  simp

theorem signClear_roundEven {x : Float} (hx : SignClear x.toModel.unpack) :
    SignClear (roundEven x).toModel.unpack := by
  have hneg : ¬ x < 0 := not_lt_zero hx
  unfold roundEven
  -- the branch that negates the rounded magnitude is ruled out by the clear sign
  split_ifs
  · exact hx
  · dsimp only
    split
    · exact hx
    · exact signClear_toFloat _

theorem toInt32_nonneg {x : Float} (hx : SignClear x.toModel.unpack) : 0 ≤ toInt32 x := by
  obtain ⟨m, e, hm, hlow⟩ :
      ∃ m e hm, (-2147483648.0 : Float).toModel.unpack = .finite .negative m e hm :=
    ⟨_, _, _, rfl⟩
  unfold toInt32
  split
  · exact Int.le_refl 0
  · split
    · decide
    · rw [if_neg (not_le_of_negative hx hlow)]
      dsimp only
      rw [if_neg (not_lt_zero hx)]
      exact Int.natCast_nonneg _

/-- The rounded magnitude of any float, cut to a 32-bit integer, is not negative. -/
theorem toInt32_roundEven_abs_nonneg (x : Float) : 0 ≤ toInt32 (roundEven x.abs) :=
  toInt32_nonneg (signClear_roundEven (signClear_abs x))

end Float

end ZoneBridge
