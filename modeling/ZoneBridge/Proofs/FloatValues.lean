import Mathlib
import ZoneBridge.Proofs.FloatSign
import ZoneBridge.Proofs.UnpackedArith
import ZoneBridge.Entity.Player

/-!
# Floats as the numbers they stand for

A float *has value* `q` when it is a zero (of either sign) and `q = 0`, or a finite number equal
to `q` (`Float.Val`). The arithmetic of the host numbers then computes with rationals: a sum,
difference, product or quotient of floats with values has the correctly rounded value
`nearest64` of the exact result, and comparing floats with values compares the values.

On top of that this module gives the value of each float function the conversions use:
integers below `2 ^ 53` and their floats are exact (`Float.val_ofInt`, `Float.val_toFloat`),
cutting a float to an unsigned integer takes the integer part (`Float.Val.toNat_toUInt64`),
`Float.roundEven` is the rational rounding `roundHalfEven` (`Float.Val.roundEven`), and `Float.ceil`
is the ceiling (`Float.Val.ceil`). The host minimum and maximum take the values' ones
(`Float.Val.hostMin`, `Float.Val.hostMax`).
-/

open Float.Model Float.Model.UnpackedFloat

namespace ZoneBridge

namespace Float

/-- A float that is a finite number of value `q`: a zero of either sign for `0`. -/
def Val (x : Float) (q : ℚ) : Prop := Denotes x.toModel.unpack q

theorem canonical (x : Float) : Canonical x.toModel.unpack := canonical_unpack _

/-- A float built from the canonical float of `q` has value `q`. -/
theorem val_of_spec {u : UnpackedFloat} {q : ℚ} (h : Canonical u ∧ Denotes u q) :
    Val (Float.ofModel (Float.Model.pack u)) q := by
  have hu : (Float.ofModel (Float.Model.pack u)).toModel.unpack = u := unpack_pack h.1
  unfold Val
  rw [hu]
  exact h.2

theorem val_of_unpack {x : Float} {s : Sign} {m : ℕ} {e : ℤ} (hm : 0 < m)
    (h : x.toModel.unpack = .finite s m e hm) : Val x (signValue s * m * 2 ^ e) := by
  unfold Val
  rw [h]
  rfl

/-- An integer below `2 ^ 53` is its own float. -/
theorem ofInt_spec {n : ℤ} (hn : |n| < 2 ^ 53) :
    Canonical (UnpackedFloat.ofInt .binary64 n) ∧ Denotes (UnpackedFloat.ofInt .binary64 n) n := by
  have hb : |(n : ℚ) * 2 ^ (0 : ℤ)| ≤ 2 ^ (64 : ℤ) := by
    have : ((|n| : ℤ) : ℚ) < 2 ^ 53 := by exact_mod_cast hn
    rw [zpow_zero, mul_one, ← Int.cast_abs]
    have h64 : (2 : ℚ) ^ 53 ≤ 2 ^ (64 : ℤ) := by norm_num
    linarith
  have h := normalize_spec n 0 .positive hb
  rw [zpow_zero, mul_one, nearest64_eq_self (exact64_intCast hn)] at h
  exact h

theorem val_ofInt {n : ℤ} (hn : |n| < 2 ^ 53) : Val (ofInt n) n := val_of_spec (ofInt_spec hn)

theorem val_toFloat (k : UInt64) (hk : k.toNat < 2 ^ 53) : Val k.toFloat k.toNat := by
  have h := val_of_spec (ofInt_spec (n := (k.toNat : ℤ)) (by rw [abs_of_nonneg (by omega)]; omega))
  rwa [Int.cast_natCast] at h

/-! ### Constants -/

theorem val_zero : Val 0 0 := by
  show Denotes (.zero .positive) 0
  rfl

theorem val_half : Val 0.5 (1 / 2) := by
  have h := val_of_unpack (x := 0.5) (s := .positive) (m := 2 ^ 52) (e := -53) (by decide) rfl
  norm_num [signValue] at h
  exact h

theorem val_two_pow_52 : Val 4503599627370496.0 (2 ^ 52) := by
  have h := val_of_unpack (x := 4503599627370496.0) (s := .positive) (m := 2 ^ 52) (e := 0)
    (by decide) rfl
  norm_num [signValue] at h
  exact h

theorem val_int32_max : Val 2147483647.0 2147483647 := by
  have h := val_of_unpack (x := 2147483647.0) (s := .positive) (m := 2147483647 * 2 ^ 22)
    (e := -22) (by decide) rfl
  norm_num [signValue] at h
  exact h

theorem val_int32_min : Val (-2147483648.0) (-2147483648) := by
  have h := val_of_unpack (x := -2147483648.0) (s := .negative) (m := 2 ^ 52) (e := -21)
    (by decide) rfl
  norm_num [signValue] at h
  exact h

namespace Val

variable {x y : Float} {p q : ℚ}

theorem exact64 (hx : Val x p) : Exact64 p := exact64_of_denotes (canonical x) hx

/-! ### Arithmetic -/

theorem add (hx : Val x p) (hy : Val y q) (hb : |p + q| ≤ 2 ^ (64 : ℤ)) :
    Val (x + y) (nearest64 (p + q)) :=
  val_of_spec (add_spec (canonical x) (canonical y) hx hy hb)

theorem sub (hx : Val x p) (hy : Val y q) (hb : |p - q| ≤ 2 ^ (64 : ℤ)) :
    Val (x - y) (nearest64 (p - q)) :=
  val_of_spec (sub_spec (canonical x) (canonical y) hx hy hb)

theorem mul (hx : Val x p) (hy : Val y q) (hb : |p * q| ≤ 2 ^ (64 : ℤ)) :
    Val (x * y) (nearest64 (p * q)) :=
  val_of_spec (mul_spec (canonical x) (canonical y) hx hy hb)

theorem div (hx : Val x p) (hy : Val y q) (hq : q ≠ 0) (hb : |p / q| ≤ 2 ^ (64 : ℤ)) :
    Val (x / y) (nearest64 (p / q)) :=
  val_of_spec (div_spec (canonical x) (canonical y) hx hy hq hb)

theorem neg (hx : Val x p) : Val (-x) (-p) :=
  val_of_spec (neg_spec (canonical x) hx)

theorem abs (hx : Val x p) : Val x.abs |p| :=
  val_of_spec (abs_spec (canonical x) hx)

/-! ### Comparisons and tests -/

theorem lt_iff (hx : Val x p) (hy : Val y q) : x < y ↔ p < q := by
  rw [Float.lt_iff, compare_eq_of_denotes (canonical x) (canonical y) hx hy]
  simp [compare_lt_iff_lt]

theorem le_iff (hx : Val x p) (hy : Val y q) : x ≤ y ↔ p ≤ q := by
  rw [Float.le_iff, compare_eq_of_denotes (canonical x) (canonical y) hx hy]
  simp [Ordering.isLE_iff_ne_gt, compare_le_iff_le]

theorem beq_iff (hx : Val x p) (hy : Val y q) : (x == y) = true ↔ p = q := by
  show (x.toModel.unpack.compare y.toModel.unpack == some .eq) = true ↔ p = q
  rw [compare_eq_of_denotes (canonical x) (canonical y) hx hy]
  simp

theorem isFinite (hx : Val x p) : x.isFinite = true := by
  show x.toModel.unpack.isFinite = true
  unfold Val at hx
  cases h : x.toModel.unpack with
  | notANumber => rw [h] at hx; cases hx
  | infinity => rw [h] at hx; cases hx
  | zero => rfl
  | finite => rfl

theorem isNaN (hx : Val x p) : x.isNaN = false := by
  show x.toModel.unpack.isNaN = false
  unfold Val at hx
  cases h : x.toModel.unpack <;> rw [h] at hx <;> first | rfl | cases hx

theorem nonFinite (hx : Val x p) : nonFinite? x = none := by
  have hinf : x.isInf = false := by
    show x.toModel.unpack.isInf = false
    unfold Val at hx
    cases h : x.toModel.unpack <;> rw [h] at hx <;> first | rfl | cases hx
  unfold nonFinite?
  rw [hx.isNaN, hinf]
  rfl

theorem beq_zero (hx : Val x p) (hp : p ≠ 0) : (x == 0) = false :=
  Bool.eq_false_iff.mpr (mt (hx.beq_iff val_zero).mp hp)

/-- The host comparison of floats with values compares the values. -/
theorem hostLt (hx : Val x p) (hy : Val y q) : HostNumber.lt x y = decide (p < q) := by
  show decide (x < y) = decide (p < q)
  rw [decide_eq_decide]
  exact hx.lt_iff hy

/-- A float of magnitude at least `2 ^ 52` is whole: its 53 digits reach no further down. -/
theorem isInt_of_le (hx : Val x p) (h : 2 ^ 52 ≤ |p|) : ∃ k : ℤ, p = k := by
  have hc := canonical x
  unfold Val at hx
  cases hu : x.toModel.unpack with
  | notANumber => rw [hu] at hx; cases hx
  | infinity => rw [hu] at hx; cases hx
  | zero => rw [hu] at hx; exact ⟨0, by simpa [Denotes] using hx⟩
  | finite s m e hm =>
    rw [hu] at hx hc
    simp only [Denotes] at hx
    obtain ⟨hmu, -, -, -⟩ := hc
    -- a negative exponent would leave the magnitude below `2 ^ 52`
    have he : 0 ≤ e := by
      by_contra hneg
      have hm' : (m : ℚ) < 2 ^ 53 := by exact_mod_cast hmu
      have hpe : (2 : ℚ) ^ e ≤ 2 ^ (-1 : ℤ) := zpow_le_zpow_right₀ (by norm_num) (by omega)
      have hab : |p| = m * 2 ^ e := by
        rw [hx, mul_assoc, abs_mul, abs_signValue, one_mul, abs_of_nonneg (by positivity)]
      have : (m : ℚ) * 2 ^ e < 2 ^ 52 := by
        calc (m : ℚ) * 2 ^ e ≤ m * 2 ^ (-1 : ℤ) := by gcongr
          _ < 2 ^ 53 * 2 ^ (-1 : ℤ) := by gcongr
          _ = 2 ^ 52 := by norm_num
      linarith
    refine ⟨s.apply (m * 2 ^ e.toNat), ?_⟩
    rw [hx, cast_apply]
    push_cast
    rw [← zpow_natCast, Int.toNat_of_nonneg he]
    ring

end Val

/-! ### Cutting to integers -/

/-- Cutting `± m · 2 ^ e` toward zero keeps the sign and takes the integer part. -/
theorem roundToInt_eq (s : Sign) (m : ℕ) (e : ℤ) :
    roundToInt s m e = s.apply ⌊(m : ℚ) * 2 ^ e⌋.toNat := by
  have hd := decreaseExponent_value m e 0
  have hd2 : (decreaseExponent m e 0).2 ≤ 0 := by
    rw [decreaseExponent_snd]
    exact min_le_right _ _
  obtain ⟨-, hrep⟩ := shiftToExponent_spec (represents_exact (decreaseExponent m e 0).1) hd2
  rw [hd, zpow_zero, div_one] at hrep
  show s.apply (shiftToExponent (decreaseExponent m e 0).1 (decreaseExponent m e 0).2 .exact 0).1.mantissa = _
  rw [hrep.1, Int.toNat_natCast]

/-- Cutting a non-negative float below `2 ^ 64` to an unsigned integer takes its integer part. -/
theorem Val.toNat_toUInt64 {x : Float} {v : ℚ} (hx : Val x v) (h0 : 0 ≤ v) (h1 : v < 2 ^ 64) :
    x.toUInt64.toNat = ⌊v⌋₊ := by
  show (UInt64.ofNatClamp (x.toModel.unpack.toInt 0 (UInt64.size - 1)).toNat).toNat = ⌊v⌋₊
  unfold Val at hx
  cases hu : x.toModel.unpack with
  | notANumber => rw [hu] at hx; cases hx
  | infinity => rw [hu] at hx; cases hx
  | zero =>
    rw [hu] at hx
    simp only [Denotes] at hx
    subst hx
    rfl
  | finite s m e hm =>
    rw [hu] at hx
    simp only [Denotes] at hx
    have hpos : (0 : ℚ) < m * 2 ^ e := by positivity
    -- a non-negative value has the positive sign
    have hs : s = .positive := by
      cases s with
      | positive => rfl
      | negative =>
        simp only [signValue, neg_mul, one_mul] at hx
        linarith
    subst hs
    simp only [signValue, one_mul] at hx
    have hfl : ⌊v⌋₊ < UInt64.size := by
      have : (⌊v⌋₊ : ℚ) < 2 ^ 64 := lt_of_le_of_lt (Nat.floor_le h0) h1
      have : ⌊v⌋₊ < 2 ^ 64 := by exact_mod_cast this
      exact this
    simp only [UnpackedFloat.toInt, roundToInt_eq, Sign.apply, Int.toNat_natCast, ← hx,
      Int.floor_toNat]
    exact UInt64.toNat_ofNatClamp_of_lt hfl

/-! ### Rounding, ceiling and cutting host values -/

theorem toNat_add_one {n : UInt64} (h : n.toNat < 2 ^ 52) : (n + 1).toNat = n.toNat + 1 := by
  rw [UInt64.toNat_add]
  simp
  omega

theorem even_iff (n : UInt64) : (n % 2 == 0) = true ↔ n.toNat % 2 = 0 := by
  rw [beq_iff_eq, ← UInt64.toNat_inj, UInt64.toNat_mod]
  rfl

/-- The integer part and the fraction of a non-negative float below `2 ^ 52`, both exact. -/
theorem Val.split {a : Float} {w : ℚ} (ha : Val a w) (h0 : 0 ≤ w) (h1 : w < 2 ^ 52) :
    a.toUInt64.toNat = ⌊w⌋₊ ∧ Val a.toUInt64.toFloat ⌊w⌋₊ ∧
      Val (a - a.toUInt64.toFloat) (w - ⌊w⌋₊) := by
  have hn := ha.toNat_toUInt64 h0 (by linarith)
  have hfl : (⌊w⌋₊ : ℚ) ≤ w := Nat.floor_le h0
  have hfl' : w < ⌊w⌋₊ + 1 := Nat.lt_floor_add_one w
  have hv : Val a.toUInt64.toFloat ⌊w⌋₊ := by
    have hlt : ⌊w⌋₊ < 2 ^ 53 := by
      have : (⌊w⌋₊ : ℚ) < 2 ^ 53 := by linarith
      exact_mod_cast this
    rw [← hn]
    exact val_toFloat _ (by omega)
  refine ⟨hn, hv, ?_⟩
  have hd := ha.sub hv (by
    rw [abs_of_nonneg (by linarith)]
    have : (1 : ℚ) ≤ 2 ^ (64 : ℤ) := by norm_num
    linarith)
  rwa [nearest64_eq_self (exact64_sub_floor ha.exact64 h0)] at hd

/-- The shape that `Float.roundEven` and `Float.ceil` share: a zero, and every value from `2 ^ 52`
up, is whole and stays as it is; below, a value `g` is computed. A rounding `F` to integers that
keeps integers is taken by such a function as soon as `g` takes it for the values below. -/
theorem Val.wholeOrBelow {x g : Float} {v : ℚ} (hx : Val x v) {F : ℚ → ℤ}
    (hF : ∀ k : ℤ, F k = k) (hg : |v| < 2 ^ 52 → Val g (F v)) :
    Val (if !x.isFinite || x == 0 then x else if x.abs ≥ 4503599627370496.0 then x else g)
      (F v) := by
  by_cases hz : v = 0
  · subst hz
    rw [if_pos (by simp [(hx.beq_iff val_zero).mpr rfl])]
    have h0 := hF 0
    rw [Int.cast_zero] at h0
    rw [h0, Int.cast_zero]
    exact hx
  rw [if_neg (by simp [hx.isFinite, hx.beq_zero hz])]
  have ha := hx.abs
  by_cases hbig : 2 ^ 52 ≤ |v|
  · -- a value this large is whole, and its own rounding
    rw [if_pos ((val_two_pow_52.le_iff ha).mpr hbig)]
    obtain ⟨k, rfl⟩ := hx.isInt_of_le hbig
    rw [hF]
    exact hx
  rw [if_neg (mt (val_two_pow_52.le_iff ha).mp hbig)]
  exact hg (not_le.mp hbig)

/-- The rounded magnitude `Float.roundEven` takes below `2 ^ 52`: the integer part, one more
when the fraction is over a half, and the even of the two on a half. -/
def roundMagnitude (a : Float) : UInt64 :=
  let n := a.toUInt64
  let d := a - n.toFloat
  if d < 0.5 then n else if d > 0.5 then n + 1 else if n % 2 == 0 then n else n + 1

theorem roundEven_eq (x : Float) :
    roundEven x = if !x.isFinite || x == 0 then x
      else if x.abs ≥ 4503599627370496.0 then x
      else if x < 0 then -(roundMagnitude x.abs).toFloat else (roundMagnitude x.abs).toFloat :=
  rfl

theorem Val.toNat_roundMagnitude {a : Float} {w : ℚ} (ha : Val a w) (h0 : 0 ≤ w) (h1 : w < 2 ^ 52) :
    ((roundMagnitude a).toNat : ℤ) = roundHalfEven w := by
  obtain ⟨hn, -, hd⟩ := ha.split h0 h1
  have hk : ((⌊w⌋₊ : ℕ) : ℚ) = ((⌊w⌋ : ℤ) : ℚ) := by
    rw [← Int.natCast_floor_eq_floor h0, Int.cast_natCast]
  have hnb : a.toUInt64.toNat < 2 ^ 52 := by
    rw [hn]
    have : (⌊w⌋₊ : ℚ) < 2 ^ 52 := lt_of_le_of_lt (Nat.floor_le h0) h1
    exact_mod_cast this
  have hfl : (⌊w⌋ : ℤ) = a.toUInt64.toNat := by rw [hn, Int.natCast_floor_eq_floor h0]
  unfold roundMagnitude roundHalfEven
  dsimp only
  rw [hk, Int.self_sub_floor] at hd
  -- each branch of the float code is the branch of the rational rounding with the same test
  by_cases hlt : Int.fract w < 1 / 2
  · rw [if_pos ((hd.lt_iff val_half).mpr hlt), if_pos hlt, hfl]
  rw [if_neg (mt (hd.lt_iff val_half).mp hlt), if_neg hlt]
  by_cases hgt : 1 / 2 < Int.fract w
  · rw [if_pos ((val_half.lt_iff hd).mpr hgt), if_pos hgt, toNat_add_one hnb, hfl]
    push_cast
    rfl
  rw [if_neg (mt (val_half.lt_iff hd).mp hgt), if_neg hgt, hfl]
  by_cases hev : a.toUInt64.toNat % 2 = 0
  · rw [if_pos ((even_iff _).mpr hev)]
    omega
  · rw [if_neg (mt (even_iff _).mp hev), toNat_add_one hnb]
    omega

/-- `Float.roundEven` rounds the value of a float to the nearest integer, ties to even. -/
theorem Val.roundEven {x : Float} {v : ℚ} (hx : Val x v) : Val (roundEven x) (roundHalfEven v) := by
  rw [roundEven_eq]
  refine hx.wholeOrBelow roundHalfEven_intCast fun hbig => ?_
  have hm := hx.abs.toNat_roundMagnitude (abs_nonneg v) hbig
  have hk : (roundMagnitude x.abs).toNat < 2 ^ 53 := by
    have he := abs_roundHalfEven_sub_le |v|
    rw [← hm, Int.cast_natCast, abs_le] at he
    have : ((roundMagnitude x.abs).toNat : ℚ) < 2 ^ 53 := by linarith
    exact_mod_cast this
  have hval := val_toFloat _ hk
  -- the rounded magnitude, negated below zero
  by_cases hneg : v < 0
  · rw [if_pos ((hx.lt_iff val_zero).mpr hneg)]
    rw [abs_of_neg hneg] at hm
    have hv : roundHalfEven v = -((roundMagnitude x.abs).toNat : ℤ) := by
      rw [hm, ← roundHalfEven_neg, neg_neg]
    rw [hv]
    push_cast
    exact hval.neg
  · rw [if_neg (mt (hx.lt_iff val_zero).mp hneg)]
    rw [abs_of_nonneg (not_lt.mp hneg)] at hm
    rw [← hm]
    push_cast
    exact hval

theorem ceil_eq (x : Float) :
    ceil x = if !x.isFinite || x == 0 then x
      else if x.abs ≥ 4503599627370496.0 then x
      else if x < 0 then -x.abs.toUInt64.toFloat
      else if x.abs.toUInt64.toFloat < x.abs then (x.abs.toUInt64 + 1).toFloat
      else x.abs.toUInt64.toFloat :=
  rfl

/-- `Float.ceil` takes the value of a float to the least integer not below it. -/
theorem Val.ceil {x : Float} {v : ℚ} (hx : Val x v) : Val (ceil x) ⌈v⌉ := by
  rw [ceil_eq]
  refine hx.wholeOrBelow Int.ceil_intCast fun hbig => ?_
  have ha := hx.abs
  obtain ⟨hn, hv, -⟩ := ha.split (abs_nonneg v) hbig
  by_cases hneg : v < 0
  · -- below zero the ceiling is the integer part of the magnitude, negated
    rw [if_pos ((hx.lt_iff val_zero).mpr hneg)]
    have hc : (⌈v⌉ : ℚ) = -(⌊|v|⌋₊ : ℚ) := by
      rw [abs_of_neg hneg, show v = -(-v) by ring, Int.ceil_neg, neg_neg,
        ← Int.natCast_floor_eq_floor (by linarith)]
      push_cast
      ring
    rw [hc]
    exact hv.neg
  rw [if_neg (mt (hx.lt_iff val_zero).mp hneg)]
  replace hneg := not_lt.mp hneg
  rw [abs_of_nonneg hneg] at hv hn ha hbig
  have hfl : (⌊v⌋₊ : ℚ) ≤ v := Nat.floor_le hneg
  have hfl' : v < ⌊v⌋₊ + 1 := Nat.lt_floor_add_one v
  by_cases hfr : (⌊v⌋₊ : ℚ) < v
  · -- a fraction left over: one above the integer part
    rw [if_pos ((hv.lt_iff ha).mpr hfr)]
    have hnb : x.abs.toUInt64.toNat < 2 ^ 52 := by
      rw [hn]
      have : (⌊v⌋₊ : ℚ) < 2 ^ 52 := by linarith
      exact_mod_cast this
    have hc : (⌈v⌉ : ℚ) = ((x.abs.toUInt64 + 1).toNat : ℚ) := by
      rw [toNat_add_one hnb, hn,
        (Int.ceil_eq_iff (z := ((⌊v⌋₊ + 1 : ℕ) : ℤ))).mpr (by push_cast; constructor <;> linarith)]
      push_cast
      ring
    rw [hc]
    exact val_toFloat _ (by rw [toNat_add_one hnb]; omega)
  · rw [if_neg (mt (hv.lt_iff ha).mp hfr)]
    have he : v = ⌊v⌋₊ := le_antisymm (not_lt.mp hfr) hfl
    have hc : (⌈v⌉ : ℚ) = ⌊v⌋₊ := by
      rw [he, Int.ceil_natCast]
      push_cast
      rfl
    rw [hc]
    exact hv

theorem Val.hostMin {x y : Float} {p q : ℚ} (hx : Val x p) (hy : Val y q) :
    Val (HostNumber.min x y) (min p q) := by
  unfold HostNumber.min
  rw [hy.hostLt hx]
  by_cases hqp : q < p
  · rw [decide_eq_true hqp, if_pos rfl, min_eq_right hqp.le]
    exact hy
  · rw [decide_eq_false hqp, if_neg (by simp), min_eq_left (not_lt.mp hqp)]
    exact hx

theorem Val.hostMax {x y : Float} {p q : ℚ} (hx : Val x p) (hy : Val y q) :
    Val (HostNumber.max x y) (max p q) := by
  unfold HostNumber.max
  rw [hx.hostLt hy]
  by_cases hpq : p < q
  · rw [decide_eq_true hpq, if_pos rfl, max_eq_right hpq.le]
    exact hy
  · rw [decide_eq_false hpq, if_neg (by simp), max_eq_left (not_lt.mp hpq)]
    exact hx

end Float

end ZoneBridge
