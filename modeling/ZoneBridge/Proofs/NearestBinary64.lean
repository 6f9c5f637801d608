import Mathlib

/-!
# Rounding rationals to binary64

A binary64 float that is a finite number is `k · 2 ^ j` with `|k| < 2 ^ 53` and `j ≥ -1074`
(`Exact64`). Around a value `x` such numbers are spaced `2 ^ spacingExp x` apart: 52 binary places
below the leading one of `x`, and never finer than the least subnormal `2 ^ -1074`. Rounding to
the nearest one, a tie going to the even mantissa, is `nearest64`: the rational value of every
correctly rounded float operation.

The facts the conversions need are order facts and an error bound. `nearest64` keeps every value
binary64 holds (`nearest64_eq_self`), never crosses one (`nearest64_le_of_le`,
`le_nearest64_of_le`), is itself such a value (`exact64_nearest64`), keeps the order of values
(`nearest64_mono`), and errs by at most a part in `2 ^ 53` of the value plus half the least
subnormal (`abs_nearest64_sub_le_abs`).
-/

namespace ZoneBridge

/-- The nearest integer to a rational, a tie going to the even one: the integer part when the
fraction is below a half, the next integer when it is above, and on a half whichever of the two
is even. -/
def roundHalfEven (x : ℚ) : ℤ :=
  if Int.fract x < 1 / 2 then ⌊x⌋
  else if 1 / 2 < Int.fract x then ⌊x⌋ + 1
  else ⌊x⌋ + ⌊x⌋ % 2

@[simp] theorem roundHalfEven_intCast (k : ℤ) : roundHalfEven k = k := by
  simp [roundHalfEven]

@[simp] theorem roundHalfEven_zero : roundHalfEven 0 = 0 := by
  simpa using roundHalfEven_intCast 0

/-- The rounding is at most a half away. -/
theorem abs_roundHalfEven_sub_le (x : ℚ) : |(roundHalfEven x : ℚ) - x| ≤ 1 / 2 := by
  have hx : (⌊x⌋ : ℚ) + Int.fract x = x := Int.floor_add_fract x
  have hf0 := Int.fract_nonneg x
  have hf1 := Int.fract_lt_one x
  rw [abs_le]
  unfold roundHalfEven
  split_ifs with hlt hgt
  · constructor <;> linarith
  · push_cast
    constructor <;> linarith
  · -- on a tie the distance is exactly a half, whichever way the parity sends it
    have hh : Int.fract x = 1 / 2 := le_antisymm (not_lt.mp hgt) (not_lt.mp hlt)
    rcases Int.emod_two_eq_zero_or_one ⌊x⌋ with h | h <;> rw [h] <;> push_cast <;>
      constructor <;> linarith

/-- No integer is nearer to `x` than its rounding. -/
theorem abs_roundHalfEven_sub_le_of_int (x : ℚ) (k : ℤ) :
    |(roundHalfEven x : ℚ) - x| ≤ |(k : ℚ) - x| := by
  rcases eq_or_ne (roundHalfEven x) k with h | h
  · rw [h]
  -- another integer is a whole unit from the rounding, so at least a half from `x`
  have hone : (1 : ℚ) ≤ |(roundHalfEven x : ℚ) - k| := by
    have : (1 : ℤ) ≤ |roundHalfEven x - k| := Int.one_le_abs (sub_ne_zero.mpr h)
    exact_mod_cast this
  have htri := abs_sub_abs_le_abs_sub ((roundHalfEven x : ℚ) - k) ((roundHalfEven x : ℚ) - x)
  rw [sub_sub_sub_cancel_left, abs_sub_comm x] at htri
  linarith [abs_roundHalfEven_sub_le x]

/-- An integer less than a half away is the rounding. -/
theorem roundHalfEven_eq_of_abs_sub_lt {x : ℚ} {k : ℤ} (h : |x - k| < 1 / 2) :
    roundHalfEven x = k := by
  by_contra hne
  have hone : (1 : ℚ) ≤ |(roundHalfEven x : ℚ) - k| := by
    have : (1 : ℤ) ≤ |roundHalfEven x - k| := Int.one_le_abs (sub_ne_zero.mpr hne)
    exact_mod_cast this
  have htri := abs_sub_le (roundHalfEven x : ℚ) x k
  linarith [abs_roundHalfEven_sub_le x]

/-- Rounding commutes with negation: ties to even is symmetric about zero. -/
theorem roundHalfEven_neg (x : ℚ) : roundHalfEven (-x) = -roundHalfEven x := by
  rcases eq_or_ne (Int.fract x) 0 with h0 | h0
  · obtain ⟨k, rfl⟩ := Int.fract_eq_zero_iff.mp h0
    rw [← Int.cast_neg, roundHalfEven_intCast, roundHalfEven_intCast]
  -- off the integers, negation mirrors the fraction `f` to `1 - f`, one integer further down
  have hx : (⌊x⌋ : ℚ) + Int.fract x = x := Int.floor_add_fract x
  have hpos : 0 < Int.fract x := lt_of_le_of_ne (Int.fract_nonneg x) (Ne.symm h0)
  have hf1 := Int.fract_lt_one x
  have hfl : ⌊-x⌋ = -⌊x⌋ - 1 := by
    rw [Int.floor_eq_iff]
    push_cast
    constructor <;> linarith
  unfold roundHalfEven
  rw [Int.fract_neg h0, hfl]
  split_ifs <;> first | omega | (exfalso; linarith)

/-! ### The binary64 grid -/

/-- Binary64 holds `y` exactly: `y = k · 2 ^ j` for an integer `|k| < 2 ^ 53` and `j ≥ -1074`
(overflow aside). -/
def Exact64 (y : ℚ) : Prop := ∃ k j : ℤ, |k| < 2 ^ 53 ∧ -1074 ≤ j ∧ y = k * 2 ^ j

/-- The exponent of the spacing of binary64 values at `x`: 52 places below the leading binary
digit of `x`, and never below `-1074`. -/
def spacingExp (x : ℚ) : ℤ := max (Int.log 2 |x| - 52) (-1074)

/-- The binary64 value nearest to `x`, a tie going to the even mantissa (overflow aside). -/
def nearest64 (x : ℚ) : ℚ := roundHalfEven (x / 2 ^ spacingExp x) * 2 ^ spacingExp x

theorem exact64_intCast {k : ℤ} (hk : |k| < 2 ^ 53) : Exact64 k :=
  ⟨k, 0, hk, by norm_num, by simp⟩

@[simp] theorem spacingExp_neg (x : ℚ) : spacingExp (-x) = spacingExp x := by
  simp [spacingExp]

@[simp] theorem nearest64_zero : nearest64 0 = 0 := by
  simp [nearest64]

theorem nearest64_neg (x : ℚ) : nearest64 (-x) = -nearest64 x := by
  simp only [nearest64, spacingExp_neg, neg_div, roundHalfEven_neg]
  push_cast
  ring

/-- Distances on the grid of spacing `2 ^ s` are distances between integers, scaled. -/
theorem abs_mul_spacing_sub (x a : ℚ) :
    |a * 2 ^ spacingExp x - x| = |a - x / 2 ^ spacingExp x| * 2 ^ spacingExp x := by
  have hh : (0 : ℚ) < 2 ^ spacingExp x := by positivity
  have hs : a * 2 ^ spacingExp x - x = (a - x / 2 ^ spacingExp x) * 2 ^ spacingExp x := by
    field_simp
  rw [hs, abs_mul, abs_of_pos hh]

/-- The rounding errs by at most half the spacing. -/
theorem abs_nearest64_sub_le (x : ℚ) : |nearest64 x - x| ≤ 2 ^ spacingExp x / 2 := by
  have hh : (0 : ℚ) < 2 ^ spacingExp x := by positivity
  rw [nearest64, abs_mul_spacing_sub]
  calc |(roundHalfEven (x / 2 ^ spacingExp x) : ℚ) - x / 2 ^ spacingExp x| * 2 ^ spacingExp x
      ≤ 1 / 2 * 2 ^ spacingExp x :=
        mul_le_mul_of_nonneg_right (abs_roundHalfEven_sub_le _) hh.le
    _ = 2 ^ spacingExp x / 2 := by ring

/-- No multiple of the spacing is nearer to `x` than its rounding. -/
theorem abs_nearest64_sub_le_multiple (x : ℚ) (k : ℤ) :
    |nearest64 x - x| ≤ |k * 2 ^ spacingExp x - x| := by
  have hh : (0 : ℚ) < 2 ^ spacingExp x := by positivity
  rw [nearest64, abs_mul_spacing_sub, abs_mul_spacing_sub]
  exact mul_le_mul_of_nonneg_right (abs_roundHalfEven_sub_le_of_int _ k) hh.le

/-- Above the subnormal range a value has 53 binary digits from its leading one down to the
spacing. -/
theorem two_pow_spacing_le_abs {x : ℚ} (hx : x ≠ 0) (hq : spacingExp x ≠ -1074) :
    2 ^ (spacingExp x + 52) ≤ |x| := by
  have hl : spacingExp x = Int.log 2 |x| - 52 := by
    unfold spacingExp at hq ⊢
    omega
  rw [hl, sub_add_cancel]
  simpa using Int.zpow_log_le_self (b := 2) (by norm_num) (abs_pos.mpr hx)

theorem two_pow_spacing_mul (x : ℚ) :
    (2 : ℚ) ^ (52 : ℕ) * 2 ^ spacingExp x = 2 ^ (spacingExp x + 52) := by
  rw [zpow_add₀ two_ne_zero, mul_comm]
  norm_cast

/-- For positive `x` above the subnormal range, rounding errs by no more than the distance down
to the lower end of the binade of `x`: that end, `2 ^ 52` spacings, is on the grid. -/
theorem abs_nearest64_sub_le_binade_of_pos {x : ℚ} (hx : 0 < x) (hq : spacingExp x ≠ -1074) :
    |nearest64 x - x| ≤ x - 2 ^ (spacingExp x + 52) := by
  have hbig := two_pow_spacing_le_abs hx.ne' hq
  rw [abs_of_pos hx] at hbig
  have hm := abs_nearest64_sub_le_multiple x (2 ^ 52)
  simp only [Int.cast_pow, Int.cast_ofNat] at hm
  rwa [two_pow_spacing_mul, abs_of_nonpos (sub_nonpos.mpr hbig), neg_sub] at hm

/-- Above the subnormal range, rounding errs by no more than the distance from `x` to the end of
its binade nearer zero. -/
theorem abs_nearest64_sub_le_binade {x : ℚ} (hx : x ≠ 0) (hq : spacingExp x ≠ -1074) :
    |nearest64 x - x| ≤ |x| - 2 ^ (spacingExp x + 52) := by
  rcases lt_or_gt_of_ne hx with hneg | hpos
  · -- rounding commutes with negation, so the error of `x` is that of `-x`
    have h := abs_nearest64_sub_le_binade_of_pos (neg_pos.mpr hneg) (by rwa [spacingExp_neg])
    rwa [nearest64_neg, spacingExp_neg, neg_sub_neg, abs_sub_comm, ← abs_of_neg hneg] at h
  · rw [abs_of_pos hpos]
    exact abs_nearest64_sub_le_binade_of_pos hpos hq

/-- `nearest64 x` is a binary64 value nearest to `x`: no value that binary64 holds is nearer. -/
theorem abs_nearest64_sub_le_of_exact {x y : ℚ} (hy : Exact64 y) :
    |nearest64 x - x| ≤ |y - x| := by
  obtain ⟨k, j, hk, hj, rfl⟩ := hy
  by_cases hx : x = 0
  · subst hx
    simp only [nearest64_zero, sub_zero, abs_zero]
    positivity
  by_cases hjq : spacingExp x ≤ j
  · -- a value on a coarser grid is a multiple of the spacing
    have hy : (k : ℚ) * 2 ^ j = ((k * 2 ^ (j - spacingExp x).toNat : ℤ) : ℚ) * 2 ^ spacingExp x := by
      push_cast
      rw [mul_assoc, ← zpow_natCast, ← zpow_add₀ two_ne_zero, Int.toNat_of_nonneg (by omega)]
      congr 2
      ring
    rw [hy]
    exact abs_nearest64_sub_le_multiple x _
  · -- a value on a finer grid lies below the binade of `x`, beyond `± 2 ^ (spacing + 52)`
    have hky : |(k : ℚ) * 2 ^ j| < 2 ^ (spacingExp x + 52) := by
      have hk' : |(k : ℚ)| < 2 ^ (53 : ℕ) := by exact_mod_cast hk
      rw [abs_mul, abs_of_pos (by positivity : (0 : ℚ) < 2 ^ j)]
      calc |(k : ℚ)| * 2 ^ j < 2 ^ (53 : ℕ) * 2 ^ j := by gcongr
        _ = 2 ^ (j + 53) := by rw [zpow_add₀ two_ne_zero, mul_comm]; norm_cast
        _ ≤ 2 ^ (spacingExp x + 52) := zpow_le_zpow_right₀ (by norm_num) (by omega)
    have hfar : |x| - |(k : ℚ) * 2 ^ j| ≤ |(k : ℚ) * 2 ^ j - x| := by
      have := abs_sub_abs_le_abs_sub x ((k : ℚ) * 2 ^ j)
      rwa [abs_sub_comm] at this
    linarith [abs_nearest64_sub_le_binade hx (show spacingExp x ≠ -1074 by omega)]

/-- Rounding keeps a value that binary64 holds. -/
theorem nearest64_eq_self {x : ℚ} (hx : Exact64 x) : nearest64 x = x := by
  have := abs_nearest64_sub_le_of_exact (x := x) hx
  rw [sub_self, abs_zero] at this
  exact sub_eq_zero.mp (abs_nonpos_iff.mp this)

/-- Rounding never crosses a value that binary64 holds. -/
theorem nearest64_le_of_le {x y : ℚ} (hy : Exact64 y) (h : x ≤ y) : nearest64 x ≤ y := by
  have := abs_nearest64_sub_le_of_exact (x := x) hy
  rw [abs_of_nonneg (sub_nonneg.mpr h)] at this
  linarith [le_abs_self (nearest64 x - x)]

theorem le_nearest64_of_le {x y : ℚ} (hy : Exact64 y) (h : y ≤ x) : y ≤ nearest64 x := by
  have := abs_nearest64_sub_le_of_exact (x := x) hy
  rw [abs_of_nonpos (sub_nonpos.mpr h)] at this
  linarith [neg_abs_le (nearest64 x - x)]

/-- Scaled to its spacing, a value has fewer than 53 binary digits before the point. -/
theorem abs_div_two_pow_spacing_lt (x : ℚ) : |x / 2 ^ spacingExp x| < 2 ^ 53 := by
  by_cases hx : x = 0
  · subst hx; simp
  have hpos : (0 : ℚ) < 2 ^ spacingExp x := by positivity
  have hlt : |x| < 2 ^ (Int.log 2 |x| + 1) := Int.lt_zpow_succ_log_self (by norm_num) _
  have hle : (2 : ℚ) ^ (Int.log 2 |x| + 1) ≤ 2 ^ (53 : ℕ) * 2 ^ spacingExp x := by
    rw [← zpow_natCast, ← zpow_add₀ two_ne_zero]
    exact zpow_le_zpow_right₀ (by norm_num) (by unfold spacingExp; omega)
  rw [abs_div, abs_of_pos hpos, div_lt_iff₀ hpos]
  exact_mod_cast hlt.trans_le hle

/-- The rounding of a value is a value binary64 holds: a carry past 53 digits moves to the next
exponent. -/
theorem exact64_nearest64 (x : ℚ) : Exact64 (nearest64 x) := by
  set r := roundHalfEven (x / 2 ^ spacingExp x) with hr
  have hs : -1074 ≤ spacingExp x := le_max_right _ _
  have hr53 : |r| ≤ 2 ^ 53 := by
    have h1 := abs_roundHalfEven_sub_le (x / 2 ^ spacingExp x)
    have h2 := abs_div_two_pow_spacing_lt x
    have : |(r : ℚ)| < 2 ^ 53 + 1 := by
      calc |(r : ℚ)| ≤ |(r : ℚ) - x / 2 ^ spacingExp x| + |x / 2 ^ spacingExp x| := by
            simpa using abs_add_le ((r : ℚ) - x / 2 ^ spacingExp x) (x / 2 ^ spacingExp x)
        _ < 1 / 2 + 2 ^ 53 := by linarith
        _ ≤ 2 ^ 53 + 1 := by norm_num
    have : |r| < 2 ^ 53 + 1 := by exact_mod_cast this
    omega
  rcases hr53.lt_or_eq with hlt | heq
  · exact ⟨r, spacingExp x, hlt, hs, rfl⟩
  · -- a carry: `± 2 ^ 53` spacings are `± 2 ^ 52` of the next exponent
    refine ⟨r / 2, spacingExp x + 1, ?_, by omega, ?_⟩
    · rcases abs_eq (by norm_num) |>.mp heq with h | h <;> rw [h] <;> norm_num
    · have hev : r = 2 * (r / 2) := by
        rcases abs_eq (by norm_num) |>.mp heq with h | h <;> rw [h] <;> norm_num
      show (r : ℚ) * 2 ^ spacingExp x = _
      rw [zpow_add₀ two_ne_zero, zpow_one]
      conv_lhs => rw [hev]
      push_cast
      ring

/-- Rounding keeps the order: of two values, the larger never rounds below the smaller. -/
theorem nearest64_mono {x y : ℚ} (h : x ≤ y) : nearest64 x ≤ nearest64 y := by
  by_contra hlt
  rw [not_le] at hlt
  -- each rounding is at least as near as the other's, which puts `x` above the midpoint of the
  -- two roundings and `y` below it
  have hx := abs_nearest64_sub_le_of_exact (x := x) (exact64_nearest64 y)
  have hy := abs_nearest64_sub_le_of_exact (x := y) (exact64_nearest64 x)
  have hx2 := pow_le_pow_left₀ (abs_nonneg _) hx 2
  have hy2 := pow_le_pow_left₀ (abs_nonneg _) hy 2
  rw [sq_abs, sq_abs] at hx2 hy2
  have hxy : x = y := by nlinarith
  subst hxy
  exact lt_irrefl _ hlt

/-- The error of rounding: a part in `2 ^ 53` of the value, and half the least subnormal. -/
theorem abs_nearest64_sub_le_abs (x : ℚ) :
    |nearest64 x - x| ≤ |x| / 2 ^ 53 + 2 ^ (-1075 : ℤ) := by
  have he := abs_nearest64_sub_le x
  by_cases hq : spacingExp x = -1074
  · rw [hq] at he
    have : (2 : ℚ) ^ (-1074 : ℤ) / 2 = 2 ^ (-1075 : ℤ) := by
      rw [show (-1075 : ℤ) = -1074 - 1 by norm_num, zpow_sub₀ two_ne_zero, zpow_one]
    have hx : 0 ≤ |x| / 2 ^ 53 := by positivity
    linarith
  · by_cases hx : x = 0
    · subst hx; simp
    have hb := two_pow_spacing_le_abs hx hq
    have : (2 : ℚ) ^ spacingExp x / 2 = 2 ^ (spacingExp x + 52) / 2 ^ 53 := by
      rw [zpow_add₀ two_ne_zero]; norm_num; ring
    have h1 : (0 : ℚ) ≤ 2 ^ (-1075 : ℤ) := by positivity
    have h2 : (2 : ℚ) ^ (spacingExp x + 52) / 2 ^ 53 ≤ |x| / 2 ^ 53 := by gcongr
    linarith

/-- The error of rounding in one fraction: a part in `2 ^ 53` of the value and of one. -/
theorem abs_nearest64_sub_le_succ (x : ℚ) : |nearest64 x - x| ≤ (|x| + 1) / 2 ^ 53 := by
  have h : (2 : ℚ) ^ (-1075 : ℤ) ≤ 1 / 2 ^ 53 := by
    rw [one_div, ← zpow_natCast, ← zpow_neg]
    exact zpow_le_zpow_right₀ one_le_two (by norm_num)
  calc |nearest64 x - x| ≤ |x| / 2 ^ 53 + 2 ^ (-1075 : ℤ) := abs_nearest64_sub_le_abs x
    _ ≤ |x| / 2 ^ 53 + 1 / 2 ^ 53 := by gcongr
    _ = (|x| + 1) / 2 ^ 53 := by ring

/-- The error of rounding `x`, seen through a factor `c`: it is relative to `c * x`, which keeps
it small when `x` is large only because `c` is small. -/
theorem abs_mul_nearest64_sub_le (c x : ℚ) :
    |c * (nearest64 x - x)| ≤ (|c * x| + |c|) / 2 ^ 53 := by
  rw [abs_mul, abs_mul]
  calc |c| * |nearest64 x - x| ≤ |c| * ((|x| + 1) / 2 ^ 53) := by
        gcongr
        exact abs_nearest64_sub_le_succ x
    _ = (|c| * |x| + |c|) / 2 ^ 53 := by ring

/-- The fraction of a non-negative value binary64 holds is held too: its bits are the low bits
of the same mantissa. -/
theorem exact64_sub_floor {x : ℚ} (hx : Exact64 x) (h0 : 0 ≤ x) : Exact64 (x - ⌊x⌋₊) := by
  obtain ⟨k, j, hk, hj, rfl⟩ := hx
  have hk0 : 0 ≤ k := by
    by_contra hneg
    have : (k : ℚ) * 2 ^ j < 0 :=
      mul_neg_of_neg_of_pos (by exact_mod_cast not_le.mp hneg) (by positivity)
    linarith
  rcases le_or_gt 0 j with hj0 | hj0
  · -- at a non-negative exponent the value is whole
    have hw : (k : ℚ) * 2 ^ j = ((k.toNat * 2 ^ j.toNat : ℕ) : ℚ) := by
      push_cast
      rw [← zpow_natCast, Int.toNat_of_nonneg hj0, ← Int.cast_natCast, Int.toNat_of_nonneg hk0]
    rw [hw, Nat.floor_natCast, sub_self]
    exact ⟨0, 0, by norm_num, by norm_num, by simp⟩
  · -- below it the whole part is the quotient by `2 ^ -j`, and the fraction the remainder
    obtain ⟨N, hN⟩ : ∃ N : ℕ, N = 2 ^ (-j).toNat := ⟨_, rfl⟩
    have hN0 : (N : ℚ) ≠ 0 := by rw [hN]; positivity
    have hj' : (2 : ℚ) ^ j = 1 / N := by
      rw [hN, Nat.cast_pow, Nat.cast_ofNat, ← zpow_natCast, Int.toNat_of_nonneg (by omega),
        zpow_neg, one_div, inv_inv]
    have hkq : ((k.toNat : ℕ) : ℚ) = k := by exact_mod_cast Int.toNat_of_nonneg hk0
    have hv : (k : ℚ) * 2 ^ j = (k.toNat : ℚ) / N := by
      rw [hj', hkq]
      ring
    have hsplit : (k.toNat : ℚ) / N - (k.toNat / N : ℕ) = (k.toNat % N : ℕ) * 2 ^ j := by
      have hc : (k.toNat : ℚ) = N * (k.toNat / N : ℕ) + (k.toNat % N : ℕ) := by
        exact_mod_cast (Nat.div_add_mod k.toNat N).symm
      rw [hj', hc]
      field_simp
      ring
    rw [hv, Nat.floor_div_eq_div]
    refine ⟨(k.toNat % N : ℕ), j, ?_, hj, by rw [hsplit, Int.cast_natCast]⟩
    have hle : k.toNat % N ≤ k.toNat := Nat.mod_le _ _
    rw [abs_lt] at hk
    rw [abs_of_nonneg (by positivity)]
    omega

end ZoneBridge
