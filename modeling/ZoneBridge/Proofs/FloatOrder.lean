import Mathlib
import ZoneBridge.Proofs.FloatValues

/-!
# The order of floats, infinities included

A host conversion may leave the finite floats on its way: the product of a large host value and
the end of a scale overflows to an infinity, and the computation goes on from there. To follow
the order of values through such a computation, a float *sits at* a rational (`Float.Key`): a
number at its value, an infinity at `±2 ^ 1024` (`Float.overflowBound`), the first power of two
beyond every finite float. Rounding with overflow is `Float.rounded`, the nearest binary64 value
cut to `[-2 ^ 1024, 2 ^ 1024]`, and an operation with one finite operand takes a key to the
rounded exact result, or leaves an infinity where it is (`Float.extended`). Both are monotone.

Comparisons of floats compare their keys (`Float.Key.compare_eq`), and `Float.toInt32` is the
integer part of the key saturated to 32 bits (`Float.Key.toInt32_eq`), a whole value itself
saturated (`Float.Val.toInt32_eq`); the host clamp clamps keys (`Float.Key.clamp`), and values
(`Float.Val.clamp`). So a float whose key is
at most another's (`Float.Below`) stays so through adding or subtracting a finite float,
subtracting from one, dividing by a positive one, multiplying by one of known sign,
`Float.roundEven` and the host clamp, and `Float.toInt32` keeps the order
(`Float.Below.toInt32_le`).
-/

open Float.Model Float.Model.UnpackedFloat

namespace ZoneBridge

/-- The integer part of a rational, the fraction cut off toward zero. -/
def intPart (p : ℚ) : ℤ := if 0 ≤ p then ⌊p⌋ else ⌈p⌉

@[simp] theorem intPart_intCast (k : ℤ) : intPart k = k := by
  unfold intPart
  split_ifs <;> simp

/-- The integer part is the whole part of the magnitude, with the sign put back. -/
theorem intPart_eq_floor_abs (a : ℚ) :
    intPart a = if a < 0 then -(⌊|a|⌋₊ : ℤ) else (⌊|a|⌋₊ : ℤ) := by
  unfold intPart
  by_cases hneg : a < 0
  · rw [if_neg (not_le.mpr hneg), if_pos hneg, abs_of_neg hneg,
      Int.natCast_floor_eq_floor (by linarith), Int.floor_neg, neg_neg]
  · rw [if_pos (not_lt.mp hneg), if_neg hneg, abs_of_nonneg (not_lt.mp hneg),
      Int.natCast_floor_eq_floor (not_lt.mp hneg)]

theorem intPart_mono : Monotone intPart := by
  intro p q hpq
  unfold intPart
  split_ifs with hp hq hq
  · exact Int.floor_le_floor hpq
  · exact absurd (hp.trans hpq) hq
  · -- a negative value cuts to at most zero, a non-negative one to at least zero
    have h1 : ⌈p⌉ ≤ 0 := Int.ceil_le.mpr (by simpa using (not_le.mp hp).le)
    have h2 : 0 ≤ ⌊q⌋ := Int.floor_nonneg.mpr hq
    omega
  · exact Int.ceil_le_ceil hpq

theorem saturate32_mono : Monotone saturate32 := by
  intro a b hab
  unfold saturate32
  omega

theorem roundHalfEven_mono : Monotone roundHalfEven := by
  intro x y hxy
  by_contra hlt
  rw [not_le] at hlt
  -- each rounding is within a half, so two integers apart by one would leave `x = y`
  have h1 : (roundHalfEven y : ℚ) + 1 ≤ roundHalfEven x := by exact_mod_cast hlt
  have hx := abs_le.mp (abs_roundHalfEven_sub_le x)
  have hy := abs_le.mp (abs_roundHalfEven_sub_le y)
  have hxy' : x = y := by linarith
  subst hxy'
  exact lt_irrefl _ hlt

namespace Float

/-! ### Where rounding overflows -/

/-- The first power of two beyond the largest finite binary64 value: a rounding that reaches it
overflows to an infinity. -/
def overflowBound : ℚ := 2 ^ 1024

theorem overflowBound_pos : 0 < overflowBound := by
  unfold overflowBound
  positivity

/-- Values up to `2 ^ 64`, all a 32-bit computation reaches, lie far below the bound. -/
theorem lt_overflowBound {x : ℚ} (h : x ≤ 2 ^ 64) : x < overflowBound :=
  h.trans_lt (pow_lt_pow_right₀ one_lt_two (by norm_num))

/-- The bound as the largest mantissa bound times the largest exponent the format stores; in
integer exponents, so that no large power is ever evaluated. -/
theorem overflowBound_eq : overflowBound = 2 ^ (53 : ℤ) * 2 ^ (971 : ℤ) := by
  rw [← zpow_add₀ two_ne_zero, show (53 + 971 : ℤ) = ((1024 : ℕ) : ℤ) from rfl, zpow_natCast,
    overflowBound]

/-- A mantissa below `2 ^ 53` at an exponent the format stores stays below the bound. -/
theorem mantissa_mul_lt_overflowBound {m : ℕ} {e : ℤ} (hm : m < 2 ^ 53) (he : e ≤ 971) :
    (m : ℚ) * 2 ^ e < overflowBound := by
  have hm' : (m : ℚ) < 2 ^ (53 : ℤ) := by
    rw [show (53 : ℤ) = ((53 : ℕ) : ℤ) from rfl, zpow_natCast]
    exact_mod_cast hm
  rw [overflowBound_eq]
  calc (m : ℚ) * 2 ^ e ≤ m * 2 ^ (971 : ℤ) :=
        mul_le_mul_of_nonneg_left (zpow_le_zpow_right₀ one_le_two he) (Nat.cast_nonneg m)
    _ < 2 ^ (53 : ℤ) * 2 ^ (971 : ℤ) := mul_lt_mul_of_pos_right hm' (zpow_pos two_pos _)

theorem Val.unpack_cases {x : Float} {p : ℚ} (hx : Val x p) :
    (∃ t, x.toModel.unpack = .zero t ∧ p = 0) ∨
      ∃ t m e hm, x.toModel.unpack = .finite t m e hm ∧ p = signValue t * m * 2 ^ e := by
  unfold Val at hx
  cases hu : x.toModel.unpack with
  | notANumber => rw [hu] at hx; cases hx
  | infinity => rw [hu] at hx; cases hx
  | zero t => rw [hu] at hx; exact .inl ⟨t, rfl, hx⟩
  | finite t m e hm => rw [hu] at hx; exact .inr ⟨t, m, e, hm, rfl, hx⟩

/-- Every finite float lies strictly within the bound. -/
theorem Val.abs_lt {x : Float} {p : ℚ} (hx : Val x p) : |p| < overflowBound := by
  have hc := canonical x
  rcases hx.unpack_cases with ⟨t, -, rfl⟩ | ⟨t, m, e, hm, hu, rfl⟩
  · rw [abs_zero]
    exact overflowBound_pos
  · rw [hu] at hc
    obtain ⟨hmu, -, he, -⟩ := hc
    rw [mul_assoc, abs_mul, abs_signValue, one_mul, abs_of_nonneg (by positivity)]
    exact mantissa_mul_lt_overflowBound hmu he

/-- A float is finite exactly when it has a value. -/
theorem exists_val_of_isFinite {x : Float} (h : x.isFinite = true) : ∃ p, Val x p := by
  change x.toModel.unpack.isFinite = true at h
  unfold Val
  cases hu : x.toModel.unpack with
  | notANumber => rw [hu] at h; cases h
  | infinity => rw [hu] at h; cases h
  | zero t => exact ⟨0, rfl⟩
  | finite t m e hm => exact ⟨_, rfl⟩

/-! ### Keys -/

/-- Where a float sits among the rationals: a number at its value, an infinity at the bound on
its side. NaN sits nowhere. -/
def Key (x : Float) (a : ℚ) : Prop :=
  Val x a ∨ ∃ s, x.toModel.unpack = .infinity s ∧ a = signValue s * overflowBound

theorem Val.key {x : Float} {p : ℚ} (hx : Val x p) : Key x p := .inl hx

theorem abs_signValue_mul_overflowBound (s : Sign) :
    |signValue s * overflowBound| = overflowBound := by
  rw [abs_mul, abs_signValue, one_mul, abs_of_pos overflowBound_pos]

namespace Key

variable {x y : Float} {a b : ℚ}

theorem abs_le (hx : Key x a) : |a| ≤ overflowBound := by
  rcases hx with hv | ⟨s, -, rfl⟩
  · exact hv.abs_lt.le
  · exact (abs_signValue_mul_overflowBound s).le

/-- A key strictly within the bound is a value. -/
theorem val (hx : Key x a) (h : |a| < overflowBound) : Val x a := by
  rcases hx with hv | ⟨s, -, rfl⟩
  · exact hv
  · rw [abs_signValue_mul_overflowBound] at h
    exact absurd h (lt_irrefl _)

theorem isNaN (hx : Key x a) : x.isNaN = false := by
  rcases hx with hv | ⟨s, hu, -⟩
  · exact hv.isNaN
  · change x.toModel.unpack.isNaN = false
    rw [hu]
    rfl

/-- A finite float against an infinity: below the positive one, above the negative one. -/
theorem compare_infinity (hx : Val x a) (s : Sign) :
    x.toModel.unpack.compare (.infinity s) = some (compare a (signValue s * overflowBound)) := by
  have hlt := abs_lt.mp hx.abs_lt
  cases s with
  | positive =>
    rw [signValue, one_mul, compare_lt_iff_lt.mpr hlt.2]
    rcases hx.unpack_cases with ⟨t, hu, -⟩ | ⟨t, m, e, hm, hu, -⟩ <;> rw [hu] <;> cases t <;> rfl
  | negative =>
    rw [signValue, neg_one_mul, compare_gt_iff_gt.mpr (by linarith)]
    rcases hx.unpack_cases with ⟨t, hu, -⟩ | ⟨t, m, e, hm, hu, -⟩ <;> rw [hu] <;> cases t <;> rfl

theorem infinity_compare (s : Sign) (hx : Val x a) :
    (UnpackedFloat.infinity s).compare x.toModel.unpack =
      some (compare (signValue s * overflowBound) a) := by
  have hlt := abs_lt.mp hx.abs_lt
  cases s with
  | positive =>
    rw [signValue, one_mul, compare_gt_iff_gt.mpr hlt.2]
    rcases hx.unpack_cases with ⟨t, hu, -⟩ | ⟨t, m, e, hm, hu, -⟩ <;> rw [hu] <;> rfl
  | negative =>
    rw [signValue, neg_one_mul, compare_lt_iff_lt.mpr (by linarith)]
    rcases hx.unpack_cases with ⟨t, hu, -⟩ | ⟨t, m, e, hm, hu, -⟩ <;> rw [hu] <;> rfl

/-- Comparing floats compares their keys. -/
theorem compare_eq (hx : Key x a) (hy : Key y b) :
    x.toModel.unpack.compare y.toModel.unpack = some (compare a b) := by
  rcases hx with hx | ⟨s, hu, rfl⟩ <;> rcases hy with hy | ⟨t, hv, rfl⟩
  · exact compare_eq_of_denotes (canonical x) (canonical y) hx hy
  · rw [hv]
    exact compare_infinity hx t
  · rw [hu]
    exact infinity_compare s hy
  · -- two infinities compare as their signs
    have hK := overflowBound_pos
    rw [hu, hv]
    cases s <;> cases t <;> simp only [signValue, one_mul, neg_one_mul]
    · rw [compare_eq_iff_eq.mpr rfl]; rfl
    · rw [compare_lt_iff_lt.mpr (by linarith)]; rfl
    · rw [compare_gt_iff_gt.mpr (by linarith)]; rfl
    · rw [compare_eq_iff_eq.mpr rfl]; rfl

theorem lt_iff (hx : Key x a) (hy : Key y b) : x < y ↔ a < b := by
  rw [Float.lt_iff, hx.compare_eq hy]
  simp [compare_lt_iff_lt]

theorem le_iff (hx : Key x a) (hy : Key y b) : x ≤ y ↔ a ≤ b := by
  rw [Float.le_iff, hx.compare_eq hy]
  simp [Ordering.isLE_iff_ne_gt, compare_le_iff_le]

theorem hostLt (hx : Key x a) (hy : Key y b) : HostNumber.lt x y = decide (a < b) := by
  show decide (x < y) = decide (a < b)
  rw [decide_eq_decide]
  exact hx.lt_iff hy

end Key

/-! ### Rounding with overflow -/

/-- The nearest binary64 value, cut to the bound: an overflow sits at the bound on its side. -/
def rounded (r : ℚ) : ℚ := max (-overflowBound) (min overflowBound (nearest64 r))

theorem rounded_mono : Monotone rounded :=
  fun _ _ h => max_le_max le_rfl (min_le_min le_rfl (nearest64_mono h))

theorem abs_rounded_le (r : ℚ) : |rounded r| ≤ overflowBound := by
  have hK := overflowBound_pos
  unfold rounded
  rw [abs_le]
  constructor
  · exact le_max_left _ _
  · exact max_le (by linarith) (min_le_left _ _)

theorem rounded_of_abs_lt {r : ℚ} (h : |nearest64 r| < overflowBound) : rounded r = nearest64 r := by
  obtain ⟨h1, h2⟩ := abs_lt.mp h
  unfold rounded
  rw [min_eq_right h2.le, max_eq_right h1.le]

/-- The value of a finite float is its own rounding. -/
theorem Val.rounded_eq {x : Float} {p : ℚ} (hx : Val x p) : rounded p = p := by
  rw [rounded_of_abs_lt (by rw [nearest64_eq_self hx.exact64]; exact hx.abs_lt),
    nearest64_eq_self hx.exact64]

/-- An operation with one finite operand, on keys: a number goes to the rounded result of `f`,
an infinity stays. -/
def extended (f : ℚ → ℚ) (a : ℚ) : ℚ := if |a| < overflowBound then rounded (f a) else a

theorem extended_mono {f : ℚ → ℚ} (hf : Monotone f) {a a' : ℚ} (ha : |a| ≤ overflowBound)
    (ha' : |a'| ≤ overflowBound) (h : a ≤ a') : extended f a ≤ extended f a' := by
  obtain ⟨ha1, -⟩ := abs_le.mp ha
  obtain ⟨-, ha2'⟩ := abs_le.mp ha'
  unfold extended
  split_ifs with h1 h2 h2
  · exact rounded_mono (hf h)
  · -- an infinity above a number is the positive one
    rcases (abs_eq overflowBound_pos.le).mp (le_antisymm ha' (not_lt.mp h2)) with h3 | h3
    · rw [h3]
      exact (abs_le.mp (abs_rounded_le _)).2
    · exact absurd (h.trans_eq h3) (not_le.mpr (abs_lt.mp h1).1)
  · -- an infinity below a number is the negative one
    rcases (abs_eq overflowBound_pos.le).mp (le_antisymm ha (not_lt.mp h1)) with h3 | h3
    · exact absurd (h3.symm.trans_le h) (not_le.mpr (abs_lt.mp h2).2)
    · rw [h3]
      exact (abs_le.mp (abs_rounded_le _)).1
  · exact h

/-- A float of the pattern `finite s m e` with an exponent above the format's packs to the
infinity of its sign. -/
theorem pack_of_exp_le {s : Sign} {m : ℕ} {e : ℤ} {hm : 0 < m} (he : 972 ≤ e) :
    UnpackedFloat.pack .binary64 (.finite s m e hm) = UnpackedFloat.pack .binary64 (.infinity s) := by
  simp only [UnpackedFloat.pack]
  rw [if_pos (by simp; omega)]

/-- A float built from a rounding sits at the rounded value, an overflow at the bound. -/
theorem key_pack {u : UnpackedFloat} {r : ℚ} (h : Shaped u ∧ Denotes u (nearest64 r)) :
    Key (Float.ofModel (Float.Model.pack u)) (rounded r) := by
  obtain ⟨hs, hd⟩ := h
  by_cases hr : |nearest64 r| < overflowBound
  · rw [rounded_of_abs_lt hr]
    exact .inl (val_of_spec ⟨hs.canonical hd (by rwa [overflowBound] at hr), hd⟩)
  cases u with
  | notANumber => cases hd
  | infinity => cases hd
  | zero t =>
    simp only [Denotes] at hd
    rw [hd, abs_zero] at hr
    exact absurd overflowBound_pos hr
  | finite t m e hm =>
    obtain ⟨hmu, -, -⟩ := hs
    simp only [Denotes] at hd
    have habs : |nearest64 r| = m * 2 ^ e := by
      rw [hd, mul_assoc, abs_mul, abs_signValue, one_mul, abs_of_nonneg (by positivity)]
    -- a value beyond the bound needs an exponent beyond the format's
    have he : 972 ≤ e := by
      by_contra hlow
      exact hr (habs ▸ mantissa_mul_lt_overflowBound hmu (by omega))
    refine .inr ⟨t, ?_, ?_⟩
    · show UnpackedFloat.unpack .binary64 (UnpackedFloat.pack .binary64 (.finite t m e hm)) = _
      rw [pack_of_exp_le he]
      exact unpack_pack trivial
    · rw [not_lt, habs] at hr
      have hK := overflowBound_pos
      unfold rounded
      cases t with
      | positive =>
        rw [hd, signValue, one_mul, one_mul, min_eq_left hr, max_eq_right (by linarith)]
      | negative =>
        rw [hd, signValue, neg_one_mul, neg_one_mul, min_eq_right (by linarith),
          max_eq_left (by linarith)]

/-! ### Operations on keys -/

section Operations

variable {x y c : Float} {a b q : ℚ}

/-- The float of an unpacked infinity sits at the bound. -/
theorem key_pack_infinity (s : Sign) :
    Key (Float.ofModel (Float.Model.pack (.infinity s))) (signValue s * overflowBound) :=
  .inr ⟨s, unpack_pack trivial, rfl⟩

theorem Val.add_key (hx : Val x a) (hc : Val c q) : Key (x + c) (rounded (a + q)) :=
  key_pack (add_shaped (canonical x) (canonical c) hx hc)

theorem Val.sub_key (hx : Val x a) (hc : Val c q) : Key (x - c) (rounded (a - q)) :=
  key_pack (sub_shaped (canonical x) (canonical c) hx hc)

theorem Val.mul_key (hx : Val x a) (hc : Val c q) : Key (x * c) (rounded (a * q)) :=
  key_pack (mul_shaped (canonical x) (canonical c) hx hc)

theorem Val.div_key (hx : Val x a) (hc : Val c q) (hq : q ≠ 0) : Key (x / c) (rounded (a / q)) :=
  key_pack (div_shaped (canonical x) (canonical c) hx hc hq)

theorem extended_of_val (f : ℚ → ℚ) (hx : Val x a) : extended f a = rounded (f a) :=
  if_pos hx.abs_lt

theorem extended_infinity (f : ℚ → ℚ) (s : Sign) :
    extended f (signValue s * overflowBound) = signValue s * overflowBound :=
  if_neg (by rw [abs_signValue_mul_overflowBound]; exact lt_irrefl _)

/-- An infinity plus a finite float is that infinity. -/
theorem Key.add (hx : Key x a) (hc : Val c q) : Key (x + c) (extended (· + q) a) := by
  rcases hx with hv | ⟨s, hu, rfl⟩
  · rw [extended_of_val _ hv]
    exact hv.add_key hc
  · rw [extended_infinity]
    show Key (Float.ofModel (Float.Model.pack (UnpackedFloat.add .binary64 x.toModel.unpack
      c.toModel.unpack))) _
    rw [hu]
    rcases hc.unpack_cases with ⟨t, ht, -⟩ | ⟨t, m, e, hm, ht, -⟩ <;> rw [ht] <;>
      exact key_pack_infinity s

/-- An infinity minus a finite float is that infinity. -/
theorem Key.sub (hx : Key x a) (hc : Val c q) : Key (x - c) (extended (· - q) a) := by
  rcases hx with hv | ⟨s, hu, rfl⟩
  · rw [extended_of_val _ hv]
    exact hv.sub_key hc
  · rw [extended_infinity]
    show Key (Float.ofModel (Float.Model.pack (UnpackedFloat.sub .binary64 x.toModel.unpack
      c.toModel.unpack))) _
    rw [hu]
    rcases hc.unpack_cases with ⟨t, ht, -⟩ | ⟨t, m, e, hm, ht, -⟩ <;> rw [ht] <;>
      exact key_pack_infinity s

/-- A finite float minus an infinity is the opposite infinity: the key is negated first. -/
theorem Key.sub_from (hc : Val c q) (hx : Key x a) : Key (c - x) (extended (q + ·) (-a)) := by
  rcases hx with hv | ⟨s, hu, rfl⟩
  · rw [extended_of_val _ hv.neg, ← sub_eq_add_neg]
    exact hc.sub_key hv
  · rw [← neg_mul, ← signValue_neg, extended_infinity]
    show Key (Float.ofModel (Float.Model.pack (UnpackedFloat.sub .binary64 c.toModel.unpack
      x.toModel.unpack))) _
    rw [hu]
    rcases hc.unpack_cases with ⟨t, ht, -⟩ | ⟨t, m, e, hm, ht, -⟩ <;> rw [ht] <;>
      exact key_pack_infinity (-s)

/-- An infinity over a positive float is that infinity. -/
theorem Key.div (hx : Key x a) (hc : Val c q) (hq : 0 < q) : Key (x / c) (extended (· / q) a) := by
  rcases hx with hv | ⟨s, hu, rfl⟩
  · rw [extended_of_val _ hv]
    exact hv.div_key hc hq.ne'
  · rw [extended_infinity]
    show Key (Float.ofModel (Float.Model.pack (UnpackedFloat.div .binary64 x.toModel.unpack
      c.toModel.unpack))) _
    rw [hu]
    -- a positive value is a finite float of the positive sign
    rcases hc.unpack_cases with ⟨t, ht, rfl⟩ | ⟨t, m, e, hm, ht, rfl⟩
    · exact absurd hq (lt_irrefl _)
    · cases t with
      | negative =>
        have : (0 : ℚ) < m * 2 ^ e := by positivity
        simp only [signValue] at hq
        linarith
      | positive =>
        rw [ht]
        cases s <;> exact key_pack_infinity _

theorem Key.roundEven (hx : Key x a) :
    Key (roundEven x) (extended (fun t => (roundHalfEven t : ℚ)) a) := by
  rcases hx with hv | ⟨s, hu, rfl⟩
  · rw [extended_of_val _ hv, hv.roundEven.rounded_eq]
    exact hv.roundEven.key
  · -- an infinity is not finite, and rounding leaves it
    have hf : x.isFinite = false := by
      change x.toModel.unpack.isFinite = false
      rw [hu]
      rfl
    rw [extended_infinity, roundEven_eq, if_pos (by simp [hf])]
    exact .inr ⟨s, hu, rfl⟩

/-- The host clamp of keys clamps the keys. -/
theorem Key.clamp {lo hi : Float} {l u : ℚ} (hx : Key x a) (hl : Key lo l) (hh : Key hi u) :
    Key (HostNumber.clamp x lo hi) (min (max a l) u) := by
  unfold HostNumber.clamp
  dsimp only
  have hy : Key (if HostNumber.lt x lo then lo else x) (max a l) := by
    rw [hx.hostLt hl]
    by_cases hal : a < l
    · rw [decide_eq_true hal, if_pos rfl, max_eq_right hal.le]
      exact hl
    · rw [decide_eq_false hal, if_neg (by simp), max_eq_left (not_lt.mp hal)]
      exact hx
  rw [hh.hostLt hy]
  by_cases huy : u < max a l
  · rw [decide_eq_true huy, if_pos rfl, min_eq_right huy.le]
    exact hh
  · rw [decide_eq_false huy, if_neg (by simp), min_eq_left (not_lt.mp huy)]
    exact hy

/-- The host clamp of floats with values clamps the values: the result is one of the three. -/
theorem Val.clamp {lo hi : Float} {l u : ℚ} (hx : Val x a) (hl : Val lo l) (hh : Val hi u) :
    Val (HostNumber.clamp x lo hi) (min (max a l) u) := by
  refine (hx.key.clamp hl.key hh.key).val ?_
  rcases min_choice (max a l) u with hmin | hmin <;> rw [hmin]
  · rcases max_choice a l with hmax | hmax <;> rw [hmax]
    · exact hx.abs_lt
    · exact hl.abs_lt
  · exact hh.abs_lt

/-- Cutting a float to a 32-bit integer takes the integer part of its key, saturated: an
infinity saturates like every value beyond the 32-bit range. -/
theorem Key.toInt32_eq (hx : Key x a) : toInt32 x = saturate32 (intPart a) := by
  unfold toInt32 saturate32
  rw [hx.isNaN, if_neg Bool.false_ne_true]
  by_cases hhi : 2147483647 ≤ a
  · rw [if_pos ((val_int32_max.key.le_iff hx).mpr hhi)]
    have : (2147483647 : ℤ) ≤ intPart a := by
      rw [← intPart_intCast 2147483647]
      exact intPart_mono (by exact_mod_cast hhi)
    omega
  rw [if_neg (mt (val_int32_max.key.le_iff hx).mp hhi)]
  by_cases hlo : a ≤ -2147483648
  · rw [if_pos ((hx.le_iff val_int32_min.key).mpr hlo)]
    have : intPart a ≤ -2147483648 := by
      rw [← intPart_intCast (-2147483648)]
      exact intPart_mono (by exact_mod_cast hlo)
    omega
  rw [if_neg (mt (hx.le_iff val_int32_min.key).mp hlo)]
  dsimp only
  -- within the 32-bit range the key is a value, and the integer part of its magnitude is cut
  rw [not_le] at hhi
  rw [not_le] at hlo
  have hsmall : |a| < 2147483648 := abs_lt.mpr ⟨by linarith, by linarith⟩
  have hv : Val x a := hx.val (lt_overflowBound (hsmall.le.trans (by norm_num)))
  have hn := hv.abs.toNat_toUInt64 (abs_nonneg _) (hsmall.trans (by norm_num))
  have hfloor : (⌊|a|⌋₊ : ℤ) ≤ 2147483648 := by
    have : (⌊|a|⌋₊ : ℚ) ≤ 2147483648 := (Nat.floor_le (abs_nonneg a)).trans hsmall.le
    exact_mod_cast this
  rw [hn, intPart_eq_floor_abs]
  by_cases hneg : a < 0
  · rw [if_pos ((hv.lt_iff val_zero).mpr hneg), if_pos hneg]
    omega
  · rw [if_neg (mt (hv.lt_iff val_zero).mp hneg), if_neg hneg]
    have habs : |a| < 2147483647 := by rwa [abs_of_nonneg (not_lt.mp hneg)]
    have : (⌊|a|⌋₊ : ℚ) < 2147483647 := (Nat.floor_le (abs_nonneg a)).trans_lt habs
    have : (⌊|a|⌋₊ : ℤ) < 2147483647 := by exact_mod_cast this
    omega

/-- Cutting a float of whole value to a 32-bit integer saturates that value. -/
theorem Val.toInt32_eq {k : ℤ} (hx : Val x k) : toInt32 x = saturate32 k := by
  rw [hx.key.toInt32_eq, intPart_intCast]

end Operations

/-! ### Order through the operations -/

/-- The first float sits at or below the second. -/
def Below (x y : Float) : Prop := ∃ a b, Key x a ∧ Key y b ∧ a ≤ b

namespace Below

variable {x y c lo hi : Float} {q : ℚ}

theorem of_val {a b : ℚ} (hx : Val x a) (hy : Val y b) (h : a ≤ b) : Below x y :=
  ⟨a, b, hx.key, hy.key, h⟩

theorem add (h : Below x y) (hc : Val c q) : Below (x + c) (y + c) := by
  obtain ⟨a, b, ha, hb, hab⟩ := h
  exact ⟨_, _, ha.add hc, hb.add hc, extended_mono (fun _ _ h => by simpa using h) ha.abs_le
    hb.abs_le hab⟩

theorem sub (h : Below x y) (hc : Val c q) : Below (x - c) (y - c) := by
  obtain ⟨a, b, ha, hb, hab⟩ := h
  exact ⟨_, _, ha.sub hc, hb.sub hc, extended_mono (fun _ _ h => by simpa using h) ha.abs_le
    hb.abs_le hab⟩

/-- Subtracting from a finite float turns the order around. -/
theorem sub_from (h : Below x y) (hc : Val c q) : Below (c - y) (c - x) := by
  obtain ⟨a, b, ha, hb, hab⟩ := h
  exact ⟨_, _, hb.sub_from hc, ha.sub_from hc, extended_mono (fun _ _ h => by simpa using h)
    (by rw [abs_neg]; exact hb.abs_le) (by rw [abs_neg]; exact ha.abs_le) (neg_le_neg hab)⟩

theorem div (h : Below x y) (hc : Val c q) (hq : 0 < q) : Below (x / c) (y / c) := by
  obtain ⟨a, b, ha, hb, hab⟩ := h
  exact ⟨_, _, ha.div hc hq, hb.div hc hq,
    extended_mono (fun _ _ h => div_le_div_of_nonneg_right h hq.le) ha.abs_le hb.abs_le hab⟩

theorem roundEven (h : Below x y) : Below (roundEven x) (roundEven y) := by
  obtain ⟨a, b, ha, hb, hab⟩ := h
  exact ⟨_, _, ha.roundEven, hb.roundEven,
    extended_mono (fun _ _ h => by exact_mod_cast roundHalfEven_mono h) ha.abs_le hb.abs_le hab⟩

theorem clamp {l u : ℚ} (h : Below x y) (hl : Key lo l) (hh : Key hi u) :
    Below (HostNumber.clamp x lo hi) (HostNumber.clamp y lo hi) := by
  obtain ⟨a, b, ha, hb, hab⟩ := h
  exact ⟨_, _, ha.clamp hl hh, hb.clamp hl hh, min_le_min_right _ (max_le_max_right _ hab)⟩

theorem toInt32_le (h : Below x y) : toInt32 x ≤ toInt32 y := by
  obtain ⟨a, b, ha, hb, hab⟩ := h
  rw [ha.toInt32_eq, hb.toInt32_eq]
  exact saturate32_mono (intPart_mono hab)

end Below

/-- Multiplying finite floats by a finite float of a non-negative value keeps their order. -/
theorem Val.below_mul {x y c : Float} {a b q : ℚ} (hx : Val x a) (hy : Val y b) (hab : a ≤ b)
    (hc : Val c q) (hq : 0 ≤ q) : Below (x * c) (y * c) :=
  ⟨_, _, hx.mul_key hc, hy.mul_key hc, rounded_mono (mul_le_mul_of_nonneg_right hab hq)⟩

/-- Multiplying finite floats by a finite float of a non-positive value turns their order
around. -/
theorem Val.below_mul_of_nonpos {x y c : Float} {a b q : ℚ} (hx : Val x a) (hy : Val y b)
    (hab : a ≤ b) (hc : Val c q) (hq : q ≤ 0) : Below (y * c) (x * c) :=
  ⟨_, _, hy.mul_key hc, hx.mul_key hc, rounded_mono (mul_le_mul_of_nonpos_right hab hq)⟩

end Float

end ZoneBridge
