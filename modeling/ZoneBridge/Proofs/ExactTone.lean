import Mathlib
import ZoneBridge.Proofs.ConversionOrder

/-!
# The tone conversions in exact arithmetic

The conversions are written for any host number type (`HostNumber`). Over the rationals, with
every operation exact, rounding to the nearest integer with ties to even and the integer part
cut toward zero (saturated at the 32-bit ends), they show what the tone conversion does before
any floating-point error enters.

The way to the device scales a host level `v` to whole steps, `x = (v · (max - min) + min) / step`,
rounds `x`, keeps the result within the ends `min / step` and `max / step`, cuts off what
fraction such an end may have, multiplies by the step and clamps to the scale. Rounding and
keeping within the ends move `x` by at most a half; cutting off the fraction of an end moves it
further, but the end was only reached because the rounding overshot it, so the integer part
stays less than one step from `x` (`abs_intPart_clamp_round_sub_lt`). The way back is linear, so
a host level of `[0, 1]` comes back less than one step, measured on the host scale, away
(`Convert.exact_tone_trip_within_step`).
-/

namespace ZoneBridge

/-- Exact arithmetic on the rationals: every value is finite, rounding goes to the nearest
integer with ties to the even one, and the integer part cuts the fraction off toward zero,
saturated at the 32-bit ends. -/
instance HostNumber.exact : HostNumber ℚ where
  ofInt n := n
  nonFinite? _ := none
  roundEven x := roundHalfEven x
  abs x := |x|
  ceil x := ⌈x⌉
  lt a b := decide (a < b)
  toInt32 x := saturate32 (intPart x)

namespace HostNumber

@[simp] theorem exact_ofInt (n : ℤ) : (ofInt n : ℚ) = n := rfl

@[simp] theorem exact_nonFinite (x : ℚ) : nonFinite? x = none := rfl

@[simp] theorem exact_roundEven (x : ℚ) : roundEven x = (roundHalfEven x : ℚ) := rfl

@[simp] theorem exact_toInt32 (x : ℚ) : toInt32 x = saturate32 (intPart x) := rfl

@[simp] theorem exact_lt (a b : ℚ) : lt a b = decide (a < b) := rfl

@[simp] theorem exact_min (a b : ℚ) : HostNumber.min a b = Min.min a b := by
  unfold HostNumber.min
  by_cases h : b < a
  · simp [h, min_eq_right h.le]
  · simp [h, min_eq_left (not_lt.mp h)]

@[simp] theorem exact_max (a b : ℚ) : HostNumber.max a b = Max.max a b := by
  unfold HostNumber.max
  by_cases h : a < b
  · simp [h, max_eq_right h.le]
  · simp [h, max_eq_left (not_lt.mp h)]

theorem exact_clamp {x lo hi : ℚ} (h : lo ≤ hi) :
    HostNumber.clamp x lo hi = Max.max lo (Min.min x hi) := by
  simp only [HostNumber.clamp, exact_lt, decide_eq_true_eq]
  split_ifs with hx hh hh
  · exact absurd hh (not_lt.mpr h)
  · rw [min_eq_left (hx.le.trans h), max_eq_left hx.le]
  · rw [min_eq_right hh.le, max_eq_right h]
  · rw [min_eq_left (not_lt.mp hh), max_eq_right (not_lt.mp hx)]

end HostNumber

/-! ### Cutting off the fraction of a kept rounding -/

theorem intPart_eq_floor_or_ceil (y : ℚ) : intPart y = ⌊y⌋ ∨ intPart y = ⌈y⌉ := by
  unfold intPart
  split
  · exact .inl rfl
  · exact .inr rfl

/-- An integer part is within one of `x` when both integers around its value are. -/
theorem abs_intPart_sub_lt {x y : ℚ} (hfl : |(⌊y⌋ : ℚ) - x| < 1) (hce : |(⌈y⌉ : ℚ) - x| < 1) :
    |(intPart y : ℚ) - x| < 1 := by
  rcases intPart_eq_floor_or_ceil y with h | h <;> rw [h] <;> assumption

/-- Rounding `x` within `[lo, hi]`, keeping the result within `[lo, hi]` and cutting off its
fraction lands less than one away from `x`: where an end is reached the rounding overshot it,
so `x` lies within a half of the integers on either side of that end. -/
theorem abs_intPart_clamp_round_sub_lt {x lo hi : ℚ} (hlo : lo ≤ x) (hhi : x ≤ hi) :
    |(intPart (Max.max lo (Min.min (roundHalfEven x : ℚ) hi)) : ℚ) - x| < 1 := by
  have hr := abs_le.mp (abs_roundHalfEven_sub_le x)
  by_cases hbelow : (roundHalfEven x : ℚ) < lo
  · -- the rounding fell below `lo`: `lo` is kept, and its floor is at least the rounding
    rw [min_eq_left (hbelow.le.trans (hlo.trans hhi)), max_eq_left hbelow.le]
    have hfl : roundHalfEven x ≤ ⌊lo⌋ := Int.le_floor.mpr hbelow.le
    have hce : roundHalfEven x < ⌈lo⌉ := Int.lt_ceil.mpr hbelow
    have hfl' : ((roundHalfEven x : ℤ) : ℚ) ≤ ⌊lo⌋ := by exact_mod_cast hfl
    have hce' : ((roundHalfEven x : ℤ) : ℚ) + 1 ≤ ⌈lo⌉ := by exact_mod_cast hce
    have h1 := Int.floor_le lo
    have h2 := Int.ceil_lt_add_one lo
    apply abs_intPart_sub_lt <;> rw [abs_lt] <;> constructor <;> linarith
  by_cases habove : hi < (roundHalfEven x : ℚ)
  · -- the rounding rose above `hi`: `hi` is kept, and its ceiling is at most the rounding
    rw [min_eq_right habove.le, max_eq_right (hlo.trans hhi)]
    have hce : ⌈hi⌉ ≤ roundHalfEven x := Int.ceil_le.mpr habove.le
    have hfl : ⌊hi⌋ < roundHalfEven x := Int.floor_lt.mpr habove
    have hce' : (⌈hi⌉ : ℚ) ≤ ((roundHalfEven x : ℤ) : ℚ) := by exact_mod_cast hce
    have hfl' : (⌊hi⌋ : ℚ) + 1 ≤ ((roundHalfEven x : ℤ) : ℚ) := by exact_mod_cast hfl
    have h1 := Int.le_ceil hi
    have h2 := Int.lt_floor_add_one hi
    apply abs_intPart_sub_lt <;> rw [abs_lt] <;> constructor <;> linarith
  · -- the rounding is within the ends and is an integer already
    rw [min_eq_left (not_lt.mp habove), max_eq_right (not_lt.mp hbelow), intPart_intCast]
    rw [abs_lt]
    constructor <;> linarith

/-- A point `v` of `[0, 1]` carried linearly from `p` to `q` lies between the two. -/
theorem segment_bounds {v : ℚ} (h0 : 0 ≤ v) (h1 : v ≤ 1) (p q : ℚ) :
    Min.min p q ≤ v * (q - p) + p ∧ v * (q - p) + p ≤ Max.max p q := by
  have hcombo : v * (q - p) + p = (1 - v) • p + v • q := by
    rw [smul_eq_mul, smul_eq_mul]
    ring
  rw [hcombo]
  exact ⟨Convex.min_le_combo p q (by linarith) h0 (by ring),
    Convex.combo_le_max p q (by linarith) h0 (by ring)⟩

/-- Clamping to a scale brings a native value no further from a point of the scale. -/
theorem Scale.abs_clamp_sub_le (s : Scale) {t : ℚ} (hlo : ((s.lower : ℤ) : ℚ) ≤ t)
    (hhi : t ≤ ((s.upper : ℤ) : ℚ)) (m : ℤ) : |((s.clamp m : ℤ) : ℚ) - t| ≤ |(m : ℚ) - t| := by
  have hle := s.lower_le_upper
  rcases lt_or_ge m s.lower with hm | hm
  · -- below the scale the lower end is kept, which lies between `m` and `t`
    have hc : s.clamp m = s.lower := by simp only [Scale.clamp]; omega
    have hm' : (m : ℚ) < s.lower := by exact_mod_cast hm
    rw [hc, abs_of_nonpos (by linarith), abs_of_neg (by linarith)]
    linarith
  rcases lt_or_ge s.upper m with hm2 | hm2
  · have hc : s.clamp m = s.upper := by simp only [Scale.clamp]; omega
    have hm' : ((s.upper : ℤ) : ℚ) < m := by exact_mod_cast hm2
    rw [hc, abs_of_nonneg (by linarith), abs_of_pos (by linarith)]
    linarith
  · have hc : s.clamp m = m := by simp only [Scale.clamp]; omega
    rw [hc]

/-! ### The tone conversions over the rationals -/

namespace Convert

open HostNumber

variable {s : Scale}

/-- The exact host level of a native tone value, when its distance from `min` and the signed
width are 32-bit values. -/
theorem toHostEq_exact (hs : s.validate = .ok ()) {n : ℤ} (hw : Fits32 (s.max - s.min))
    (hn : Fits32 (n - s.min)) :
    toHostEq n s = .ok (((n - s.min : ℤ) : ℚ) / ((s.max - s.min : ℤ) : ℚ)) :=
  toHostEq_of_fits hs hw hn

/-- A point of the scale lies no further from `min` than the other end: its distance from `min` is
a 32-bit value when the signed width is. -/
theorem fits32_sub_min_of_holds (hw : Fits32 (s.max - s.min)) {n : ℤ} (hn : s.Holds n) :
    Fits32 (n - s.min) := by
  obtain ⟨hlo, hhi⟩ := hn
  simp only [Scale.lower, Scale.upper] at hlo hhi
  unfold Fits32 at hw ⊢
  omega

/-- The exact steps to a 32-bit end, cut to an integer, times the step, lie between the end and
zero. -/
theorem fits32_intPart_div_mul {E S : ℤ} (hE : Fits32 E) (hS : 0 < S) :
    Fits32 (intPart ((E : ℚ) / S) * S) := by
  have hSq : (0 : ℚ) < S := by exact_mod_cast hS
  exact fits32_intPart_mul hE hS
    (fun hE0 => ⟨div_nonneg (by exact_mod_cast hE0) hSq.le, Int.lt_floor_add_one _⟩)
    (fun hE0 => ⟨div_nonpos_of_nonpos_of_nonneg (by exact_mod_cast hE0.le) hSq.le,
      sub_lt_iff_lt_add.mpr (Int.ceil_lt_add_one _)⟩)

/-- The ends `min / step` and `max / step` of a scale with 32-bit fields, and anything
between them, cut to a 32-bit integer part. -/
theorem saturate32_intPart (hw : s.Fields32) (hstep : 0 < s.step) {c : ℚ}
    (hlo : Min.min ((s.min : ℚ) / s.step) ((s.max : ℚ) / s.step) ≤ c)
    (hhi : c ≤ Max.max ((s.min : ℚ) / s.step) ((s.max : ℚ) / s.step)) :
    saturate32 (intPart c) = intPart c := by
  have hstep' : (1 : ℚ) ≤ s.step := by exact_mod_cast hstep
  -- dividing by a step of at least one keeps an end within the 32-bit range
  have hend : ∀ e : ℤ, Fits32 e →
      (-2147483648 : ℚ) ≤ (e : ℚ) / s.step ∧ (e : ℚ) / s.step ≤ 2147483647 := by
    intro e ⟨he1, he2⟩
    have he1' : (-2147483648 : ℚ) ≤ e := by exact_mod_cast he1
    have he2' : (e : ℚ) ≤ 2147483647 := by exact_mod_cast he2
    have hpos : (0 : ℚ) < s.step := by linarith
    constructor
    · rw [le_div_iff₀ hpos]
      nlinarith
    · rw [div_le_iff₀ hpos]
      nlinarith
  obtain ⟨hmin1, hmin2⟩ := hend s.min hw.min
  obtain ⟨hmax1, hmax2⟩ := hend s.max hw.max
  have hc1 : ((-2147483648 : ℤ) : ℚ) ≤ c := by
    push_cast
    exact (le_min hmin1 hmax1).trans hlo
  have hc2 : c ≤ ((2147483647 : ℤ) : ℚ) := by
    push_cast
    exact hhi.trans (max_le hmin2 hmax2)
  have hp1 := intPart_mono hc1
  have hp2 := intPart_mono hc2
  rw [intPart_intCast] at hp1 hp2
  unfold saturate32
  omega

/-- The exact native tone value of a host level: the level scaled to whole steps, rounded, kept
within the ends, cut to its integer part, multiplied by the step and clamped. -/
theorem toDeviceEq_exact (hs : s.validate = .ok ()) (hw : s.Fields32) (v : ℚ) :
    toDeviceEq v s = .ok (s.clamp (intPart
      (Max.max (Min.min ((s.min : ℚ) / s.step) ((s.max : ℚ) / s.step))
      (Min.min (ZoneBridge.roundHalfEven
          (v * ((s.max : ℚ) / s.step - (s.min : ℚ) / s.step) + (s.min : ℚ) / s.step) : ℚ)
        (Max.max ((s.min : ℚ) / s.step) ((s.max : ℚ) / s.step)))) * s.step)) := by
  have hstep := (Scale.validate_eq_ok.mp hs).1
  have hle : Min.min ((s.min : ℚ) / s.step) ((s.max : ℚ) / s.step) ≤
      Max.max ((s.min : ℚ) / s.step) ((s.max : ℚ) / s.step) := min_le_max
  -- the kept steps lie between the ends in steps, so their product with the step fits
  have hfit := fits32_intPart_mul_of_between hstep (fits32_intPart_div_mul hw.min hstep)
    (fits32_intPart_div_mul hw.max hstep) (le_max_left _ _) (max_le hle (min_le_right
      (ZoneBridge.roundHalfEven
        (v * ((s.max : ℚ) / s.step - (s.min : ℚ) / s.step) + (s.min : ℚ) / s.step) : ℚ) _))
  simp only [toDeviceEq, hs, finite, exact_nonFinite, exact_ofInt, exact_roundEven, exact_min,
    exact_max, exact_clamp hle, exact_toInt32, Outcome.ofRange_ok, bind, Except.bind, pure,
    Except.pure]
  rw [saturate32_intPart hw hstep (le_max_left _ _) (max_le hle (min_le_right _ _))]
  simp only [Native.mul, Native.checked_of_fits hfit]

/-- In exact arithmetic, a host level of `[0, 1]` sent to a tone scale whose signed width is a
32-bit value and read back lands less than one step, measured on the host scale, from where it
started: on either orientation of the scale, and with ends that need not lie on the step grid. -/
theorem exact_tone_trip_within_step (s : Scale) (hs : s.validate = .ok ()) (hw : s.Fields32)
    (hwd : Fits32 (s.max - s.min)) (v : ℚ) (h0 : 0 ≤ v) (h1 : v ≤ 1) :
    ∃ (n : ℤ) (x : ℚ), toDeviceEq v s = .ok n ∧ toHostEq n s = .ok x ∧
      |x - v| < s.step / |((s.max - s.min : ℤ) : ℚ)| := by
  obtain ⟨hstep, hne⟩ := Scale.validate_eq_ok.mp hs
  refine ⟨_, _, toDeviceEq_exact hs hw v,
    toHostEq_exact hs hwd (fits32_sub_min_of_holds hwd (Scale.holds_clamp s _)), ?_⟩
  have hstep' : (0 : ℚ) < s.step := by exact_mod_cast hstep
  have hwidth : ((s.max - s.min : ℤ) : ℚ) ≠ 0 := by
    have : s.max - s.min ≠ 0 := sub_ne_zero.mpr (Ne.symm hne)
    exact_mod_cast this
  -- the level in steps lies between the ends in steps, and its integer part is within one of it
  obtain ⟨hylo, hyhi⟩ := segment_bounds h0 h1 ((s.min : ℚ) / s.step) ((s.max : ℚ) / s.step)
  set y : ℚ := v * ((s.max : ℚ) / s.step - (s.min : ℚ) / s.step) + (s.min : ℚ) / s.step with hy
  have hk := abs_intPart_clamp_round_sub_lt hylo hyhi
  set k := intPart (Max.max (Min.min ((s.min : ℚ) / s.step) ((s.max : ℚ) / s.step))
    (Min.min (ZoneBridge.roundHalfEven y : ℚ)
      (Max.max ((s.min : ℚ) / s.step) ((s.max : ℚ) / s.step))))
  -- the native value aimed at, `t`, is `y` steps; the grid point reached is less than a step off
  set t : ℚ := v * ((s.max - s.min : ℤ) : ℚ) + s.min with ht
  have hyt : y * s.step = t := by
    rw [hy, ht]
    field_simp
    push_cast
    ring
  have hkt : |((k * s.step : ℤ) : ℚ) - t| < s.step := by
    have : ((k * s.step : ℤ) : ℚ) - t = ((k : ℚ) - y) * s.step := by
      rw [← hyt]
      push_cast
      ring
    rw [this, abs_mul, abs_of_pos hstep']
    calc |(k : ℚ) - y| * s.step < 1 * s.step := by gcongr
      _ = s.step := one_mul _
  -- `t` lies on the scale, so clamping the grid point brings it no further from `t`
  obtain ⟨htmin, htmax⟩ := segment_bounds h0 h1 (s.min : ℚ) (s.max : ℚ)
  have htlo : ((s.lower : ℤ) : ℚ) ≤ t := by
    simp only [Scale.lower, Int.cast_min, ht]
    push_cast
    linarith
  have hthi : t ≤ ((s.upper : ℤ) : ℚ) := by
    simp only [Scale.upper, Int.cast_max, ht]
    push_cast
    linarith
  have hn := s.abs_clamp_sub_le htlo hthi (k * s.step)
  -- the way back is linear: the host error is the native error over the width
  have hback : ((s.clamp (k * s.step) - s.min : ℤ) : ℚ) / ((s.max - s.min : ℤ) : ℚ) - v =
      (((s.clamp (k * s.step) : ℤ) : ℚ) - t) / ((s.max - s.min : ℤ) : ℚ) := by
    rw [ht]
    field_simp
    push_cast
    ring
  rw [hback, abs_div]
  exact div_lt_div_of_pos_right (hn.trans_lt hkt) (abs_pos.mpr hwidth)

/-- On `{-17, 17, 2}`, whose ends are off the grid of multiples of the step, the level `0` goes to
`-16` and comes back as `1 / 34`, within the step `2 / 34`. -/
theorem exact_tone_trip_within_step_odd_ends :
    (⟨-17, 17, 2⟩ : Scale).validate = .ok () ∧ (⟨-17, 17, 2⟩ : Scale).Fields32 ∧
      Fits32 ((⟨-17, 17, 2⟩ : Scale).max - (⟨-17, 17, 2⟩ : Scale).min) ∧ (0 : ℚ) ≤ 0 ∧ (0 : ℚ) ≤ 1 ∧
      ∃ (n : ℤ) (x : ℚ), toDeviceEq (0 : ℚ) ⟨-17, 17, 2⟩ = .ok n ∧
        toHostEq n ⟨-17, 17, 2⟩ = .ok x ∧
        |x - 0| < (⟨-17, 17, 2⟩ : Scale).step /
          |(((⟨-17, 17, 2⟩ : Scale).max - (⟨-17, 17, 2⟩ : Scale).min : ℤ) : ℚ)| := by
  have hw : (⟨-17, 17, 2⟩ : Scale).Fields32 := ⟨by decide, by decide, by decide⟩
  have hwd : Fits32 ((⟨-17, 17, 2⟩ : Scale).max - (⟨-17, 17, 2⟩ : Scale).min) := by decide
  exact ⟨rfl, hw, hwd, le_rfl, zero_le_one,
    exact_tone_trip_within_step ⟨-17, 17, 2⟩ rfl hw hwd 0 le_rfl zero_le_one⟩

end Convert

end ZoneBridge
