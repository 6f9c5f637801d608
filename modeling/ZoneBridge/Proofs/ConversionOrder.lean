import Mathlib
import ZoneBridge.Proofs.FloatOrder
import ZoneBridge.Proofs.RoundTrips

/-!
# The conversions keep the order of host values

On a usable scale whose ends and step are 32-bit integers (`Scale.Fields32`), every conversion
from the host side succeeds on finite floats, and between two host values `h₁ ≤ h₂` it keeps
their order or turns it around, as the orientation of its scale says (`OkLe`):

* the signed conversion keeps it, and the attenuation conversion turns it around;
* the tone conversion keeps it when `min < max` and turns it around when `max < min`;
* the volume conversion turns it around when the quiet end `min` is above zero, and keeps it
  when it is below;
* on a scale whose top is not below zero, the signed value of a balance reading (`-m` on the
  left, `0` at the centre, `m` on the right) keeps it, a negated host value gives the mirrored
  reading, and the centre is the reading of magnitude zero.

Each floating-point step on the way is correctly rounded and may overflow to an infinity; the
order argument runs on the keys of `ZoneBridge.Proofs.FloatOrder`, one lemma per conversion. Main
statement: `Convert.conversions_keep_order`.
-/

namespace ZoneBridge

/-- A scale as its 32-bit fields hold it: both ends and the step are 32-bit integers. -/
structure Scale.Fields32 (s : Scale) : Prop where
  min : Fits32 s.min
  max : Fits32 s.max
  step : Fits32 s.step

namespace Scale

variable {s : Scale}

theorem Fields32.lower (hw : s.Fields32) : Fits32 s.lower := by
  have := hw.min
  have := hw.max
  simp only [Scale.lower, Fits32] at *
  omega

theorem Fields32.upper (hw : s.Fields32) : Fits32 s.upper := by
  have := hw.min
  have := hw.max
  simp only [Scale.upper, Fits32] at *
  omega

/-- The width of such a scale is at most `2 ^ 32`, short of what binary64 holds exactly. -/
theorem Fields32.width (hw : s.Fields32) :
    -4294967296 ≤ s.upper - s.lower ∧ s.upper - s.lower ≤ 4294967296 := by
  have := hw.lower
  have := hw.upper
  unfold Fits32 at *
  omega

theorem clamp_mono (s : Scale) : Monotone s.clamp := by
  intro m n h
  simp only [clamp]
  omega

/-- The whole steps that cover the width of a scale: the width over the step, rounded up. -/
def coveringSteps (s : Scale) : ℤ := (s.upper - s.lower + s.step - 1) / s.step

/-- The covering steps span the width. -/
theorem width_le_coveringSteps_mul (hS : 0 < s.step) :
    s.upper - s.lower ≤ s.coveringSteps * s.step := by
  have h := Int.mul_ediv_add_emod (s.upper - s.lower + s.step - 1) s.step
  have hr := Int.emod_lt_of_pos (s.upper - s.lower + s.step - 1) hS
  unfold coveringSteps
  rw [mul_comm]
  omega

end Scale

/-- A scale on which the signed conversion cannot overflow: its width is a 32-bit value, and so
are the offset of the covering steps and the point of the grid at that offset, the farthest the
conversion reaches from the lower end. -/
structure Scale.SignedFits (s : Scale) : Prop where
  width : Fits32 (s.upper - s.lower)
  offset : s.coveringSteps * s.step ≤ 2147483647
  top : s.lower + s.coveringSteps * s.step ≤ 2147483647

namespace Scale.SignedFits

variable {s : Scale}

/-- The covering steps are a 32-bit count not below zero. -/
theorem coveringSteps_bounds (hv : s.validate = .ok ()) (hsf : s.SignedFits) :
    0 ≤ s.coveringSteps ∧ s.coveringSteps ≤ 2147483647 := by
  have hS := (Scale.validate_eq_ok.mp hv).1
  have hw0 := sub_nonneg.mpr (s.lower_lt_upper hv).le
  have hwc := s.width_le_coveringSteps_mul hS
  have hc0 : 0 ≤ s.coveringSteps := by
    by_contra hneg
    have := mul_neg_of_neg_of_pos (not_le.mp hneg) hS
    omega
  exact ⟨hc0, (le_mul_of_one_le_right hc0 (by omega)).trans hsf.offset⟩

/-- The width in steps, rounded to binary64 and then up, lies between zero and the covering
steps. -/
theorem ceil_widthSteps (hv : s.validate = .ok ()) (hsf : s.SignedFits) :
    0 ≤ ⌈nearest64 (((s.upper - s.lower : ℤ) : ℚ) / s.step)⌉ ∧
      ⌈nearest64 (((s.upper - s.lower : ℤ) : ℚ) / s.step)⌉ ≤ s.coveringSteps := by
  have hS := (Scale.validate_eq_ok.mp hv).1
  have hSq : (0 : ℚ) < s.step := by exact_mod_cast hS
  obtain ⟨hc0, hc32⟩ := hsf.coveringSteps_bounds hv
  have hdiv : (((s.upper - s.lower : ℤ) : ℚ) / s.step) ≤ s.coveringSteps := by
    rw [div_le_iff₀ hSq]
    exact_mod_cast s.width_le_coveringSteps_mul hS
  have hw0 : (0 : ℚ) ≤ ((s.upper - s.lower : ℤ) : ℚ) := by
    exact_mod_cast sub_nonneg.mpr (s.lower_lt_upper hv).le
  have hq0 : 0 ≤ nearest64 (((s.upper - s.lower : ℤ) : ℚ) / s.step) :=
    nearest64_zero ▸ nearest64_mono (div_nonneg hw0 hSq.le)
  exact ⟨Int.ceil_nonneg hq0,
    Int.ceil_le.mpr (nearest64_le_of_le (Float.exact64_of_fits32 ⟨by omega, hc32⟩) hdiv)⟩

end Scale.SignedFits

/-- A value within `2 ^ 31` rounds to one within `2 ^ 31`: the bound is a binary64 value. -/
theorem abs_nearest64_le_two_pow_31 {x : ℚ} (h : |x| ≤ 2 ^ 31) : |nearest64 x| ≤ 2 ^ 31 := by
  have hk : (2 : ℚ) ^ 31 = ((2147483648 : ℤ) : ℚ) := by norm_num
  have he := exact64_intCast (k := 2147483648) (by norm_num)
  have he' := exact64_intCast (k := -2147483648) (by norm_num)
  rw [hk] at h ⊢
  rw [Int.cast_neg] at he'
  obtain ⟨h1, h2⟩ := abs_le.mp h
  exact abs_le.mpr ⟨le_nearest64_of_le he' h1, nearest64_le_of_le he h2⟩

/-! ### Steps that keep their products within 32 bits -/

/-- Rounding the quotient of an integer of size at most `2 ^ 31` by a positive 32-bit step to
binary64 stays below the next integer: the error, a part in `2 ^ 53` of the quotient, is less
than the `1 / S` that separates the quotient from any integer above it. -/
theorem nearest64_div_lt_floor_add_one {U S : ℤ} (hU : |U| ≤ 2147483648) (hS : 0 < S)
    (hS32 : S ≤ 2147483647) : nearest64 ((U : ℚ) / S) < ⌊(U : ℚ) / S⌋ + 1 := by
  have hSq : (0 : ℚ) < S := by exact_mod_cast hS
  -- the next integer lies at least `1 / S` above the quotient
  have hnext : U + 1 ≤ (⌊(U : ℚ) / S⌋ + 1) * S := by
    have h : (U : ℚ) < (⌊(U : ℚ) / S⌋ + 1) * S := (div_lt_iff₀ hSq).mp (Int.lt_floor_add_one _)
    exact Int.add_one_le_iff.mpr (by exact_mod_cast h)
  have hgap : (U : ℚ) / S + 1 / S ≤ ⌊(U : ℚ) / S⌋ + 1 := by
    rw [← add_div, div_le_iff₀ hSq]
    exact_mod_cast hnext
  -- and the rounding error is less than `1 / S`
  have hUq : |(U : ℚ)| ≤ 2 ^ 31 := by
    rw [← Int.cast_abs]
    have : ((|U| : ℤ) : ℚ) ≤ 2147483648 := by exact_mod_cast hU
    linarith
  have hxS : |(U : ℚ) / S| * S = |(U : ℚ)| := by
    rw [abs_div, abs_of_pos hSq]
    field_simp
  have herr : |nearest64 ((U : ℚ) / S) - (U : ℚ) / S| < 1 / S :=
    calc |nearest64 ((U : ℚ) / S) - (U : ℚ) / S| ≤ (|(U : ℚ) / S| + 1) / 2 ^ 53 :=
          abs_nearest64_sub_le_succ _
      _ < 1 / S := by
        rw [div_lt_div_iff₀ (by positivity) hSq, add_mul, hxS, one_mul]
        have : (S : ℚ) ≤ 2147483647 := by exact_mod_cast hS32
        linarith
  linarith [(abs_lt.mp herr).2]

/-- The mirror image: rounding the quotient stays above the next integer below it. -/
theorem ceil_sub_one_lt_nearest64_div {U S : ℤ} (hU : |U| ≤ 2147483648) (hS : 0 < S)
    (hS32 : S ≤ 2147483647) : ⌈(U : ℚ) / S⌉ - 1 < nearest64 ((U : ℚ) / S) := by
  have h := nearest64_div_lt_floor_add_one (U := -U) (by rwa [abs_neg]) hS hS32
  rw [Int.cast_neg, neg_div, nearest64_neg, Int.floor_neg] at h
  push_cast at h
  linarith

/-- The integer part of `q`, times a positive step `S`, lies between a 32-bit `E` and zero when
`q` lies on the side of zero that `E` does and short of the integer beyond `E / S`: a 32-bit
value. -/
theorem fits32_intPart_mul {E S : ℤ} {q : ℚ} (hE : Fits32 E) (hS : 0 < S)
    (hpos : 0 ≤ E → 0 ≤ q ∧ q < ⌊(E : ℚ) / S⌋ + 1)
    (hneg : E < 0 → q ≤ 0 ∧ ⌈(E : ℚ) / S⌉ - 1 < q) :
    Fits32 (intPart q * S) := by
  have hSq : (0 : ℚ) < S := by exact_mod_cast hS
  unfold Fits32 at hE ⊢
  by_cases hE0 : 0 ≤ E
  · -- from zero up to the floor of `E / S` steps, which stay at most `E`
    obtain ⟨hq, hlt⟩ := hpos hE0
    have hfl : ⌊q⌋ ≤ ⌊(E : ℚ) / S⌋ :=
      Int.lt_add_one_iff.mp (Int.floor_lt.mpr (by exact_mod_cast hlt))
    have hfE : ⌊(E : ℚ) / S⌋ * S ≤ E := by
      have h := Int.floor_le ((E : ℚ) / S)
      rw [le_div_iff₀ hSq] at h
      exact_mod_cast h
    have h0 := mul_nonneg (Int.floor_nonneg.mpr hq) hS.le
    have h1 := mul_le_mul_of_nonneg_right hfl hS.le
    rw [intPart, if_pos hq]
    omega
  · -- from the ceiling of `E / S` steps, which stay at least `E`, up to zero
    obtain ⟨hq, hgt⟩ := hneg (not_le.mp hE0)
    have hcl : ⌈(E : ℚ) / S⌉ ≤ ⌈q⌉ :=
      Int.sub_one_lt_iff.mp (Int.lt_ceil.mpr (by exact_mod_cast hgt))
    have hcE : E ≤ ⌈(E : ℚ) / S⌉ * S := by
      have h := Int.le_ceil ((E : ℚ) / S)
      rw [div_le_iff₀ hSq] at h
      exact_mod_cast h
    have h0 := mul_nonpos_of_nonpos_of_nonneg (Int.ceil_le.mpr (by simpa using hq)) hS.le
    have h1 := mul_le_mul_of_nonneg_right hcl hS.le
    unfold intPart
    split_ifs with hq0
    · rw [le_antisymm hq hq0, Int.floor_zero, zero_mul]
      omega
    · omega

/-- The steps to a 32-bit end `E` of a scale, computed in binary64 and cut to an integer, times
the step, lie between `E` and zero. -/
theorem fits32_intPart_nearest64_div_mul {E S : ℤ} (hE : Fits32 E) (hS : 0 < S) (hS32 : Fits32 S) :
    Fits32 (intPart (nearest64 ((E : ℚ) / S)) * S) := by
  have hSq : (0 : ℚ) < S := by exact_mod_cast hS
  have hEa : |E| ≤ 2147483648 := by
    unfold Fits32 at hE
    exact abs_le.mpr ⟨by omega, by omega⟩
  refine fits32_intPart_mul hE hS
    (fun hE0 => ⟨?_, nearest64_div_lt_floor_add_one hEa hS hS32.2⟩)
    (fun hE0 => ⟨?_, ceil_sub_one_lt_nearest64_div hEa hS hS32.2⟩)
  · exact nearest64_zero ▸ nearest64_mono (div_nonneg (by exact_mod_cast hE0) hSq.le)
  · exact nearest64_zero ▸ nearest64_mono
      (div_nonpos_of_nonpos_of_nonneg (by exact_mod_cast hE0.le) hSq.le)

/-- The integer part of a value between two others, times a positive step, lies between their
products: a 32-bit value when both of those are. -/
theorem fits32_intPart_mul_of_between {S : ℤ} {q₁ q₂ c : ℚ} (hS : 0 < S)
    (h₁ : Fits32 (intPart q₁ * S)) (h₂ : Fits32 (intPart q₂ * S))
    (hlo : min q₁ q₂ ≤ c) (hhi : c ≤ max q₁ q₂) : Fits32 (intPart c * S) := by
  have hl : min (intPart q₁) (intPart q₂) ≤ intPart c := by
    rw [← intPart_mono.map_min]
    exact intPart_mono hlo
  have hh : intPart c ≤ max (intPart q₁) (intPart q₂) := by
    rw [← intPart_mono.map_max]
    exact intPart_mono hhi
  have h1 := mul_le_mul_of_nonneg_right hl hS.le
  have h2 := mul_le_mul_of_nonneg_right hh hS.le
  unfold Fits32 at h₁ h₂ ⊢
  rcases min_choice (intPart q₁) (intPart q₂) with hm | hm <;>
    rcases max_choice (intPart q₁) (intPart q₂) with hM | hM <;>
    rw [hm] at h1 <;> rw [hM] at h2 <;> omega

namespace Convert

open ZoneBridge.Float

/-- Both conversions succeed, the first with a result no larger than the second. -/
def OkLe {ε : Type} (a b : Except ε Int) : Prop := ∃ m n, a = .ok m ∧ b = .ok n ∧ m ≤ n

variable {s : Scale} {h₁ h₂ : Float} {p₁ p₂ : ℚ}

/-! ### Signed values and attenuations -/

/-- The steps the signed conversion takes from the lower end, clamped between zero and the
rounded-up steps of the width and cut to an integer, lie between zero and the covering steps. -/
theorem signedSteps_le_coveringSteps (hv : s.validate = .ok ()) (hw : s.Fields32)
    (hsf : s.SignedFits) {x : Float} {a : ℚ} (hx : Key x a) :
    0 ≤ toInt32 (HostNumber.clamp x (ofInt 0) (ceil (ofInt (s.upper - s.lower) / ofInt s.step))) ∧
      toInt32 (HostNumber.clamp x (ofInt 0) (ceil (ofInt (s.upper - s.lower) / ofInt s.step))) ≤
        s.coveringSteps := by
  have hS := (Scale.validate_eq_ok.mp hv).1
  have hSq : (0 : ℚ) < s.step := by exact_mod_cast hS
  have hwidth := hsf.width
  have hstep := hw.step
  unfold Fits32 at hwidth hstep
  obtain ⟨hc0, hc32⟩ := hsf.coveringSteps_bounds hv
  obtain ⟨hM0, hceil⟩ := hsf.ceil_widthSteps hv
  have hM := (val_ofInt_of_fits32 hsf.width).div (val_ofInt_of_fits32 hw.step) hSq.ne'
    ((abs_div_intCast_le _ hS).trans (abs_intCast_le (by omega)))
  rw [(hx.clamp (val_ofInt_of_le (n := 0) (by omega)).key hM.ceil.key).toInt32_eq]
  -- the clamp keeps the steps between zero and the rounded-up width in steps
  have hk0 := intPart_mono (le_min (le_max_right a ((0 : ℤ) : ℚ))
    (show ((0 : ℤ) : ℚ) ≤ ((⌈nearest64 (((s.upper - s.lower : ℤ) : ℚ) / s.step)⌉ : ℤ) : ℚ) by
      exact_mod_cast hM0))
  have hk1 := intPart_mono (min_le_right (max a ((0 : ℤ) : ℚ))
    ((⌈nearest64 (((s.upper - s.lower : ℤ) : ℚ) / s.step)⌉ : ℤ) : ℚ))
  rw [intPart_intCast] at hk0 hk1
  replace hk1 := hk1.trans hceil
  rw [saturate32_of_fits32 ⟨by omega, by omega⟩]
  exact ⟨hk0, hk1⟩

/-- On a scale where it cannot overflow, a count of steps between zero and the covering steps
gives an offset, and a point at that offset, computed without overflow. -/
theorem signedOffset_of_le (hsf : s.SignedFits) (hlow : Fits32 s.lower) (hS : 0 < s.step)
    {k : ℤ} (hk0 : 0 ≤ k) (hk : k ≤ s.coveringSteps) :
    Native.mul k s.step = .ok (k * s.step) ∧
      Native.add s.lower (k * s.step) = .ok (s.lower + k * s.step) := by
  have h0 := mul_nonneg hk0 hS.le
  have h1 := mul_le_mul_of_nonneg_right hk hS.le
  have := hsf.offset
  have := hsf.top
  unfold Fits32 at hlow
  exact ⟨Native.checked_of_fits ⟨by omega, by omega⟩, Native.checked_of_fits ⟨by omega, by omega⟩⟩

/-- The signed conversion keeps the order, on a scale where it cannot overflow: the steps from
the lower end keep it through rounding, the clamp and the cut to an integer. -/
theorem toDeviceSigned_le (hv : s.validate = .ok ()) (hw : s.Fields32) (hsf : s.SignedFits)
    (hp₁ : Val h₁ p₁) (hp₂ : Val h₂ p₂) (hle : p₁ ≤ p₂) :
    OkLe (toDeviceSigned h₁ s) (toDeviceSigned h₂ s) := by
  have hS := (Scale.validate_eq_ok.mp hv).1
  have hSq : (0 : ℚ) < s.step := by exact_mod_cast hS
  have hSv := val_ofInt_of_fits32 hw.step
  -- the steps from the lower end to the upper end, rounded up, bound the clamp
  have hM := (val_ofInt_of_le hw.width).div hSv hSq.ne'
    ((abs_div_intCast_le _ hS).trans (abs_intCast_le hw.width))
  have hround := (((Below.of_val hp₁ hp₂ hle).sub (val_ofInt_of_fits32 hw.lower)).div hSv
    hSq).roundEven
  have hsteps := hround.clamp (val_ofInt_of_le (n := 0) (by omega)).key hM.ceil.key
  -- each side's steps give an offset and a point that fit 32 bits
  obtain ⟨a₁, a₂, ha₁, ha₂, -⟩ := hround
  obtain ⟨hk₁, hc₁⟩ := signedSteps_le_coveringSteps hv hw hsf ha₁
  obtain ⟨hk₂, hc₂⟩ := signedSteps_le_coveringSteps hv hw hsf ha₂
  obtain ⟨hm₁, hp₁'⟩ := signedOffset_of_le hsf hw.lower hS hk₁ hc₁
  obtain ⟨hm₂, hp₂'⟩ := signedOffset_of_le hsf hw.lower hS hk₂ hc₂
  simp only [toDeviceSigned, hv, Native.sub, Native.checked_of_fits hsf.width, finite_of_val hp₁,
    finite_of_val hp₂, host_ofInt, host_roundEven, host_ceil, host_toInt32, Outcome.ofRange_ok,
    bind, Except.bind, pure, Except.pure, hm₁, hm₂, hp₁', hp₂']
  exact ⟨_, _, rfl, rfl,
    s.clamp_mono (add_le_add le_rfl (mul_le_mul_of_nonneg_right hsteps.toInt32_le hS.le))⟩

/-- The attenuation conversion turns the order around: it negates the host value first. -/
theorem toDeviceAttenuation_ge (hv : s.validate = .ok ()) (hp₁ : Val h₁ p₁) (hp₂ : Val h₂ p₂)
    (hle : p₁ ≤ p₂) : OkLe (toDeviceAttenuation h₂ s) (toDeviceAttenuation h₁ s) := by
  have hb := (Below.of_val hp₂.neg hp₁.neg (neg_le_neg hle)).roundEven
  simp only [toDeviceAttenuation, hv, finite_of_val hp₁, finite_of_val hp₂, host_roundEven,
    host_toInt32, bind, Except.bind, pure, Except.pure]
  exact ⟨_, _, rfl, rfl, s.clamp_mono hb.toInt32_le⟩

/-! ### Tone -/

/-- The ends of a scale counted in steps, as the tone conversion computes them, and the width
between them: each the binary64 rounding of its exact value. -/
theorem val_stepEnds (hv : s.validate = .ok ()) (hw : s.Fields32) :
    Val (ofInt s.min / ofInt s.step) (nearest64 ((s.min : ℚ) / s.step)) ∧
      Val (ofInt s.max / ofInt s.step) (nearest64 ((s.max : ℚ) / s.step)) ∧
      Val (ofInt s.max / ofInt s.step - ofInt s.min / ofInt s.step)
        (nearest64 (nearest64 ((s.max : ℚ) / s.step) - nearest64 ((s.min : ℚ) / s.step))) := by
  have hS := (Scale.validate_eq_ok.mp hv).1
  have hSq : (0 : ℚ) < s.step := by exact_mod_cast hS
  have hSv := val_ofInt_of_fits32 hw.step
  have hα := (abs_div_intCast_le (s.min : ℚ) hS).trans (abs_intCast_le_two_pow_31 hw.min)
  have hβ := (abs_div_intCast_le (s.max : ℚ) hS).trans (abs_intCast_le_two_pow_31 hw.max)
  have va := (val_ofInt_of_fits32 hw.min).div hSv hSq.ne' (le_two_pow_64 hα (by norm_num))
  have vb := (val_ofInt_of_fits32 hw.max).div hSv hSq.ne' (le_two_pow_64 hβ (by norm_num))
  -- the rounded ends stay within `2 ^ 31`, so their difference is within `2 ^ 32`
  have hd : |nearest64 ((s.max : ℚ) / s.step) - nearest64 ((s.min : ℚ) / s.step)| ≤ 2 ^ 32 :=
    (abs_sub _ _).trans (by
      linarith [abs_nearest64_le_two_pow_31 hα, abs_nearest64_le_two_pow_31 hβ])
  exact ⟨va, vb, vb.sub va (le_two_pow_64 hd (by norm_num))⟩

/-- The steps the tone conversion multiplies by the step, clamped between the ends counted in
steps and cut to an integer, keep the product within 32 bits: it lies between the products of
the two ends, each between its end and zero. -/
theorem fits32_toInt32_eqSteps_mul (hv : s.validate = .ok ()) (hw : s.Fields32) {x : Float}
    {a : ℚ} (hx : Key x a) :
    Fits32 (toInt32 (HostNumber.clamp x
      (HostNumber.min (ofInt s.min / ofInt s.step) (ofInt s.max / ofInt s.step))
      (HostNumber.max (ofInt s.min / ofInt s.step) (ofInt s.max / ofInt s.step))) * s.step) := by
  have hS := (Scale.validate_eq_ok.mp hv).1
  obtain ⟨va, vb, -⟩ := val_stepEnds hv hw
  rw [(hx.clamp (va.hostMin vb).key (va.hostMax vb).key).toInt32_eq]
  -- the clamped steps lie between the two ends in steps, whose products fit
  have hkS := fits32_intPart_mul_of_between hS (fits32_intPart_nearest64_div_mul hw.min hS hw.step)
    (fits32_intPart_nearest64_div_mul hw.max hS hw.step) (le_min (le_max_right a _) min_le_max)
    (min_le_right (max a _) _)
  rw [saturate32_of_fits32 (fits32_of_mul hS (by rw [mul_comm]; exact hkS))]
  exact hkS

/-- The tone conversion keeps any order of the host values scaled by the width in steps: the
rest of the way adds the lower end, rounds, clamps, cuts and scales by the positive step, which
never overflows. -/
theorem toDeviceEq_of_below (hv : s.validate = .ok ()) (hw : s.Fields32) (hp₁ : Val h₁ p₁)
    (hp₂ : Val h₂ p₂)
    (hb : Below (h₁ * (ofInt s.max / ofInt s.step - ofInt s.min / ofInt s.step))
      (h₂ * (ofInt s.max / ofInt s.step - ofInt s.min / ofInt s.step))) :
    OkLe (toDeviceEq h₁ s) (toDeviceEq h₂ s) := by
  have hS := (Scale.validate_eq_ok.mp hv).1
  obtain ⟨va, vb, -⟩ := val_stepEnds hv hw
  have hround := (hb.add va).roundEven
  have hsteps := hround.clamp (va.hostMin vb).key (va.hostMax vb).key
  obtain ⟨a₁, a₂, ha₁, ha₂, -⟩ := hround
  simp only [toDeviceEq, hv, finite_of_val hp₁, finite_of_val hp₂, host_ofInt, host_roundEven,
    host_toInt32, Outcome.ofRange_ok, bind, Except.bind, pure, Except.pure, Native.mul,
    Native.checked_of_fits (fits32_toInt32_eqSteps_mul hv hw ha₁),
    Native.checked_of_fits (fits32_toInt32_eqSteps_mul hv hw ha₂)]
  exact ⟨_, _, rfl, rfl, s.clamp_mono (mul_le_mul_of_nonneg_right hsteps.toInt32_le hS.le)⟩

/-- On a rising scale the width in steps is not negative, and the tone conversion keeps the
order. -/
theorem toDeviceEq_le (hv : s.validate = .ok ()) (hw : s.Fields32) (hp₁ : Val h₁ p₁)
    (hp₂ : Val h₂ p₂) (hle : p₁ ≤ p₂) (hlt : s.min < s.max) :
    OkLe (toDeviceEq h₁ s) (toDeviceEq h₂ s) := by
  have hSq : (0 : ℚ) < s.step := by exact_mod_cast (Scale.validate_eq_ok.mp hv).1
  obtain ⟨-, -, vD⟩ := val_stepEnds hv hw
  have hends : nearest64 ((s.min : ℚ) / s.step) ≤ nearest64 ((s.max : ℚ) / s.step) :=
    nearest64_mono (div_le_div_of_nonneg_right (by exact_mod_cast hlt.le) hSq.le)
  have hD : 0 ≤ nearest64 (nearest64 ((s.max : ℚ) / s.step) - nearest64 ((s.min : ℚ) / s.step)) :=
    nearest64_zero ▸ nearest64_mono (sub_nonneg.mpr hends)
  exact toDeviceEq_of_below hv hw hp₁ hp₂ (hp₁.below_mul hp₂ hle vD hD)

/-- On a falling scale the width in steps is not positive, and the tone conversion turns the
order around. -/
theorem toDeviceEq_ge (hv : s.validate = .ok ()) (hw : s.Fields32) (hp₁ : Val h₁ p₁)
    (hp₂ : Val h₂ p₂) (hle : p₁ ≤ p₂) (hgt : s.max < s.min) :
    OkLe (toDeviceEq h₂ s) (toDeviceEq h₁ s) := by
  have hSq : (0 : ℚ) < s.step := by exact_mod_cast (Scale.validate_eq_ok.mp hv).1
  obtain ⟨-, -, vD⟩ := val_stepEnds hv hw
  have hends : nearest64 ((s.max : ℚ) / s.step) ≤ nearest64 ((s.min : ℚ) / s.step) :=
    nearest64_mono (div_le_div_of_nonneg_right (by exact_mod_cast hgt.le) hSq.le)
  have hD : nearest64 (nearest64 ((s.max : ℚ) / s.step) - nearest64 ((s.min : ℚ) / s.step)) ≤ 0 :=
    nearest64_zero ▸ nearest64_mono (sub_nonpos.mpr hends)
  exact toDeviceEq_of_below hv hw hp₂ hp₁ (hp₁.below_mul_of_nonpos hp₂ hle vD hD)

/-! ### Volume -/

/-- The volume conversion keeps any order of `floor - h · floor`, the native value before
rounding. -/
theorem toDeviceVolume_of_below (hv : s.validate = .ok ()) (hmin : s.min ≠ 0) (hp₁ : Val h₁ p₁)
    (hp₂ : Val h₂ p₂)
    (hb : Below (ofInt s.min - h₁ * ofInt s.min) (ofInt s.min - h₂ * ofInt s.min)) :
    OkLe (toDeviceVolume h₁ s) (toDeviceVolume h₂ s) := by
  have hfloor : (volumeFloor s : Except RangeFault Float) = .ok (ofInt s.min) := by
    simp [volumeFloor, hv, hmin, bind, Except.bind, pure, Except.pure]
  simp only [toDeviceVolume, hfloor, finite_of_val hp₁, finite_of_val hp₂, host_roundEven,
    host_toInt32, bind, Except.bind, pure, Except.pure]
  exact ⟨_, _, rfl, rfl, s.clamp_mono hb.roundEven.toInt32_le⟩

/-- A quiet end above zero turns the order around: a louder level takes away more. -/
theorem toDeviceVolume_ge (hv : s.validate = .ok ()) (hw : s.Fields32) (hp₁ : Val h₁ p₁)
    (hp₂ : Val h₂ p₂) (hle : p₁ ≤ p₂) (hpos : 0 < s.min) :
    OkLe (toDeviceVolume h₂ s) (toDeviceVolume h₁ s) := by
  have hF := val_ofInt_of_fits32 hw.min
  have hb := (hp₁.below_mul hp₂ hle hF (by exact_mod_cast hpos.le)).sub_from hF
  exact toDeviceVolume_of_below hv hpos.ne' hp₂ hp₁ hb

/-- A quiet end below zero keeps the order. -/
theorem toDeviceVolume_le (hv : s.validate = .ok ()) (hw : s.Fields32) (hp₁ : Val h₁ p₁)
    (hp₂ : Val h₂ p₂) (hle : p₁ ≤ p₂) (hneg : s.min < 0) :
    OkLe (toDeviceVolume h₁ s) (toDeviceVolume h₂ s) := by
  have hF := val_ofInt_of_fits32 hw.min
  have hb := (hp₁.below_mul_of_nonpos hp₂ hle hF (by exact_mod_cast hneg.le)).sub_from hF
  exact toDeviceVolume_of_below hv hneg.ne hp₁ hp₂ hb

/-! ### Balance -/

/-- The magnitude the balance conversion gives a host value `q`: the rounding of `|q|`,
saturated to 32 bits and capped at the top of the scale. -/
def balanceMagnitude (s : Scale) (q : ℚ) : ℤ :=
  Min.min (saturate32 (ZoneBridge.roundHalfEven |q|)) s.upper

theorem balanceMagnitude_neg (s : Scale) (q : ℚ) : balanceMagnitude s (-q) = balanceMagnitude s q := by
  rw [balanceMagnitude, abs_neg, ← balanceMagnitude]

theorem balanceMagnitude_mono (s : Scale) {q q' : ℚ} (h : |q| ≤ |q'|) :
    balanceMagnitude s q ≤ balanceMagnitude s q' :=
  min_le_min_right _ (saturate32_mono (roundHalfEven_mono h))

theorem balanceMagnitude_nonneg (hs : 0 ≤ s.upper) (q : ℚ) : 0 ≤ balanceMagnitude s q := by
  have h0 : saturate32 (ZoneBridge.roundHalfEven 0) = 0 := by simp [saturate32]
  exact le_min (h0 ▸ saturate32_mono (roundHalfEven_mono (abs_nonneg q))) hs

/-- Only a non-zero host value has a magnitude, when the top of the scale is not below zero. -/
theorem ne_zero_of_balanceMagnitude (hs : 0 ≤ s.upper) {q : ℚ} (h : balanceMagnitude s q ≠ 0) :
    q ≠ 0 := by
  rintro rfl
  simp [balanceMagnitude, saturate32] at h
  omega

/-- The balance reading of a float of value `q`: its magnitude, on the side of its sign, the
centre for magnitude zero. -/
theorem toDeviceBalance_eq (hv : s.validate = .ok ()) {v : Float} {q : ℚ} (hq : Val v q) :
    toDeviceBalance v s = .ok (if balanceMagnitude s q = 0 then .center
      else if q < 0 then .left else .right, balanceMagnitude s q) :=
  toDeviceBalance_of_val hv hq

/-- The signed value of the balance reading of a float of value `q`: its magnitude, negated
below zero. -/
theorem toDeviceBalance_signed (hv : s.validate = .ok ()) {v : Float} {q : ℚ} (hq : Val v q) :
    (toDeviceBalance v s).map (fun r => r.1.signed r.2) =
      .ok (if q < 0 then -balanceMagnitude s q else balanceMagnitude s q) := by
  rw [toDeviceBalance_eq hv hq]
  show Except.ok (BalancePosition.signed (if balanceMagnitude s q = 0 then .center
    else if q < 0 then .left else .right) (balanceMagnitude s q)) = _
  by_cases hz : balanceMagnitude s q = 0
  · simp [hz, BalancePosition.signed]
  · by_cases hneg : q < 0 <;> simp [hz, hneg, BalancePosition.signed]

/-- The signed value of a balance reading keeps the order of the host values: a magnitude
grows with the distance from zero, and turns to the left below zero. -/
theorem toDeviceBalance_signed_le (hv : s.validate = .ok ()) (hs : 0 ≤ s.upper)
    (hp₁ : Val h₁ p₁) (hp₂ : Val h₂ p₂) (hle : p₁ ≤ p₂) :
    OkLe ((toDeviceBalance h₁ s).map fun r => r.1.signed r.2)
      ((toDeviceBalance h₂ s).map fun r => r.1.signed r.2) := by
  refine ⟨_, _, toDeviceBalance_signed hv hp₁, toDeviceBalance_signed hv hp₂, ?_⟩
  have hm₁ := balanceMagnitude_nonneg hs p₁
  have hm₂ := balanceMagnitude_nonneg hs p₂
  by_cases hn₂ : p₂ < 0
  · -- both to the left: the first is further from zero
    have hn₁ : p₁ < 0 := lt_of_le_of_lt hle hn₂
    have := balanceMagnitude_mono s (show |p₂| ≤ |p₁| by
      rw [abs_of_neg hn₁, abs_of_neg hn₂]; linarith)
    rw [if_pos hn₁, if_pos hn₂]
    omega
  · rw [if_neg hn₂]
    by_cases hn₁ : p₁ < 0
    · rw [if_pos hn₁]
      omega
    · -- both to the right: the second is further from zero
      have := balanceMagnitude_mono s (show |p₁| ≤ |p₂| by
        rw [abs_of_nonneg (not_lt.mp hn₁), abs_of_nonneg (not_lt.mp hn₂)]; exact hle)
      rw [if_neg hn₁]
      exact this

/-- A negated host value gives the mirrored balance reading: the same magnitude on the other
side, the centre staying the centre. -/
theorem toDeviceBalance_neg (hv : s.validate = .ok ()) (hs : 0 ≤ s.upper) {v : Float} {q : ℚ}
    (hq : Val v q) :
    toDeviceBalance (-v) s = (toDeviceBalance v s).map (fun r => (r.1.opposite, r.2)) := by
  rw [toDeviceBalance_eq hv hq.neg, toDeviceBalance_eq hv hq, balanceMagnitude_neg]
  show _ = Except.ok (BalancePosition.opposite (if balanceMagnitude s q = 0 then .center
    else if q < 0 then .left else .right), balanceMagnitude s q)
  by_cases hz : balanceMagnitude s q = 0
  · simp [hz, BalancePosition.opposite]
  · -- a magnitude needs a host value off zero, on one side or the other
    have hq0 := ne_zero_of_balanceMagnitude hs hz
    rcases lt_or_gt_of_ne hq0 with hneg | hpos
    · simp [hz, hneg, not_lt.mpr hneg.le, BalancePosition.opposite]
    · simp [hz, hpos, not_lt.mpr hpos.le, BalancePosition.opposite]

/-! ### All conversions -/

/-- On a usable scale of 32-bit fields, every conversion from the host side succeeds on finite
floats and keeps or turns around their order as the scale's orientation says; on a scale whose
top is not below zero the signed balance keeps the order, a negated host value gives the
mirrored reading, and the centre is exactly the reading of magnitude zero. -/
theorem conversions_keep_order (hv : s.validate = .ok ()) (hw : s.Fields32) :
    (∀ h₁ h₂ : Float, h₁.isFinite → h₂.isFinite → h₁ ≤ h₂ →
      (s.SignedFits → OkLe (toDeviceSigned h₁ s) (toDeviceSigned h₂ s)) ∧
      OkLe (toDeviceAttenuation h₂ s) (toDeviceAttenuation h₁ s) ∧
      (s.min < s.max → OkLe (toDeviceEq h₁ s) (toDeviceEq h₂ s)) ∧
      (s.max < s.min → OkLe (toDeviceEq h₂ s) (toDeviceEq h₁ s)) ∧
      (0 < s.min → OkLe (toDeviceVolume h₂ s) (toDeviceVolume h₁ s)) ∧
      (s.min < 0 → OkLe (toDeviceVolume h₁ s) (toDeviceVolume h₂ s)) ∧
      (0 ≤ s.upper → OkLe ((toDeviceBalance h₁ s).map fun r => r.1.signed r.2)
        ((toDeviceBalance h₂ s).map fun r => r.1.signed r.2))) ∧
    (0 ≤ s.upper → ∀ h : Float, h.isFinite →
      toDeviceBalance (-h) s = (toDeviceBalance h s).map (fun r => (r.1.opposite, r.2)) ∧
      ∀ p m, toDeviceBalance h s = .ok (p, m) → (p = .center ↔ m = 0)) := by
  refine ⟨fun h₁ h₂ hf₁ hf₂ hle => ?_, fun hs h hf => ?_⟩
  · obtain ⟨p₁, hp₁⟩ := exists_val_of_isFinite hf₁
    obtain ⟨p₂, hp₂⟩ := exists_val_of_isFinite hf₂
    have hpq := (hp₁.le_iff hp₂).mp hle
    exact ⟨fun hsf => toDeviceSigned_le hv hw hsf hp₁ hp₂ hpq, toDeviceAttenuation_ge hv hp₁ hp₂ hpq,
      toDeviceEq_le hv hw hp₁ hp₂ hpq, toDeviceEq_ge hv hw hp₁ hp₂ hpq,
      toDeviceVolume_ge hv hw hp₁ hp₂ hpq, toDeviceVolume_le hv hw hp₁ hp₂ hpq,
      fun hs => toDeviceBalance_signed_le hv hs hp₁ hp₂ hpq⟩
  · obtain ⟨q, hq⟩ := exists_val_of_isFinite hf
    exact ⟨toDeviceBalance_neg hv hs hq, fun p m hr => (toDeviceBalance_eq_ok hs hr).2.2⟩

/-- The order on the tone scale of the larger model, from `-18` to `18` in steps of `2`. -/
theorem conversions_keep_order_tone :
    (⟨-18, 18, 2⟩ : Scale).validate = .ok () ∧ (⟨-18, 18, 2⟩ : Scale).Fields32 ∧
    (∀ h₁ h₂ : Float, h₁.isFinite → h₂.isFinite → h₁ ≤ h₂ →
      ((⟨-18, 18, 2⟩ : Scale).SignedFits →
        OkLe (toDeviceSigned h₁ ⟨-18, 18, 2⟩) (toDeviceSigned h₂ ⟨-18, 18, 2⟩)) ∧
      OkLe (toDeviceAttenuation h₂ ⟨-18, 18, 2⟩) (toDeviceAttenuation h₁ ⟨-18, 18, 2⟩) ∧
      ((⟨-18, 18, 2⟩ : Scale).min < (⟨-18, 18, 2⟩ : Scale).max →
        OkLe (toDeviceEq h₁ ⟨-18, 18, 2⟩) (toDeviceEq h₂ ⟨-18, 18, 2⟩)) ∧
      ((⟨-18, 18, 2⟩ : Scale).max < (⟨-18, 18, 2⟩ : Scale).min →
        OkLe (toDeviceEq h₂ ⟨-18, 18, 2⟩) (toDeviceEq h₁ ⟨-18, 18, 2⟩)) ∧
      (0 < (⟨-18, 18, 2⟩ : Scale).min →
        OkLe (toDeviceVolume h₂ ⟨-18, 18, 2⟩) (toDeviceVolume h₁ ⟨-18, 18, 2⟩)) ∧
      ((⟨-18, 18, 2⟩ : Scale).min < 0 →
        OkLe (toDeviceVolume h₁ ⟨-18, 18, 2⟩) (toDeviceVolume h₂ ⟨-18, 18, 2⟩)) ∧
      (0 ≤ (⟨-18, 18, 2⟩ : Scale).upper →
        OkLe ((toDeviceBalance h₁ ⟨-18, 18, 2⟩).map fun r => r.1.signed r.2)
          ((toDeviceBalance h₂ ⟨-18, 18, 2⟩).map fun r => r.1.signed r.2))) ∧
    (0 ≤ (⟨-18, 18, 2⟩ : Scale).upper → ∀ h : Float, h.isFinite →
      toDeviceBalance (-h) ⟨-18, 18, 2⟩ =
        (toDeviceBalance h ⟨-18, 18, 2⟩).map (fun r => (r.1.opposite, r.2)) ∧
      ∀ p m, toDeviceBalance h ⟨-18, 18, 2⟩ = .ok (p, m) → (p = .center ↔ m = 0)) := by
  have hv : (⟨-18, 18, 2⟩ : Scale).validate = .ok () := by decide
  have hw : (⟨-18, 18, 2⟩ : Scale).Fields32 := ⟨by decide, by decide, by decide⟩
  exact ⟨hv, hw, conversions_keep_order hv hw⟩

end Convert

end ZoneBridge
