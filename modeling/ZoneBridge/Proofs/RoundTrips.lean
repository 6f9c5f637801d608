import Mathlib
import ZoneBridge.Proofs.FloatOrder
import ZoneBridge.Proofs.Commands
import ZoneBridge.Proofs.EventCodec

/-!
# Native values survive the trip through the host

A native value becomes a host float and goes back through the conversion of its kind. On a
usable scale that 32-bit arithmetic handles (`Scale.Fits`) the floats on the way are exact or
off by far less than the half that rounding forgives, so the way back finds the native value
again where the conversion's design allows it:

* a signed value on the step grid counted from the lower end (`Convert.toDeviceSigned_of_val`);
* an attenuation on the scale, and a balance reading whose magnitude is on the scale
  (`Convert.toDeviceAttenuation_of_val`, `Convert.toDeviceBalance_toHostBalance`);
* a tone value that is a whole multiple of the step (`Convert.toDeviceEq_toHostEq`);
* a volume of a scale whose quiet end is not zero (`Convert.toDeviceVolume_toHostVolume`).

The rounding errors of the two computed trips are bounded once, over the rationals
(`volume_trip_near`, `eq_trip_near`). The signed conversion snaps to the grid from the lower
end and the tone conversion to whole multiples of the step counted from zero, so off those grids
the way back moves the value: `{0, 13, 2}` sends bass `13` back as `12`, and `{-17, 17, 2}`
sends tone `-17` back as `-16`. A dial therefore reads back every value its command carried
that lies on its grid (`Dial.read_command_recovers`).
-/

namespace ZoneBridge

/-- A scale that 32-bit arithmetic handles: both ends and the step are 32-bit integers, and so is
the distance between the ends. -/
structure Scale.Fits (s : Scale) : Prop where
  min : Fits32 s.min
  max : Fits32 s.max
  step : Fits32 s.step
  width : s.upper - s.lower ≤ 2147483647

namespace Scale

variable {s : Scale}

theorem validate_eq_ok : s.validate = .ok () ↔ 0 < s.step ∧ s.min ≠ s.max := by
  unfold validate
  split_ifs with h1 h2 <;> simp_all

theorem Fits.lower (hf : s.Fits) : -2147483648 ≤ s.lower ∧ s.lower ≤ 2147483647 := by
  have := hf.min; have := hf.max
  simp only [Scale.lower, Fits32] at *
  omega

theorem clamp_of_holds {n : ℤ} (h : s.Holds n) : s.clamp n = n := by
  obtain ⟨h1, h2⟩ := h
  simp only [clamp]
  omega

theorem Fits.upper (hf : s.Fits) : -2147483648 ≤ s.upper ∧ s.upper ≤ 2147483647 := by
  have := hf.min; have := hf.max
  simp only [Scale.upper, Fits32] at *
  omega

/-- A point of a scale that fits 32 bits is a 32-bit value. -/
theorem Fits.holds (hf : s.Fits) {n : ℤ} (hn : s.Holds n) : Fits32 n := by
  obtain ⟨hl1, -⟩ := hf.lower
  obtain ⟨-, hu2⟩ := hf.upper
  obtain ⟨hlo, hhi⟩ := hn
  exact ⟨by omega, by omega⟩

/-- On a usable scale the lower end lies below the upper end. -/
theorem lower_lt_upper (hv : s.validate = .ok ()) : s.lower < s.upper := by
  have hne := (validate_eq_ok.mp hv).2
  simp only [Scale.lower, Scale.upper]
  omega

/-- The signed width `max - min` of a scale that fits 32 bits is a 32-bit value. -/
theorem Fits.max_sub_min (hf : s.Fits) : Fits32 (s.max - s.min) := by
  have hw := hf.width
  simp only [Scale.lower, Scale.upper] at hw
  unfold Fits32
  omega

/-- The distance of a point of the scale from `min`, on a scale that fits 32 bits, is a 32-bit
value: it is at most the width. -/
theorem Fits.sub_min (hf : s.Fits) {n : ℤ} (hn : s.Holds n) : Fits32 (n - s.min) := by
  have hw := hf.width
  obtain ⟨hlo, hhi⟩ := hn
  simp only [Scale.lower, Scale.upper] at hw hlo hhi
  unfold Fits32
  omega

/-- The number of steps from the lower end to a point of the step grid lies between zero and the
width of the scale, and so does the distance they cover. -/
theorem steps_le_width (hv : s.validate = .ok ()) {n k : ℤ} (hn : s.Holds n)
    (hk : n - s.lower = s.step * k) :
    0 ≤ k ∧ k * s.step ≤ s.upper - s.lower ∧ k ≤ s.upper - s.lower := by
  have hstep := (validate_eq_ok.mp hv).1
  obtain ⟨hlo, hhi⟩ := hn
  have hk0 : 0 ≤ k := by nlinarith
  have hkw : k * s.step ≤ s.upper - s.lower := by linarith
  exact ⟨hk0, hkw, by nlinarith⟩

/-- The level of a point of the scale, its place on the way from `min` to `max`, is at most one
in size. -/
theorem abs_level_le_one (hne : s.min ≠ s.max) {n : ℤ} (hn : s.Holds n) :
    |((n - s.min : ℤ) : ℚ) / ((s.max - s.min : ℤ) : ℚ)| ≤ 1 := by
  obtain ⟨hlo, hhi⟩ := hn
  simp only [Scale.lower, Scale.upper] at hlo hhi
  have hw : ((s.max - s.min : ℤ) : ℚ) ≠ 0 := by exact_mod_cast sub_ne_zero.mpr (Ne.symm hne)
  have hz : |n - s.min| ≤ |s.max - s.min| := by
    rcases le_total s.min s.max with h | h
    · rw [abs_of_nonneg (by omega), abs_of_nonneg (by omega)]
      omega
    · rw [abs_of_nonpos (by omega), abs_of_nonpos (by omega)]
      omega
  rw [abs_div, div_le_one (abs_pos.mpr hw), ← Int.cast_abs, ← Int.cast_abs]
  exact_mod_cast hz

/-- The number of steps `k` of a point `k · step` of the scale lies between the ends counted in
steps and rounded to binary64, when `k` itself is a binary64 value. -/
theorem nearest_ends_bracket (hS : 0 < s.step) {n k : ℤ} (hn : s.Holds n) (hk : n = s.step * k)
    (hk53 : Exact64 (k : ℚ)) :
    Min.min (nearest64 ((s.min : ℚ) / s.step)) (nearest64 ((s.max : ℚ) / s.step)) ≤ k ∧
      (k : ℚ) ≤ Max.max (nearest64 ((s.min : ℚ) / s.step)) (nearest64 ((s.max : ℚ) / s.step)) := by
  obtain ⟨hlo, hhi⟩ := hn
  have hSq : (0 : ℚ) < s.step := by exact_mod_cast hS
  have hkn : (k : ℚ) = (n : ℚ) / s.step := by
    rw [hk]
    push_cast
    field_simp
  -- the point lies between the ends, so its steps lie between theirs, before and after rounding
  have hl : (s.lower : ℚ) / s.step ≤ k := by
    rw [hkn]
    gcongr
  have hu : (k : ℚ) ≤ (s.upper : ℚ) / s.step := by
    rw [hkn]
    gcongr
  rcases le_total s.min s.max with h | h
  · rw [Scale.lower, min_eq_left h] at hl
    rw [Scale.upper, max_eq_right h] at hu
    exact ⟨(min_le_left _ _).trans (nearest64_le_of_le hk53 hl),
      (le_nearest64_of_le hk53 hu).trans (le_max_right _ _)⟩
  · rw [Scale.lower, min_eq_right h] at hl
    rw [Scale.upper, max_eq_left h] at hu
    exact ⟨(min_le_right _ _).trans (nearest64_le_of_le hk53 hl),
      (le_nearest64_of_le hk53 hu).trans (le_max_left _ _)⟩

end Scale

/-- Saturating a 32-bit value changes nothing. -/
theorem saturate32_of_fits32 {k : ℤ} (h : Fits32 k) : saturate32 k = k := by
  unfold saturate32
  unfold Fits32 at h
  omega

/-- A multiple of a positive step that is a 32-bit value has a 32-bit number of steps: the
number is no further from zero than the multiple. -/
theorem fits32_of_mul {S k : ℤ} (hS : 0 < S) (h : Fits32 (S * k)) : Fits32 k := by
  unfold Fits32 at h ⊢
  rcases le_or_gt 0 k with h0 | h0
  · have : k ≤ S * k := le_mul_of_one_le_left h0 hS
    omega
  · have : S * k ≤ k := by nlinarith
    omega

/-! ### The errors of the rounded trips -/

/-- The volume `n` of a scale with quiet end `F`, taken to the level `1 - n / F` and back by
`F - level · F`, each step rounded to binary64: every step stays small, and the way back ends
within a half of `n`. -/
theorem volume_trip_near {n F r h P : ℚ} (hn : |n| ≤ 2 ^ 31) (hF1 : 1 ≤ |F|) (hF : |F| ≤ 2 ^ 31)
    (hr : r = nearest64 (n / F)) (hh : h = nearest64 (1 - r)) (hP : P = nearest64 (h * F)) :
    |n / F| ≤ 2 ^ 31 ∧ |1 - r| ≤ 2 ^ 33 ∧ |h * F| ≤ 2 ^ 34 ∧ |F - P| ≤ 2 ^ 35 ∧
      |nearest64 (F - P) - n| < 1 / 2 := by
  have hF0 : F ≠ 0 := by
    rintro rfl
    norm_num at hF1
  have hx : |n / F| ≤ 2 ^ 31 := by
    rw [abs_div]
    exact (div_le_self (abs_nonneg _) hF1).trans hn
  -- the first rounding, also as seen after scaling by `F`
  have e1 := abs_mul_nearest64_sub_le F (n / F)
  rw [mul_div_cancel₀ n hF0, ← hr] at e1
  have e1' := abs_nearest64_sub_le_succ (n / F)
  rw [← hr] at e1'
  obtain ⟨e1a, e1b⟩ := abs_le.mp e1
  obtain ⟨e1a', e1b'⟩ := abs_le.mp e1'
  obtain ⟨hna, hnb⟩ := abs_le.mp hn
  obtain ⟨hFa, hFb⟩ := abs_le.mp hF
  obtain ⟨hxa, hxb⟩ := abs_le.mp hx
  have b1 : |1 - r| ≤ 2 ^ 33 := abs_le.mpr ⟨by linarith, by linarith⟩
  -- the level scaled by `F` is `F - n`, up to the first error
  have hFr : F * (1 - r) = F - n - F * (r - n / F) := by field_simp; ring
  have b1F : |F * (1 - r)| ≤ 2 ^ 33 := by
    rw [hFr]
    exact abs_le.mpr ⟨by linarith, by linarith⟩
  have e2 := abs_mul_nearest64_sub_le F (1 - r)
  rw [← hh] at e2
  obtain ⟨e2a, e2b⟩ := abs_le.mp e2
  obtain ⟨b1Fa, b1Fb⟩ := abs_le.mp b1F
  have b2 : |h * F| ≤ 2 ^ 34 := by
    have : h * F = F * (1 - r) + F * (h - (1 - r)) := by ring
    rw [this]
    exact abs_le.mpr ⟨by linarith, by linarith⟩
  have e3 := abs_nearest64_sub_le_succ (h * F)
  rw [← hP] at e3
  obtain ⟨e3a, e3b⟩ := abs_le.mp e3
  obtain ⟨b2a, b2b⟩ := abs_le.mp b2
  have b3 : |F - P| ≤ 2 ^ 35 := abs_le.mpr ⟨by linarith, by linarith⟩
  have e4 := abs_nearest64_sub_le_succ (F - P)
  obtain ⟨e4a, e4b⟩ := abs_le.mp e4
  obtain ⟨b3a, b3b⟩ := abs_le.mp b3
  refine ⟨hx, b1, b2, b3, ?_⟩
  -- the trip ends at `n` but for the four errors
  have hid : nearest64 (F - P) - n = (nearest64 (F - P) - (F - P)) - (P - h * F)
      - F * (h - (1 - r)) + F * (r - n / F) := by field_simp; ring
  rw [hid]
  exact abs_lt.mpr ⟨by linarith, by linarith⟩

/-- A tone value at level `t` of the way from `α` to `β` (the ends in steps), taken back as
`a + level · (b - a)` from the rounded ends, each step rounded to binary64: every step stays
small, and the result is within a half of the exact point `α + t · (β - α)`. -/
theorem eq_trip_near {t α β h a b D P : ℚ} (ht : |t| ≤ 1) (hα : |α| ≤ 2 ^ 31)
    (hβ : |β| ≤ 2 ^ 31) (hh : h = nearest64 t) (ha : a = nearest64 α) (hb : b = nearest64 β)
    (hD : D = nearest64 (b - a)) (hP : P = nearest64 (h * D)) :
    |b - a| ≤ 2 ^ 33 ∧ |h * D| ≤ 2 ^ 35 ∧ |P + a| ≤ 2 ^ 36 ∧
      |nearest64 (P + a) - (α + t * (β - α))| < 1 / 2 := by
  -- the ends of the grid, their distance, and the level
  have ea := abs_nearest64_sub_le_succ α
  have eb := abs_nearest64_sub_le_succ β
  rw [← ha] at ea
  rw [← hb] at eb
  obtain ⟨eaa, eab⟩ := abs_le.mp ea
  obtain ⟨eba, ebb⟩ := abs_le.mp eb
  obtain ⟨hαa, hαb⟩ := abs_le.mp hα
  obtain ⟨hβa, hβb⟩ := abs_le.mp hβ
  have b1 : |b - a| ≤ 2 ^ 33 := abs_le.mpr ⟨by linarith, by linarith⟩
  have eD := abs_nearest64_sub_le_succ (b - a)
  rw [← hD] at eD
  obtain ⟨eDa, eDb⟩ := abs_le.mp eD
  obtain ⟨b1a, b1b⟩ := abs_le.mp b1
  have bD : |D| ≤ 2 ^ 34 := abs_le.mpr ⟨by linarith, by linarith⟩
  -- the level times the distance, against the exact product
  have eh := abs_mul_nearest64_sub_le D t
  rw [← hh, abs_mul D t] at eh
  have hDt : |D| * |t| ≤ |D| := mul_le_of_le_one_right (abs_nonneg D) ht
  have eΔ : |t * (D - (β - α))| ≤ |D - (β - α)| := by
    rw [abs_mul]
    exact mul_le_of_le_one_left (abs_nonneg _) ht
  have bΔ : |D - (β - α)| ≤ 2 ^ 34 / 2 ^ 53 := by
    have : D - (β - α) = (D - (b - a)) + (b - β) - (a - α) := by ring
    rw [this]
    exact abs_le.mpr ⟨by linarith, by linarith⟩
  obtain ⟨eha, ehb⟩ := abs_le.mp eh
  obtain ⟨eΔa, eΔb⟩ := abs_le.mp eΔ
  obtain ⟨bΔa, bΔb⟩ := abs_le.mp bΔ
  obtain ⟨bDa, bDb⟩ := abs_le.mp bD
  have b2 : |h * D| ≤ 2 ^ 35 := by
    have : h * D = D * (h - t) + t * (D - (β - α)) + t * (β - α) := by ring
    have htβ : |t * (β - α)| ≤ 2 ^ 32 := by
      rw [abs_mul]
      calc |t| * |β - α| ≤ 1 * 2 ^ 32 := by
            gcongr
            exact abs_le.mpr ⟨by linarith, by linarith⟩
        _ = 2 ^ 32 := one_mul _
    obtain ⟨htβa, htβb⟩ := abs_le.mp htβ
    rw [this]
    exact abs_le.mpr ⟨by linarith, by linarith⟩
  have eP := abs_nearest64_sub_le_succ (h * D)
  rw [← hP] at eP
  obtain ⟨ePa, ePb⟩ := abs_le.mp eP
  obtain ⟨b2a, b2b⟩ := abs_le.mp b2
  have b3 : |P + a| ≤ 2 ^ 36 := abs_le.mpr ⟨by linarith, by linarith⟩
  have eQ := abs_nearest64_sub_le_succ (P + a)
  obtain ⟨eQa, eQb⟩ := abs_le.mp eQ
  obtain ⟨b3a, b3b⟩ := abs_le.mp b3
  refine ⟨b1, b2, b3, ?_⟩
  -- the steps of the value land on the grid point but for the errors
  have hid : nearest64 (P + a) - (α + t * (β - α)) = (nearest64 (P + a) - (P + a)) +
      (P - h * D) + (D * (h - t) + t * (D - (β - α))) + (a - α) := by ring
  rw [hid]
  exact abs_lt.mpr ⟨by linarith, by linarith⟩

namespace Float

/-- The float of a 32-bit integer, or of the difference of two, is exact. -/
theorem val_ofInt_of_le {n : ℤ} (h : -4294967296 ≤ n ∧ n ≤ 4294967296) : Val (ofInt n) n :=
  val_ofInt (abs_lt.mpr ⟨by omega, by omega⟩)

theorem val_ofInt_of_fits32 {n : ℤ} (h : Fits32 n) : Val (ofInt n) n :=
  val_ofInt_of_le (by unfold Fits32 at h; omega)

theorem exact64_of_fits32 {n : ℤ} (h : Fits32 n) : Exact64 (n : ℚ) :=
  exact64_intCast (abs_lt.mpr (by unfold Fits32 at h; omega))

/-- The host operations of the float instance are the float functions. -/
@[simp] theorem host_ofInt (n : ℤ) : (HostNumber.ofInt n : Float) = ofInt n := rfl
@[simp] theorem host_roundEven (x : Float) : HostNumber.roundEven x = roundEven x := rfl
@[simp] theorem host_ceil (x : Float) : HostNumber.ceil x = ceil x := rfl
@[simp] theorem host_abs (x : Float) : HostNumber.abs x = x.abs := rfl
@[simp] theorem host_toInt32 (x : Float) : HostNumber.toInt32 x = toInt32 x := rfl
@[simp] theorem host_nonFinite (x : Float) : HostNumber.nonFinite? x = nonFinite? x := rfl

theorem finite_of_val {x : Float} {p : ℚ} (hx : Val x p) :
    Convert.finite x = (.ok x : Except RangeFault Float) := by
  simp [Convert.finite, hx.nonFinite]

/-- A value of a 32-bit computation is far within the range the float lemmas ask for. -/
theorem abs_intCast_le {a : ℤ} (h : -4294967296 ≤ a ∧ a ≤ 4294967296) :
    |(a : ℚ)| ≤ 2 ^ (64 : ℤ) := by
  rw [← Int.cast_abs]
  have : |a| ≤ 2 ^ 64 := abs_le.mpr ⟨by omega, by omega⟩
  calc ((|a| : ℤ) : ℚ) ≤ ((2 ^ 64 : ℤ) : ℚ) := by exact_mod_cast this
    _ = 2 ^ (64 : ℤ) := by norm_num

/-- Dividing by a positive integer makes nothing larger. -/
theorem abs_div_intCast_le (x : ℚ) {b : ℤ} (hb : 0 < b) : |x / b| ≤ |x| := by
  have hb' : (1 : ℚ) ≤ b := by exact_mod_cast hb
  rw [abs_div, abs_of_pos (by linarith : (0 : ℚ) < b)]
  exact div_le_self (abs_nonneg _) hb'

/-- A 32-bit integer is at most `2 ^ 31` in size. -/
theorem abs_intCast_le_two_pow_31 {a : ℤ} (h : Fits32 a) : |(a : ℚ)| ≤ 2 ^ 31 := by
  unfold Fits32 at h
  rw [← Int.cast_abs]
  exact_mod_cast abs_le.mpr ⟨by omega, by omega⟩

/-- A bound below `2 ^ 64` is within the range the float lemmas ask for. -/
theorem le_two_pow_64 {x : ℚ} {k : ℕ} (h : |x| ≤ 2 ^ k) (hk : k ≤ 64) : |x| ≤ 2 ^ (64 : ℤ) :=
  calc |x| ≤ 2 ^ k := h
    _ ≤ 2 ^ 64 := pow_le_pow_right₀ one_le_two hk
    _ = 2 ^ (64 : ℤ) := by norm_num

/-- A whole value within 32-bit reach is its own rounding. -/
theorem nearest64_intCast {a : ℤ} (h : -4294967296 ≤ a ∧ a ≤ 4294967296) :
    nearest64 a = a :=
  nearest64_eq_self (exact64_intCast (abs_lt.mpr ⟨by omega, by omega⟩))

end Float

namespace Convert

open ZoneBridge.Float

variable {s : Scale}

/-- The steps from the lower end to a point `lower + k · step` of the grid, computed in floats
from a float holding the point, hold `k` exactly. -/
theorem val_stepsFromLower (hv : s.validate = .ok ()) (hf : s.Fits) {h : Float} {n k : ℤ}
    (hh : Val h n) (hn : s.Holds n) (hk : n - s.lower = s.step * k) :
    Val ((h - ofInt s.lower) / ofInt s.step) k := by
  have hstep := (Scale.validate_eq_ok.mp hv).1
  obtain ⟨hl1, hl2⟩ := hf.lower
  obtain ⟨hn1, hn2⟩ := hf.holds hn
  have hS := hf.step
  unfold Fits32 at hS
  obtain ⟨hk0, -, hkle⟩ := s.steps_le_width hv hn hk
  have hw := hf.width
  -- the distance from the lower end is exact, and so is the whole number of steps in it
  have h1 : Val (h - ofInt s.lower) (n - s.lower : ℤ) := by
    have := hh.sub (val_ofInt_of_le (n := s.lower) (by omega))
      (by rw [← Int.cast_sub]; exact abs_intCast_le (by omega))
    rwa [← Int.cast_sub, nearest64_intCast (by omega)] at this
  have hq : ((n - s.lower : ℤ) : ℚ) / s.step = k := by
    have hSq : (s.step : ℚ) ≠ 0 := by exact_mod_cast hstep.ne'
    rw [hk, Int.cast_mul]
    field_simp
  have := h1.div (val_ofInt_of_le (n := s.step) (by omega)) (by exact_mod_cast hstep.ne')
    (by rw [hq]; exact abs_intCast_le (by omega))
  rwa [hq, nearest64_intCast (by omega)] at this

/-- The steps from the lower end to the upper end, computed in floats and rounded up, are at
least the steps to any point of the grid. -/
theorem val_ceil_maxSteps (hv : s.validate = .ok ()) (hf : s.Fits) {n k : ℤ} (hn : s.Holds n)
    (hk : n - s.lower = s.step * k) :
    ∃ c : ℚ, Val (ceil (ofInt (s.upper - s.lower) / ofInt s.step)) c ∧ (k : ℚ) ≤ c := by
  have hstep := (Scale.validate_eq_ok.mp hv).1
  obtain ⟨hl1, hl2⟩ := hf.lower
  obtain ⟨hu1, hu2⟩ := hf.upper
  have hS := hf.step
  unfold Fits32 at hS
  obtain ⟨hk0, hkw, hkle⟩ := s.steps_le_width hv hn hk
  have hSq : (0 : ℚ) < s.step := by exact_mod_cast hstep
  have hM := (val_ofInt_of_le (n := s.upper - s.lower) (by omega)).div
    (val_ofInt_of_le (n := s.step) (by omega)) hSq.ne'
    ((abs_div_intCast_le _ hstep).trans (abs_intCast_le (by omega)))
  refine ⟨_, hM.ceil, le_trans ?_ (Int.le_ceil _)⟩
  -- `k` steps fit in the width, and `k` is a binary64 value below the exact quotient
  apply le_nearest64_of_le (exact64_intCast (abs_lt.mpr ⟨by omega, by omega⟩))
  rw [le_div_iff₀ hSq]
  exact_mod_cast hkw

/-- The signed conversion takes a float of whole value on the step grid to that value. -/
theorem toDeviceSigned_of_val (hv : s.validate = .ok ()) (hf : s.Fits) {h : Float} {n : ℤ}
    (hh : Val h n) (hn : s.OnGrid n) : toDeviceSigned h s = .ok n := by
  obtain ⟨hn, k, hk⟩ := hn
  obtain ⟨hk0, -, hkle⟩ := s.steps_le_width hv hn hk
  have hw := hf.width
  obtain ⟨c, hc, hkc⟩ := val_ceil_maxSteps hv hf hn hk
  -- `k` steps, rounded, then kept between zero and the rounded-up steps to the upper end
  have hsteps := (val_stepsFromLower hv hf hh hn hk).roundEven
  rw [roundHalfEven_intCast] at hsteps
  have hclamp := hsteps.clamp val_zero hc
  rw [max_eq_left (by exact_mod_cast hk0), min_eq_left hkc] at hclamp
  -- the width, the offset `k · step` and the point itself are all 32-bit values
  have hn32 := hf.holds hn
  have hks : k * s.step = n - s.lower := by linarith
  have hwidth : Native.sub s.upper s.lower = .ok (s.upper - s.lower) :=
    Native.checked_of_fits ⟨by omega, hw⟩
  have hoffset : Native.mul k s.step = .ok (k * s.step) :=
    Native.checked_of_fits (by rw [hks]; obtain ⟨hlo, hhi⟩ := hn; unfold Fits32; omega)
  have hpoint : Native.add s.lower (k * s.step) = .ok n := by
    rw [Native.add, show s.lower + k * s.step = n by linarith]
    exact Native.checked_of_fits hn32
  simp only [toDeviceSigned, hv, hwidth, finite_of_val hh, host_ofInt, host_roundEven, host_ceil,
    host_toInt32, Outcome.ofRange_ok, bind, Except.bind, pure, Except.pure]
  rw [show (ofInt 0 : Float) = 0 from rfl, hclamp.toInt32_eq,
    saturate32_of_fits32 ⟨by omega, by omega⟩, hoffset]
  simp only [hpoint, Scale.clamp_of_holds hn]

/-- The attenuation conversion takes a float of value `-n`, for `n` on the scale, to `n`. -/
theorem toDeviceAttenuation_of_val (hv : s.validate = .ok ()) (hf : s.Fits) {h : Float} {n : ℤ}
    (hh : Val h (-n : ℤ)) (hn : s.Holds n) : toDeviceAttenuation h s = .ok n := by
  have h1 := hh.neg.roundEven
  rw [Int.cast_neg, neg_neg, roundHalfEven_intCast] at h1
  simp only [toDeviceAttenuation, hv, finite_of_val hh, host_roundEven, host_toInt32, bind,
    Except.bind, pure, Except.pure]
  rw [h1.toInt32_eq, saturate32_of_fits32 (hf.holds hn), Scale.clamp_of_holds hn]

/-- A volume level of a scale whose quiet end is not zero comes back as the volume it was made
from. -/
theorem toDeviceVolume_toHostVolume (hv : s.validate = .ok ()) (hf : s.Fits) (hmin : s.min ≠ 0)
    {n : ℤ} (hn : s.Holds n) :
    ((toHostVolume n s : Except RangeFault Float) >>= fun h => toDeviceVolume h s) = .ok n := by
  have hn32 := hf.holds hn
  have hF1 : 1 ≤ |(s.min : ℚ)| := by
    rw [← Int.cast_abs]
    exact_mod_cast Int.one_le_abs hmin
  -- each float on the way holds its rounded value, and the last rounds to `n`
  obtain ⟨b0, b1, b2, b3, hQ⟩ := volume_trip_near (abs_intCast_le_two_pow_31 hn32) hF1
    (abs_intCast_le_two_pow_31 hf.min) rfl rfl rfl
  have hFv : Val (ofInt s.min) s.min := val_ofInt_of_fits32 hf.min
  have h1v : Val (ofInt 1) 1 := Int.cast_one (R := ℚ) ▸ val_ofInt_of_le (by omega)
  have v1 := (val_ofInt_of_fits32 hn32).div hFv (by exact_mod_cast hmin)
    (le_two_pow_64 b0 (by norm_num))
  have v2 := h1v.sub v1 (le_two_pow_64 b1 (by norm_num))
  have v3 := v2.mul hFv (le_two_pow_64 b2 (by norm_num))
  have v4 := hFv.sub v3 (le_two_pow_64 b3 (by norm_num))
  have v5 := v4.roundEven
  rw [roundHalfEven_eq_of_abs_sub_lt hQ] at v5
  have hfloor : (volumeFloor s : Except RangeFault Float) = .ok (ofInt s.min) := by
    simp [volumeFloor, hv, hmin, bind, Except.bind, pure, Except.pure]
  simp only [toHostVolume_of_validate hv hmin, toDeviceVolume, hfloor, finite_of_val v2,
    host_ofInt, host_roundEven, host_toInt32, bind, Except.bind, pure, Except.pure]
  rw [v5.toInt32_eq, saturate32_of_fits32 hn32, Scale.clamp_of_holds hn]

/-- A tone value that is a whole multiple of the step comes back from its level: the level is
a fraction of the way between the ends, and the way back lands on the multiple. -/
theorem toDeviceEq_toHostEq (hv : s.validate = .ok ()) (hf : s.Fits) {n : ℤ} (hn : s.Holds n)
    (hk : s.step ∣ n) :
    ((toHostEq n s : Outcome Float) >>= fun h => toDeviceEq h s) = .ok n := by
  obtain ⟨hS0, hne⟩ := Scale.validate_eq_ok.mp hv
  obtain ⟨k, hk⟩ := hk
  have hmin := hf.min
  have hmax := hf.max
  have hS := hf.step
  unfold Fits32 at hmin hmax hS
  have hSq : (0 : ℚ) < s.step := by exact_mod_cast hS0
  have hwq : ((s.max - s.min : ℤ) : ℚ) ≠ 0 := by exact_mod_cast sub_ne_zero.mpr (Ne.symm hne)
  have hn32 := hf.holds hn
  have hk32 := fits32_of_mul hS0 (hk ▸ hn32)
  unfold Fits32 at hn32
  -- the level and the ends in steps are small, so the trip lands within a half of `k`
  have ht := s.abs_level_le_one hne hn
  have hα := (abs_div_intCast_le (s.min : ℚ) hS0).trans (abs_intCast_le_two_pow_31 hf.min)
  have hβ := (abs_div_intCast_le (s.max : ℚ) hS0).trans (abs_intCast_le_two_pow_31 hf.max)
  obtain ⟨b1, b2, b3, hQ⟩ := eq_trip_near ht hα hβ rfl rfl rfl rfl rfl
  have hpoint : (s.min : ℚ) / s.step + ((n - s.min : ℤ) : ℚ) / ((s.max - s.min : ℤ) : ℚ) *
      ((s.max : ℚ) / s.step - (s.min : ℚ) / s.step) = k := by
    rw [hk]
    push_cast at hwq ⊢
    field_simp
    ring
  rw [hpoint] at hQ
  -- the floats on the way hold these values; the last rounds to `k`
  have vS : Val (ofInt s.step) s.step := val_ofInt_of_fits32 hf.step
  have va := (val_ofInt_of_fits32 hf.min).div vS hSq.ne' (le_two_pow_64 hα (by norm_num))
  have vb := (val_ofInt_of_fits32 hf.max).div vS hSq.ne' (le_two_pow_64 hβ (by norm_num))
  have vh := (val_ofInt_of_le (n := n - s.min) (by omega)).div
    (val_ofInt_of_le (n := s.max - s.min) (by omega)) hwq
    (le_two_pow_64 (ht.trans_eq (pow_zero 2).symm) (by norm_num))
  have vD := vb.sub va (le_two_pow_64 b1 (by norm_num))
  have vQ := (vh.mul vD (le_two_pow_64 b2 (by norm_num))).add va (le_two_pow_64 b3 (by norm_num))
  have vR := vQ.roundEven
  rw [roundHalfEven_eq_of_abs_sub_lt hQ] at vR
  -- `k` lies between the rounded ends in steps, so keeping the value between them keeps `k`
  obtain ⟨hlo, hhi⟩ := s.nearest_ends_bracket hS0 hn hk (exact64_of_fits32 hk32)
  have vC := vR.clamp (va.hostMin vb) (va.hostMax vb)
  rw [max_eq_left hlo, min_eq_left hhi] at vC
  -- `k` steps of the step give the point back, a 32-bit value
  have hmul : Native.mul k s.step = .ok n := by
    rw [Native.mul, show k * s.step = n by rw [hk, mul_comm]]
    exact Native.checked_of_fits (hf.holds hn)
  simp only [toHostEq_of_fits hv hf.max_sub_min (hf.sub_min hn), toDeviceEq, hv, finite_of_val vh,
    host_ofInt, host_roundEven, host_toInt32, Outcome.ofRange_ok, bind, Except.bind, pure,
    Except.pure]
  rw [vC.toInt32_eq, saturate32_of_fits32 hk32, hmul]
  simp only [Scale.clamp_of_holds hn]

/-- The balance conversion of a float of value `q`: the rounded magnitude of `q`, cut to 32 bits
and capped at the upper end, on the side of the sign of `q`, the centre for magnitude zero. -/
theorem toDeviceBalance_of_val (hv : s.validate = .ok ()) {v : Float} {q : ℚ} (hq : Val v q) :
    toDeviceBalance v s = .ok
      (if Min.min (saturate32 (ZoneBridge.roundHalfEven |q|)) s.upper = 0 then .center
        else if q < 0 then .left else .right,
        Min.min (saturate32 (ZoneBridge.roundHalfEven |q|)) s.upper) := by
  simp only [toDeviceBalance, hv, finite_of_val hq, host_ofInt, host_roundEven, host_abs,
    host_toInt32, bind, Except.bind, pure, Except.pure]
  have h0 : Val (ofInt 0) (0 : ℤ) := val_ofInt_of_le (by omega)
  rw [hq.abs.roundEven.toInt32_eq]
  simp [hq.hostLt h0]

/-- A balance reading whose magnitude is a 32-bit value not below zero, the centre exactly at
zero, is read without overflow, as the magnitude negated on the left. -/
theorem val_toHostBalance {p : BalancePosition} {m : ℤ} (hm0 : 0 ≤ m) (hm1 : m ≤ 2147483647)
    (hp : p = .center ↔ m = 0) :
    ∃ v : Float, toHostBalance p m = .ok v ∧ Val v (if p = .left then -m else m : ℤ) := by
  have hmv : Val (ofInt m) m := val_ofInt_of_le (by omega)
  have habs : Native.abs m = .ok m := Native.abs_eq_ok_iff.mpr ⟨by omega, (abs_of_nonneg hm0).symm⟩
  cases p with
  | center =>
    obtain rfl := hp.mp rfl
    exact ⟨_, rfl, val_zero⟩
  | left =>
    refine ⟨-ofInt m, ?_, by simpa using hmv.neg⟩
    simp [toHostBalance, habs, bind, Except.bind, pure, Except.pure]
  | right =>
    refine ⟨ofInt m, ?_, by simpa using hmv⟩
    simp [toHostBalance, habs, bind, Except.bind, pure, Except.pure]

/-- The balance conversion takes the signed value of a reading back to the reading, when the
magnitude lies on the scale and the position is the centre exactly for magnitude zero. -/
theorem toDeviceBalance_toHostBalance (hv : s.validate = .ok ()) (hf : s.Fits)
    {p : BalancePosition} {m : ℤ} (hm0 : 0 ≤ m) (hmu : m ≤ s.upper) (hp : p = .center ↔ m = 0) :
    ∃ v : Float, toHostBalance p m = .ok v ∧ Val v (if p = .left then -m else m : ℤ) ∧
      toDeviceBalance v s = .ok (p, m) := by
  obtain ⟨-, hu2⟩ := hf.upper
  obtain ⟨v, hread, hval⟩ := val_toHostBalance hm0 (by omega) hp
  refine ⟨v, hread, hval, ?_⟩
  have hmag : Min.min (saturate32 (ZoneBridge.roundHalfEven |((if p = .left then -m else m : ℤ) : ℚ)|))
      s.upper = m := by
    have habs : |((if p = .left then -m else m : ℤ) : ℚ)| = m := by
      split_ifs <;> simp [hm0]
    rw [habs, roundHalfEven_intCast]
    unfold saturate32
    omega
  rw [toDeviceBalance_of_val hv hval, hmag]
  cases p with
  | center => simp [hp.mp rfl]
  | left =>
    have hm : m ≠ 0 := fun h => by cases hp.mpr h
    have hpos : (0 : ℚ) < m := by exact_mod_cast lt_of_le_of_ne hm0 (Ne.symm hm)
    simp [hm, hpos]
  | right =>
    have hm : m ≠ 0 := fun h => by cases hp.mpr h
    simp [hm, hm0]

/-! ### The two tone paths -/

/-- On a usable scale that 32-bit arithmetic handles, each tone path finds its own grid again:
the signed path every value on the step grid counted from the lower end, the level path every
whole multiple of the step on the scale. When the ends are multiples of the step the two grids
are one, and both paths find every point of it. -/
theorem tone_paths_recover_their_grids (hv : s.validate = .ok ()) (hf : s.Fits) :
    (∀ n, s.OnGrid n →
      (Outcome.ofRange (toHostSigned n s : Except RangeFault Float) >>= fun h => toDeviceSigned h s) = .ok n) ∧
    (∀ n, s.Holds n → s.step ∣ n →
      ((toHostEq n s : Outcome Float) >>= fun h => toDeviceEq h s) = .ok n) ∧
    (s.Aligned → ∀ n, s.OnGrid n →
      ((toHostEq n s : Outcome Float) >>= fun h => toDeviceEq h s) = .ok n) := by
  have heq : ∀ n, s.Holds n → s.step ∣ n →
      ((toHostEq n s : Outcome Float) >>= fun h => toDeviceEq h s) = .ok n :=
    fun n hn hk => toDeviceEq_toHostEq hv hf hn hk
  refine ⟨fun n hn => ?_, heq, fun ha n hn => heq n hn.1 ?_⟩
  · rw [toHostSigned_of_validate hv]
    exact toDeviceSigned_of_val hv hf (val_ofInt_of_fits32 (hf.holds hn.1)) hn
  · -- on an aligned scale a point of the grid from the lower end is a multiple of the step
    have := dvd_add hn.2 ha.1
    rwa [sub_add_cancel] at this

/-- The tone paths on the bass scale of the larger model. -/
theorem tone_paths_recover_their_grids_bass :
    (∀ n, (⟨-18, 18, 2⟩ : Scale).OnGrid n →
      (Outcome.ofRange (toHostSigned n ⟨-18, 18, 2⟩ : Except RangeFault Float) >>= fun h =>
        toDeviceSigned h ⟨-18, 18, 2⟩) = .ok n) ∧
    (∀ n, (⟨-18, 18, 2⟩ : Scale).Holds n → (2 : ℤ) ∣ n →
      ((toHostEq n ⟨-18, 18, 2⟩ : Outcome Float) >>= fun h =>
        toDeviceEq h ⟨-18, 18, 2⟩) = .ok n) ∧
    ((⟨-18, 18, 2⟩ : Scale).Aligned → ∀ n, (⟨-18, 18, 2⟩ : Scale).OnGrid n →
      ((toHostEq n ⟨-18, 18, 2⟩ : Outcome Float) >>= fun h =>
        toDeviceEq h ⟨-18, 18, 2⟩) = .ok n) :=
  tone_paths_recover_their_grids (by decide) ⟨by decide, by decide, by decide, by decide⟩

set_option maxRecDepth 100000 in
/-- On `{-17, 17, 2}` the ends are not multiples of the step: `-17` lies on the step grid from
the lower end, its level is `0`, and the level path takes that to `-16`. -/
theorem eq_path_moves_odd_lower_end :
    (⟨-17, 17, 2⟩ : Scale).OnGrid (-17) ∧
      ((toHostEq (-17) ⟨-17, 17, 2⟩ : Outcome Float) >>= fun h =>
        toDeviceEq h ⟨-17, 17, 2⟩) = .ok (-16) :=
  ⟨by unfold Scale.OnGrid Scale.Holds; decide, by rfl⟩

/-! ### Reading back what a conversion produced -/

/-- Floats of 32-bit integers compare as the integers. -/
theorem ofInt_le_ofInt {a b : ℤ} (ha : -4294967296 ≤ a ∧ a ≤ 4294967296)
    (hb : -4294967296 ≤ b ∧ b ≤ 4294967296) (h : a ≤ b) : ofInt a ≤ ofInt b :=
  ((val_ofInt_of_le ha).le_iff (val_ofInt_of_le hb)).mpr (by exact_mod_cast h)

/-- A signed value the conversion produced, when it lies on the step grid, has a host value
inside the scale that converts to it again. -/
theorem toDeviceSigned_recovers (hv : s.validate = .ok ()) (hf : s.Fits) {h : Float} {n : ℤ}
    (hc : toDeviceSigned h s = .ok n) (hg : s.step ∣ n - s.lower) :
    ofInt s.lower ≤ ofInt n ∧ ofInt n ≤ ofInt s.upper ∧ toDeviceSigned (ofInt n : Float) s = .ok n := by
  obtain ⟨hlo, hhi⟩ := toDeviceSigned_holds hc
  obtain ⟨hl1, hl2⟩ := hf.lower
  obtain ⟨hu1, hu2⟩ := hf.upper
  exact ⟨ofInt_le_ofInt (by omega) (by omega) hlo, ofInt_le_ofInt (by omega) (by omega) hhi,
    toDeviceSigned_of_val hv hf (val_ofInt_of_le (by omega)) ⟨⟨hlo, hhi⟩, hg⟩⟩

/-- An attenuation the conversion produced has a host value, its negation, inside the negated
scale that converts to it again. -/
theorem toDeviceAttenuation_recovers (hv : s.validate = .ok ()) (hf : s.Fits) {h : Float} {n : ℤ}
    (hc : toDeviceAttenuation h s = .ok n) :
    ofInt (-s.upper) ≤ ofInt (-n) ∧ ofInt (-n) ≤ ofInt (-s.lower) ∧
      toDeviceAttenuation (ofInt (-n) : Float) s = .ok n := by
  obtain ⟨hlo, hhi⟩ := toDeviceAttenuation_holds hc
  obtain ⟨hl1, hl2⟩ := hf.lower
  obtain ⟨hu1, hu2⟩ := hf.upper
  exact ⟨ofInt_le_ofInt (by omega) (by omega) (by omega),
    ofInt_le_ofInt (by omega) (by omega) (by omega),
    toDeviceAttenuation_of_val hv hf (val_ofInt_of_le (by omega)) ⟨hlo, hhi⟩⟩

/-- A balance the conversion produced, on a scale that reaches zero, is read as a signed host
value within the upper end of zero that converts to it again. -/
theorem toDeviceBalance_recovers (hv : s.validate = .ok ()) (hf : s.Fits) (hs : 0 ≤ s.upper)
    {h : Float} {p : BalancePosition} {m : ℤ} (hc : toDeviceBalance h s = .ok (p, m)) :
    ∃ v : Float, toHostBalance p m = .ok v ∧ ofInt (-s.upper) ≤ v ∧ v ≤ ofInt s.upper ∧
      toDeviceBalance v s = .ok (p, m) := by
  obtain ⟨hm0, hmu, hp⟩ := toDeviceBalance_eq_ok hs hc
  obtain ⟨-, hu2⟩ := hf.upper
  obtain ⟨v, hread, hb, hback⟩ := toDeviceBalance_toHostBalance hv hf hm0 hmu hp
  have hlo := val_ofInt_of_le (n := -s.upper) (by omega)
  have hhi := val_ofInt_of_le (n := s.upper) (by omega)
  have hmq : (0 : ℚ) ≤ m := by exact_mod_cast hm0
  have hmuq : (m : ℚ) ≤ s.upper := by exact_mod_cast hmu
  -- the signed value is `m` or `-m`, both within `upper` of zero
  refine ⟨v, hread, (hlo.le_iff hb).mpr ?_, (hb.le_iff hhi).mpr ?_, hback⟩ <;>
    split_ifs <;> push_cast <;> linarith

end Convert

/-! ### Dials read back the values their commands carry -/

/-- The native value a command carries can be found again by the dial that sent it: a signed
value lies on the step grid counted from the lower end, a balance needs a scale that reaches
zero, and a volume preset a lower end that can be negated in 32 bits. -/
def Command.Recoverable (s : Scale) : Command → Prop
  | .setBass _ n | .setTreble _ n | .setSourceGain _ n => s.step ∣ n - s.lower
  | .setBalance .. => 0 ≤ s.upper
  | .zoneVolumeMax .. | .zoneVolumeInitial .. | .zoneVolumePage .. | .zoneVolumeParty .. =>
    -2147483648 < s.lower
  | _ => True

namespace Dial

/-- Event `e` reports, in the field dial `d` reads, the native value command `c` carries (for
balance, its position and magnitude). -/
def Reports : Dial → Command → DeviceEvent → Prop
  | .bass, .setBass _ n, .zoneEqStatus q => q.bass = n
  | .treble, .setTreble _ n, .zoneEqStatus q => q.treble = n
  | .balance, .setBalance _ p m, .zoneEqStatus q => q.balancePosition = p ∧ q.balance = m
  | .gain, .setSourceGain _ n, .sourceConfiguration c => c.gain = n
  | .maxVolume, .zoneVolumeMax _ n, .zoneVolumeConfiguration v => v.maxVol = n
  | .initialVolume, .zoneVolumeInitial _ n, .zoneVolumeConfiguration v => v.iniVol = n
  | .pageVolume, .zoneVolumePage _ n, .zoneVolumeConfiguration v => v.pageVol = n
  | .partyVolume, .zoneVolumeParty _ n, .zoneVolumeConfiguration v => v.partyVol = n
  | _, _, _ => False

variable {s : Scale}

open ZoneBridge.Float ZoneBridge.Convert

/-- A dial reads back the value its command carried: when the dial's conversion turned some
host value into command `c`, on a usable scale that 32-bit arithmetic handles, and the value of
`c` can be found again (`Command.Recoverable`), the dial's host range is computed without
overflow, and an event reporting that value reads as a host value inside it that the dial turns
into `c` again. -/
theorem read_command_recovers (d : Dial) (hv : s.validate = .ok ()) (hf : s.Fits) (id : UInt8)
    {h : Float} {c : Command} (hc : d.command id h s = .ok c) (hr : c.Recoverable s)
    {e : DeviceEvent} (he : d.Reports c e) :
    ∃ lo hi v : Float, d.hostRange s = .ok (lo, hi) ∧ d.read e s = .ok v ∧ lo ≤ v ∧ v ≤ hi ∧
      d.command id v s = .ok c := by
  obtain ⟨hl1, hl2⟩ := hf.lower
  obtain ⟨hu1, hu2⟩ := hf.upper
  -- the upper end lies above the lower, so it can be negated
  have hup : Fits32 (-s.upper) := by
    have := s.lower_lt_upper hv
    unfold Fits32
    omega
  cases d <;> cases c <;> cases e <;> simp only [Reports] at he
  case bass.setBass.zoneEqStatus | treble.setTreble.zoneEqStatus |
      gain.setSourceGain.sourceConfiguration =>
    subst he
    obtain ⟨n, hn, hcn⟩ := bind_eq_ok hc
    cases hcn
    obtain ⟨h1, h2, h3⟩ := toDeviceSigned_recovers hv hf hn hr
    refine ⟨_, _, _, rfl, ?_, h1, h2, ?_⟩
    · simp [read, toHostSigned_of_validate hv, Outcome.ofRange, Except.mapError]
    · simp [command, h3, bind, Except.bind, pure, Except.pure]
  case maxVolume.zoneVolumeMax.zoneVolumeConfiguration |
      initialVolume.zoneVolumeInitial.zoneVolumeConfiguration |
      pageVolume.zoneVolumePage.zoneVolumeConfiguration |
      partyVolume.zoneVolumeParty.zoneVolumeConfiguration =>
    subst he
    obtain ⟨n, hn, hcn⟩ := bind_eq_ok hc
    replace hn := Outcome.ofRange_eq_ok.mp hn
    -- the lower end of a preset's scale, and so the preset itself, can be negated
    have hlow : Fits32 (-s.lower) := by
      simp only [Command.Recoverable] at hr
      unfold Fits32
      omega
    have hneg : Fits32 (-n) := by
      obtain ⟨hlo, hhi⟩ := toDeviceAttenuation_holds hn
      unfold Fits32 at hlow ⊢
      omega
    obtain ⟨h1, h2, h3⟩ := toDeviceAttenuation_recovers hv hf hn
    cases hcn
    refine ⟨_, _, _, ?_, ?_, h1, h2, ?_⟩
    · simp [hostRange, nativeRange, isVolume, controlKind, Native.neg, Native.checked_of_fits hup,
        Native.checked_of_fits hlow, bind, Except.bind, pure, Except.pure]
    · simp [read, toHostAttenuation_of_fits hv hneg]
    · simp [command, h3, bind, Except.bind, pure, Except.pure]
  case balance.setBalance.zoneEqStatus =>
    obtain ⟨hp, hm⟩ := he
    subst hp hm
    obtain ⟨⟨p, m⟩, hpm, hcpm⟩ := bind_eq_ok hc
    cases hcpm
    obtain ⟨v, hread, h1, h2, h3⟩ := toDeviceBalance_recovers hv hf hr (Outcome.ofRange_eq_ok.mp hpm)
    refine ⟨_, _, v, ?_, ?_, h1, h2, ?_⟩
    · simp [hostRange, nativeRange, Native.neg, Native.checked_of_fits hup, bind, Except.bind, pure,
        Except.pure]
    · simp [read, hv, hread, bind, Except.bind]
    · simp [command, h3, bind, Except.bind, pure, Except.pure]

set_option maxRecDepth 100000 in
/-- Bass `4` on `{-18, 18, 2}`, sent for the host value `4.0`, reads back and is sent again. -/
theorem read_command_recovers_bass :
    ∃ lo hi v : Float, bass.hostRange (⟨-18, 18, 2⟩ : Scale) = .ok (lo, hi) ∧
      bass.read (.zoneEqStatus ⟨1, 4, 0, false, .center, 0⟩) ⟨-18, 18, 2⟩ = .ok v ∧ lo ≤ v ∧ v ≤ hi ∧
      bass.command 1 v ⟨-18, 18, 2⟩ = .ok (.setBass 1 4) :=
  read_command_recovers .bass (by decide) ⟨by decide, by decide, by decide, by decide⟩ 1
    (h := 4.0) (by rfl) (by unfold Command.Recoverable; decide) rfl

set_option maxRecDepth 100000 in
/-- On `{0, 13, 2}` the upper end is off the step grid: the host value `100` makes the bass dial
send `13`, an event reporting `13` reads as `13`, and the dial sends that as `12`. -/
theorem bass_upper_end_comes_back_lower :
    bass.command 1 (100.0 : Float) ⟨0, 13, 2⟩ = .ok (.setBass 1 13) ∧
      bass.read (.zoneEqStatus ⟨1, 13, 0, false, .center, 0⟩) ⟨0, 13, 2⟩ = .ok (ofInt 13 : Float) ∧
      bass.command 1 (ofInt 13 : Float) ⟨0, 13, 2⟩ = .ok (.setBass 1 12) :=
  ⟨by rfl, by rfl, by rfl⟩

end Dial

end ZoneBridge
