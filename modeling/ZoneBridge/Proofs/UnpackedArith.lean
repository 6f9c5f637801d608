import Mathlib
import ZoneBridge.Proofs.NearestBinary64

/-!
# The binary64 operations, exactly

Floats compute through an unpacked form: NaN, a signed infinity, a signed zero, or a signed
`m · 2 ^ e` (`Float.Model.UnpackedFloat`). An unpacked value *denotes* a rational when it is a
zero or a finite number of that value (`Denotes`), and it is *canonical* when its mantissa and
exponent are ones the binary64 format stores (`Canonical`): every unpacked bit pattern is, and
packing a canonical value and unpacking it again gives it back (`unpack_pack`).

Comparison of canonical values is comparison of the rationals they denote
(`compare_eq_of_denotes`). Rounding a mantissa with the round and sticky bits of its lost part
gives a float of `nearest64` of the exact value (`roundWithAccuracy_shaped`) that is *shaped*:
canonical but for an exponent that may lie above the format's range (`Shaped`), where packing
it overflows. From it each arithmetic operation on canonical values gives the shaped float of
the correctly rounded result (`add_shaped`, `sub_shaped`, `mul_shaped`, `div_shaped`), and the
canonical one when that result stays within `2 ^ 64`, far below the overflow threshold
(`add_spec`, `sub_spec`, `mul_spec`, `div_spec`).
-/

open Float.Model Float.Model.UnpackedFloat

namespace ZoneBridge

/-- `1` for the positive sign, `-1` for the negative one. -/
def signValue : Sign → ℚ
  | .positive => 1
  | .negative => -1

/-- An unpacked float that is a number of value `q`: a signed zero for `0`, or `± m · 2 ^ e`. -/
def Denotes : UnpackedFloat → ℚ → Prop
  | .zero _, q => q = 0
  | .finite s m e _, q => q = signValue s * m * 2 ^ e
  | _, _ => False

/-- An unpacked float as the binary64 format stores it: a finite value has 53 binary digits and
an exponent from `-1074` to `971`, or fewer digits at the exponent `-1074`. -/
def Canonical : UnpackedFloat → Prop
  | .finite _ m e _ => m < 2 ^ 53 ∧ -1074 ≤ e ∧ e ≤ 971 ∧ (2 ^ 52 ≤ m ∨ e = -1074)
  | _ => True

/-- An unpacked float as rounding leaves it: canonical but for the exponent, which may lie above
the range; packing such a float overflows to an infinity. -/
def Shaped : UnpackedFloat → Prop
  | .finite _ m e _ => m < 2 ^ 53 ∧ -1074 ≤ e ∧ (2 ^ 52 ≤ m ∨ e = -1074)
  | _ => True

theorem Canonical.shaped {u : UnpackedFloat} (h : Canonical u) : Shaped u := by
  cases u with
  | finite s m e hm => exact ⟨h.1, h.2.1, h.2.2.2⟩
  | _ => trivial

/-! ### Packing and unpacking -/

/-- The leading one of a normal mantissa is the bit above the stored 52. -/
theorem append_implicit (m : BitVec 52) : (1#1 ++ m).toNat = 2 ^ 52 + m.toNat := by
  have h := Nat.two_pow_add_eq_or_of_lt m.isLt 1
  rw [Nat.mul_one] at h
  rw [BitVec.toNat_append, h]
  rfl

@[simp] theorem unpackSign_packComponents (s : Sign) (e : BitVec 11) (m : BitVec 52) :
    unpackSign (packComponents .binary64 s e m) = s.toBitVec := by
  ext i hi
  obtain rfl : i = 0 := by omega
  -- the sign is the top bit, above the 11 exponent and 52 mantissa bits
  cases s <;> simp [unpackSign, packComponents, Sign.toBitVec] <;>
    rw [BitVec.getLsbD_append, if_neg (by decide), BitVec.getLsbD_append, if_neg (by decide)] <;>
    rfl

@[simp] theorem ofBitVec_toBitVec (s : Sign) : Sign.ofBitVec s.toBitVec = s := by
  cases s <;> rfl

theorem unpack_packComponents (s : Sign) (e : BitVec 11) (m : BitVec 52) :
    UnpackedFloat.unpack .binary64 (packComponents .binary64 s e m) =
      if e = -1#11 then (if m = 0#52 then .infinity s else .notANumber)
      else if e = 0#11 then
        (if h : m = 0#52 then .zero s
         else .finite s m.toNat (-1074) (by simpa [BitVec.toNat_pos, BitVec.pos_iff_ne_zero] using h))
      else .finite s (2 ^ 52 + m.toNat) ((e.toNat : ℤ) - 1075) (by omega) := by
  unfold UnpackedFloat.unpack
  simp only [unpackMantissa_packComponents, unpackExponent_packComponents,
    unpackSign_packComponents, ofBitVec_toBitVec]
  split_ifs <;> simp_all [append_implicit, Format.exponentBias]


@[simp] theorem binary64_exponentBias : Format.binary64.exponentBias = 1023 := rfl

/-- Unpacking a packed canonical float gives it back. -/
theorem unpack_pack {u : UnpackedFloat} (hc : Canonical u) :
    UnpackedFloat.unpack .binary64 (UnpackedFloat.pack .binary64 u) = u := by
  cases u with
  | notANumber => rfl
  | infinity s => cases s <;> rfl
  | zero s => cases s <;> rfl
  | finite s m e hm =>
    obtain ⟨hmu, hel, heu, hlo⟩ := hc
    have hbe : (BitVec.ofNat 11 (e + 1023 + 52).toNat).toNat = (e + 1023 + 52).toNat := by
      rw [BitVec.toNat_ofNat, Nat.mod_eq_of_lt (by omega)]
    have hlogu : m.log2 < 53 := (Nat.log2_lt hm.ne').mpr hmu
    simp only [UnpackedFloat.pack]
    split_ifs with hov hlog
    · simp at hov
      omega
    · -- a normal value: the exponent field is the biased exponent, the leading one is implicit
      simp only [Format.mantissaBits] at hlog
      have hn : 2 ^ 52 ≤ m := by
        have := Nat.log2_self_le hm.ne'
        rw [show m.log2 = 52 by omega] at this
        exact this
      rw [unpack_packComponents]
      -- the biased exponent is strictly between the two reserved field values
      have hfield (c : BitVec 11) (hc : c.toNat ≠ (e + 1023 + 52).toNat) :
          BitVec.ofNat 11 (e + 1023 + 52).toNat ≠ c := fun h => hc (by rw [← h, hbe])
      have hne1 := hfield (-1#11) (by simp; omega)
      have hne0 := hfield 0#11 (by simp; omega)
      simp only [binary64_exponentBias, Nat.cast_ofNat] at hne1 hne0 hbe ⊢
      simp only [hne1, hne0, if_false, hbe, BitVec.toNat_ofNat]
      congr 1
      · omega
      · omega
    · -- a subnormal value: exponent field zero, the mantissa as it is
      simp only [Format.mantissaBits] at hlog
      have hsub : m < 2 ^ 52 := by
        by_contra hn
        have := (Nat.le_log2 hm.ne').mpr (show 2 ^ 52 ≤ m by omega)
        omega
      have he : e = -1074 := hlo.resolve_left (by omega)
      have hmz : BitVec.ofNat 52 m ≠ 0#52 := by
        intro h
        have := congrArg BitVec.toNat h
        simp at this
        omega
      rw [unpack_packComponents]
      simp only [show (0#11 : BitVec 11) ≠ -1#11 by decide, hmz, if_false, if_true, dite_false,
        BitVec.toNat_ofNat, Nat.mod_eq_of_lt hsub, he]

/-- Every bit pattern unpacks to a canonical float. -/
theorem canonical_unpack (b : BitVec 64) : Canonical (UnpackedFloat.unpack .binary64 b) := by
  unfold UnpackedFloat.unpack
  dsimp only
  have hm := (@unpackMantissa Format.binary64 b).isLt
  have he := (@unpackExponent Format.binary64 b).isLt
  split_ifs with h1 h2 h3 h4
  · trivial
  · trivial
  · trivial
  · have h0 : (@unpackExponent Format.binary64 b).toNat = 0 := by simp [h3]
    simp only [Canonical, binary64_exponentBias, h0]
    simp at hm
    omega
  · have h5 : (@unpackExponent Format.binary64 b).toNat ≠ 0 := by
      intro h
      exact h3 (BitVec.eq_of_toNat_eq (by simpa using h))
    have h6 : (@unpackExponent Format.binary64 b).toNat ≠ 2 ^ 11 - 1 := by
      intro h
      exact h1 (BitVec.eq_of_toNat_eq (by simpa using h))
    simp only [Canonical, binary64_exponentBias, append_implicit]
    simp at hm he
    omega


/-! ### Comparing canonical floats -/

/-- Between canonical numbers the larger exponent holds the larger magnitude: it is above the
subnormal range, so its mantissa has all 53 digits. -/
theorem value_lt_of_exp_lt {s₁ s₂ : Sign} {m₁ m₂ : ℕ} {e₁ e₂ : ℤ} {hm₁ : 0 < m₁} {hm₂ : 0 < m₂}
    (h₁ : Canonical (.finite s₁ m₁ e₁ hm₁)) (h₂ : Canonical (.finite s₂ m₂ e₂ hm₂))
    (he : e₁ < e₂) : (m₁ : ℚ) * 2 ^ e₁ < m₂ * 2 ^ e₂ := by
  obtain ⟨hu₁, hl₁, -, -⟩ := h₁
  obtain ⟨-, hl₂, -, hn₂ | hs₂⟩ := h₂
  · have hm₁' : (m₁ : ℚ) < 2 ^ (53 : ℕ) := by exact_mod_cast hu₁
    have hm₂' : (2 : ℚ) ^ (52 : ℕ) ≤ m₂ := by exact_mod_cast hn₂
    calc (m₁ : ℚ) * 2 ^ e₁ < 2 ^ (53 : ℕ) * 2 ^ e₁ := by gcongr
      _ = 2 ^ (52 : ℕ) * 2 ^ (e₁ + 1) := by
        rw [zpow_add₀ two_ne_zero, zpow_one]; ring
      _ ≤ 2 ^ (52 : ℕ) * 2 ^ e₂ := by gcongr; norm_num; omega
      _ ≤ m₂ * 2 ^ e₂ := by gcongr
  · omega

theorem compare_neg_neg (a b : ℚ) : compare (-a) (-b) = (compare a b).swap := by
  rcases lt_trichotomy a b with h | rfl | h
  · rw [(compare_lt_iff_lt).mpr h, (compare_gt_iff_gt).mpr (neg_lt_neg h)]
    rfl
  · rw [(compare_eq_iff_eq).mpr rfl, (compare_eq_iff_eq).mpr rfl]
    rfl
  · rw [(compare_gt_iff_gt).mpr h, (compare_lt_iff_lt).mpr (neg_lt_neg h)]
    rfl

theorem compare_positive {s₁ s₂ : Sign} {m₁ m₂ : ℕ} {e₁ e₂ : ℤ} {hm₁ : 0 < m₁} {hm₂ : 0 < m₂}
    (h₁ : Canonical (.finite s₁ m₁ e₁ hm₁)) (h₂ : Canonical (.finite s₂ m₂ e₂ hm₂)) :
    (compare e₁ e₂).then (compare m₁ m₂) = compare ((m₁ : ℚ) * 2 ^ e₁) (m₂ * 2 ^ e₂) := by
  rcases lt_trichotomy e₁ e₂ with he | rfl | he
  · rw [(compare_lt_iff_lt).mpr he, (compare_lt_iff_lt).mpr (value_lt_of_exp_lt h₁ h₂ he)]
    rfl
  · rw [(compare_eq_iff_eq).mpr rfl, Ordering.then]
    rcases lt_trichotomy m₁ m₂ with hm | rfl | hm
    · rw [(compare_lt_iff_lt).mpr hm, (compare_lt_iff_lt).mpr (by gcongr)]
    · simp
    · rw [(compare_gt_iff_gt).mpr hm, (compare_gt_iff_gt).mpr (by gcongr)]
  · rw [(compare_gt_iff_gt).mpr he, (compare_gt_iff_gt).mpr (value_lt_of_exp_lt h₂ h₁ he)]
    rfl

/-- Comparing canonical floats compares their values. -/
theorem compare_eq_of_denotes {a b : UnpackedFloat} {p q : ℚ} (ha : Canonical a)
    (hb : Canonical b) (hp : Denotes a p) (hq : Denotes b q) :
    a.compare b = some (compare p q) := by
  cases a with
  | notANumber => cases hp
  | infinity => cases hp
  | zero s₁ =>
    cases b with
    | notANumber => cases hq
    | infinity => cases hq
    | zero s₂ =>
      simp only [Denotes] at hp hq
      subst hp hq
      rfl
    | finite s₂ m₂ e₂ hm₂ =>
      simp only [Denotes] at hp hq
      subst hp hq
      have hv : (0 : ℚ) < m₂ * 2 ^ e₂ := by positivity
      cases s₂
      · simp only [UnpackedFloat.compare, signValue]
        rw [(compare_gt_iff_gt).mpr (by linarith)]
      · simp only [UnpackedFloat.compare, signValue]
        rw [(compare_lt_iff_lt).mpr (by linarith)]
  | finite s₁ m₁ e₁ hm₁ =>
    have hv₁ : (0 : ℚ) < m₁ * 2 ^ e₁ := by positivity
    cases b with
    | notANumber => cases hq
    | infinity => cases hq
    | zero s₂ =>
      simp only [Denotes] at hp hq
      subst hp hq
      cases s₁
      · simp only [UnpackedFloat.compare, signValue]
        rw [(compare_lt_iff_lt).mpr (by linarith)]
      · simp only [UnpackedFloat.compare, signValue]
        rw [(compare_gt_iff_gt).mpr (by linarith)]
    | finite s₂ m₂ e₂ hm₂ =>
      simp only [Denotes] at hp hq
      subst hp hq
      have hv₂ : (0 : ℚ) < m₂ * 2 ^ e₂ := by positivity
      have hc := compare_positive ha hb
      cases s₁ <;> cases s₂
      · simp only [UnpackedFloat.compare, signValue, hc, neg_mul, one_mul, compare_neg_neg]
      · simp only [UnpackedFloat.compare, signValue]
        rw [(compare_lt_iff_lt).mpr (by linarith)]
      · simp only [UnpackedFloat.compare, signValue]
        rw [(compare_gt_iff_gt).mpr (by linarith)]
      · simp only [UnpackedFloat.compare, signValue, hc, one_mul]


/-! ### What rounding computes -/

@[simp] theorem binary64_mantissaBits : Format.binary64.mantissaBits = 53 := rfl

@[simp] theorem binary64_minExponent : Format.binary64.minExponent = -1074 := rfl

theorem binary64_targetExponent (t : ℤ) :
    Format.binary64.targetExponent t = max (t - 53) (-1074) := by
  simp [Format.targetExponent]

@[simp] theorem ofMantissaAndAccuracy_mantissa (m : ℕ) (acc : Accuracy) :
    (ExtendedMantissa.ofMantissaAndAccuracy m acc).mantissa = m := by
  unfold ExtendedMantissa.ofMantissaAndAccuracy
  split <;> rfl

/-- What an extended mantissa records of a value `x ≥ 0`: the integer part of `x` is the
mantissa, the round bit says whether the fraction left over is at least a half, and the sticky
bit whether that fraction is neither zero nor exactly a half. -/
def Represents (em : ExtendedMantissa) (x : ℚ) : Prop :=
  ⌊x⌋ = em.mantissa ∧ (em.roundBit = true ↔ 1 / 2 ≤ Int.fract x) ∧
    (em.stickyBit = true ↔ Int.fract x ≠ 0 ∧ Int.fract x ≠ 1 / 2)

theorem represents_exact (m : ℕ) :
    Represents (ExtendedMantissa.ofMantissaAndAccuracy m .exact) m := by
  simp [Represents, ExtendedMantissa.ofMantissaAndAccuracy]

/-- A remainder `r < d` over `d` compares with a half as `2 * r` compares with `d`. -/
theorem fraction_half {r d : ℕ} (hd : 0 < d) :
    (1 / 2 ≤ (r : ℚ) / d ↔ d ≤ 2 * r) ∧ ((r : ℚ) / d = 1 / 2 ↔ 2 * r = d) ∧
      ((r : ℚ) / d = 0 ↔ r = 0) := by
  have hd' : (0 : ℚ) < d := by exact_mod_cast hd
  refine ⟨?_, ?_, ?_⟩
  · rw [le_div_iff₀ hd']
    constructor <;> intro h
    · have : (d : ℚ) ≤ 2 * r := by linarith
      exact_mod_cast this
    · have : (d : ℚ) ≤ 2 * r := by exact_mod_cast h
      linarith
  · rw [div_eq_iff hd'.ne']
    constructor <;> intro h
    · have : ((2 * r : ℕ) : ℚ) = d := by push_cast; linarith
      exact_mod_cast this
    · have : ((2 * r : ℕ) : ℚ) = d := by exact_mod_cast h
      push_cast at this
      linarith
  · rw [div_eq_zero_iff]
    simp [hd'.ne']

/-- A quotient with the accuracy of its remainder records the exact ratio. -/
theorem represents_div (n : ℕ) {d : ℕ} (hd : 0 < d) :
    Represents (ExtendedMantissa.ofMantissaAndAccuracy (n / d) (accuracyOfFraction (n % d) d))
      ((n : ℚ) / d) := by
  have hd' : (0 : ℚ) < d := by exact_mod_cast hd
  have hsplit : (n : ℚ) / d = (n / d : ℕ) + ((n % d : ℕ) : ℚ) / d := by
    rw [div_eq_iff hd'.ne', add_mul, div_mul_cancel₀ _ hd'.ne']
    exact_mod_cast (Nat.div_add_mod' n d).symm
  have hf1 : ((n % d : ℕ) : ℚ) / d < 1 := by
    rw [div_lt_one hd']
    exact_mod_cast Nat.mod_lt n hd
  -- the quotient is the integer part and the remainder over `d` the fraction
  have hfl : ⌊(n : ℚ) / d⌋ = (n / d : ℕ) := by
    have : (0 : ℚ) ≤ ((n % d : ℕ) : ℚ) / d := by positivity
    rw [hsplit, Int.floor_eq_iff, Int.cast_natCast]
    constructor <;> linarith
  have hfr : Int.fract ((n : ℚ) / d) = ((n % d : ℕ) : ℚ) / d := by
    rw [← Int.self_sub_floor, hfl, Int.cast_natCast, hsplit]
    ring
  obtain ⟨hle, heq, hzero⟩ := fraction_half (r := n % d) hd
  refine ⟨by rw [hfl, ofMantissaAndAccuracy_mantissa], ?_⟩
  unfold accuracyOfFraction
  simp only [hfr, hle, ne_eq, heq, hzero]
  split_ifs with h0
  · simp [ExtendedMantissa.ofMantissaAndAccuracy, h0, hd.ne']
  · rcases lt_trichotomy (2 * (n % d)) d with h | h | h
    · rw [(compare_lt_iff_lt).mpr h]
      simp [ExtendedMantissa.ofMantissaAndAccuracy]
      omega
    · rw [(compare_eq_iff_eq).mpr h]
      simp [ExtendedMantissa.ofMantissaAndAccuracy]
      omega
    · rw [(compare_gt_iff_gt).mpr h]
      simp [ExtendedMantissa.ofMantissaAndAccuracy]
      omega

/-- Rounding an extended mantissa to nearest, ties to even, rounds the value it records. -/
theorem Represents.roundedMantissa {em : ExtendedMantissa} {x : ℚ} (h : Represents em x) :
    (em.roundedMantissa : ℤ) = roundHalfEven x := by
  obtain ⟨hf, hr, hs⟩ := h
  unfold roundHalfEven
  rw [hf]
  rcases em with ⟨m, r, s⟩
  -- the round and sticky bits say on which side of the half the fraction lies
  cases r <;> cases s <;> simp only [Bool.false_eq_true, false_iff, true_iff, not_le, ne_eq,
    not_and, not_not] at hr hs <;>
    simp only [ExtendedMantissa.roundedMantissa, ExtendedMantissa.accuracy,
      Accuracy.roundToNearestEven]
  · rw [if_pos hr]
  · rw [if_pos hr]
  · have hhalf : Int.fract x = 1 / 2 := hs (by linarith)
    rw [hhalf, if_neg (lt_irrefl _), if_neg (lt_irrefl _)]
    push_cast
    rfl
  · rw [if_neg (not_lt.mpr hr), if_pos (lt_of_le_of_ne hr (Ne.symm hs.2))]
    push_cast
    rfl

/-- Shifting right by one halves the value: the last bit of the mantissa becomes the round bit,
and everything below it the sticky bit. -/
theorem Represents.shiftRightOne {em : ExtendedMantissa} {x : ℚ} (h : Represents em x) :
    Represents em.shiftRightOne (x / 2) := by
  obtain ⟨hf, hr, hs⟩ := h
  have hf0 := Int.fract_nonneg x
  have hf1 := Int.fract_lt_one x
  obtain ⟨b, hb, hm⟩ : ∃ b, b < 2 ∧ em.mantissa = 2 * (em.mantissa / 2) + b :=
    ⟨em.mantissa % 2, Nat.mod_lt _ (by norm_num), (Nat.div_add_mod _ _).symm⟩
  have hx : x / 2 = (em.mantissa / 2 : ℕ) + (b + Int.fract x) / 2 := by
    have hxm := Int.floor_add_fract x
    rw [hf, Int.cast_natCast] at hxm
    have hmq : (em.mantissa : ℚ) = 2 * (em.mantissa / 2 : ℕ) + b := by exact_mod_cast hm
    linarith
  have hb' : (b : ℚ) ≤ 1 := by exact_mod_cast Nat.lt_succ_iff.mp hb
  have hfl : ⌊x / 2⌋ = (em.mantissa / 2 : ℕ) := by
    have : (0 : ℚ) ≤ b := by positivity
    rw [hx, Int.floor_eq_iff, Int.cast_natCast]
    constructor <;> linarith
  have hfr : Int.fract (x / 2) = (b + Int.fract x) / 2 := by
    rw [← Int.self_sub_floor, hfl, Int.cast_natCast, hx]
    ring
  have hmod : em.mantissa % 2 = b := by omega
  refine ⟨hfl, ?_, ?_⟩ <;> simp only [ExtendedMantissa.shiftRightOne, hfr, hmod]
  · interval_cases b
    · simp only [Nat.cast_zero, zero_add, bne_self_eq_false, Bool.false_eq_true, false_iff,
        not_le]
      linarith
    · norm_num
      linarith
  · rw [Bool.or_eq_true, hr, hs]
    -- both sides say that the fraction is not zero
    by_cases hz : Int.fract x = 0
    · interval_cases b <;> norm_num [hz]
    · have hL : 1 / 2 ≤ Int.fract x ∨ (Int.fract x ≠ 0 ∧ Int.fract x ≠ 1 / 2) := by
        by_cases hh : 1 / 2 ≤ Int.fract x
        · exact Or.inl hh
        · exact Or.inr ⟨hz, fun h => hh (le_of_eq h.symm)⟩
      have hpos : 0 < Int.fract x := lt_of_le_of_ne hf0 (Ne.symm hz)
      simp only [hL, true_iff]
      interval_cases b <;> constructor <;> norm_num <;> intro h <;> linarith

/-- Shifting right by `n` divides the value by `2 ^ n`. -/
theorem Represents.shiftRight {em : ExtendedMantissa} {x : ℚ} (h : Represents em x) :
    ∀ n : ℕ, Represents (em >>> n) (x / 2 ^ n)
  | 0 => by
    rw [pow_zero, div_one]
    exact h
  | n + 1 => by
    have := (h.shiftRight n).shiftRightOne
    rwa [div_div, ← pow_succ] at this

theorem int_log_two_eq {y : ℚ} {k : ℤ} (hlo : 2 ^ k ≤ y) (hhi : y < 2 ^ (k + 1)) :
    Int.log 2 y = k := by
  have hy : 0 < y := lt_of_lt_of_le (by positivity) hlo
  apply le_antisymm
  · have := (Int.lt_zpow_iff_log_lt (b := 2) (by norm_num) hy).mp (by exact_mod_cast hhi)
    omega
  · exact (Int.zpow_le_iff_le_log (b := 2) (by norm_num) hy).mp (by exact_mod_cast hlo)

/-- A mantissa lies between the powers of two of its bit length. -/
theorem two_pow_log2_le (m : ℕ) (hm : 0 < m) : (2 : ℚ) ^ (m.log2 : ℤ) ≤ m := by
  rw [zpow_natCast]
  exact_mod_cast Nat.log2_self_le hm.ne'

theorem lt_two_pow_log2_succ (m : ℕ) : (m : ℚ) + 1 ≤ 2 ^ ((m.log2 : ℤ) + 1) := by
  rw [show ((m.log2 : ℤ) + 1) = ((m.log2 + 1 : ℕ) : ℤ) by push_cast; ring, zpow_natCast]
  exact_mod_cast Nat.lt_log2_self

/-- Rounding `x · 2 ^ e`, with `m` the integer part of `x`, aims at the spacing of binary64
values there. -/
theorem targetExponent_eq_spacingExp {m : ℕ} (hm : 0 < m) (e : ℤ) {x : ℚ} (hx : ⌊x⌋ = m) :
    Format.binary64.targetExponent (totalExponent m e) = spacingExp (x * 2 ^ e) := by
  have hlo : (m : ℚ) ≤ x := by
    have := Int.floor_le x
    rw [hx] at this
    exact_mod_cast this
  have hhi : x < m + 1 := by
    have := Int.lt_floor_add_one x
    rw [hx] at this
    exact_mod_cast this
  have hpos : (0 : ℚ) < x * 2 ^ e := by
    have : (0 : ℚ) < m := by exact_mod_cast hm
    exact mul_pos (by linarith) (by positivity)
  have hlog : Int.log 2 |x * 2 ^ e| = m.log2 + e := by
    rw [abs_of_pos hpos]
    apply int_log_two_eq
    · rw [zpow_add₀ two_ne_zero]
      gcongr
      exact (two_pow_log2_le m hm).trans hlo
    · rw [show (m.log2 : ℤ) + e + 1 = (m.log2 + 1) + e by ring, zpow_add₀ two_ne_zero]
      gcongr
      linarith [lt_two_pow_log2_succ m]
  rw [binary64_targetExponent, spacingExp, hlog, totalExponent]
  congr 1
  ring

/-- Rounding a value below one at an exponent at most `-1074` aims at the subnormal spacing. -/
theorem targetExponent_zero_eq_spacingExp {e : ℤ}
    (he : e ≤ Format.binary64.targetExponent (totalExponent 0 e)) {x : ℚ} (hx : 0 < x)
    (hx1 : x < 1) : Format.binary64.targetExponent (totalExponent 0 e) = spacingExp (x * 2 ^ e) := by
  have h0 : ((Nat.log2 0 : ℕ) : ℤ) = 0 := rfl
  rw [binary64_targetExponent, totalExponent, h0] at he ⊢
  have he' : e ≤ -1074 := by omega
  have hpos : (0 : ℚ) < x * 2 ^ e := mul_pos hx (by positivity)
  have hlog : Int.log 2 |x * 2 ^ e| < -1074 := by
    rw [abs_of_pos hpos]
    apply (Int.lt_zpow_iff_log_lt (b := 2) (by norm_num) hpos).mp
    calc x * 2 ^ e < 1 * 2 ^ e := by gcongr
      _ ≤ 2 ^ (-1074 : ℤ) := by
        rw [one_mul]
        exact_mod_cast zpow_le_zpow_right₀ (by norm_num : (1 : ℚ) ≤ 2) he'
  rw [spacingExp]
  omega

theorem shiftToExponent_spec {m : ℕ} {e t : ℤ} {acc : Accuracy} {x : ℚ}
    (hx : Represents (.ofMantissaAndAccuracy m acc) x) (he : e ≤ t) :
    (shiftToExponent m e acc t).2 = t ∧
      Represents (shiftToExponent m e acc t).1 (x * 2 ^ e / 2 ^ t) := by
  refine ⟨by simp [shiftToExponent]; omega, ?_⟩
  have h := hx.shiftRight (t - e).toNat
  have hpow : x * 2 ^ e / 2 ^ t = x / 2 ^ (t - e).toNat := by
    rw [← zpow_natCast, Int.toNat_of_nonneg (by omega), zpow_sub₀ two_ne_zero]
    field_simp
  rw [hpow]
  exact h

/-- The second shift of rounding keeps a rounded mantissa below `2 ^ 53` where it is. -/
theorem carry_of_lt {R : ℕ} {t : ℤ} (hR : R < 2 ^ 53) (ht : -1074 ≤ t) :
    (shiftToTargetExponent .binary64 R t .exact).1.mantissa = R ∧
      (shiftToTargetExponent .binary64 R t .exact).2 = t := by
  have hl : R.log2 < 53 := by
    by_cases hz : R = 0
    · subst hz; simp
    · exact (Nat.log2_lt hz).mpr hR
  have hz : (Format.binary64.targetExponent (totalExponent R t) - t).toNat = 0 := by
    rw [binary64_targetExponent, totalExponent]
    omega
  simp only [shiftToTargetExponent, shiftToExponent, hz]
  exact ⟨rfl, by simp⟩

/-- The second shift of rounding turns a carry into the next binade: `2 ^ 53` becomes `2 ^ 52`
one exponent up. -/
theorem carry_of_eq {t : ℤ} (ht : -1074 ≤ t) :
    (shiftToTargetExponent .binary64 (2 ^ 53) t .exact).1.mantissa = 2 ^ 52 ∧
      (shiftToTargetExponent .binary64 (2 ^ 53) t .exact).2 = t + 1 := by
  have hz : (Format.binary64.targetExponent (totalExponent (2 ^ 53) t) - t).toNat = 1 := by
    rw [binary64_targetExponent, totalExponent, Nat.log2_two_pow]
    omega
  simp only [shiftToTargetExponent, shiftToExponent, hz]
  constructor
  · rfl
  · simp

theorem roundWithAccuracy_eq (s : Sign) (m : ℕ) (e : ℤ) (acc : Accuracy) :
    roundWithAccuracy .binary64 s m e acc =
      let c := shiftToTargetExponent .binary64
        (shiftToTargetExponent .binary64 m e acc).1.roundedMantissa
        (shiftToTargetExponent .binary64 m e acc).2 .exact
      if h : c.1.mantissa = 0 then .zero s else .finite s c.1.mantissa c.2 (Nat.pos_of_ne_zero h) :=
  rfl



section Rounding

/-! ### Rounding at the target exponent

Rounding `x · 2 ^ e`, with `m = ⌊x⌋`, first shifts it to the target exponent `t` of
`m · 2 ^ e` and rounds the mantissa there; `R` below is that rounded mantissa. -/

variable {m : ℕ} {e : ℤ} {acc : Accuracy} {x : ℚ}
  (hx : Represents (.ofMantissaAndAccuracy m acc) x)
  (he : e ≤ Format.binary64.targetExponent (totalExponent m e))
include hx he

/-- The rounded mantissa is the scaled value rounded to an integer, a tie to the even one. -/
theorem roundedMantissa_eq :
    ((shiftToTargetExponent .binary64 m e acc).1.roundedMantissa : ℤ) =
      roundHalfEven (x * 2 ^ e / 2 ^ Format.binary64.targetExponent (totalExponent m e)) :=
  (shiftToExponent_spec hx he).2.roundedMantissa

/-- The rounded mantissa in units of the spacing is the binary64 value nearest to `x · 2 ^ e`. -/
theorem roundedMantissa_value :
    ((shiftToTargetExponent .binary64 m e acc).1.roundedMantissa : ℚ) *
      2 ^ Format.binary64.targetExponent (totalExponent m e) = nearest64 (x * 2 ^ e) := by
  have hR := roundedMantissa_eq hx he
  obtain ⟨hxlo, hxhi⟩ := Int.floor_eq_iff.mp (show ⌊x⌋ = (m : ℤ) by simpa using hx.1)
  push_cast at hxlo hxhi
  by_cases hx0 : x = 0
  · rw [hx0, zero_mul, zero_div, roundHalfEven_zero] at hR
    rw [show (shiftToTargetExponent .binary64 m e acc).1.roundedMantissa = 0 by exact_mod_cast hR,
      hx0]
    simp
  -- the target exponent is the spacing of binary64 values at `x · 2 ^ e`
  have ht : Format.binary64.targetExponent (totalExponent m e) = spacingExp (x * 2 ^ e) := by
    rcases Nat.eq_zero_or_pos m with hm0 | hm
    · subst hm0
      exact targetExponent_zero_eq_spacingExp he
        (lt_of_le_of_ne (by simpa using hxlo) (Ne.symm hx0)) (by simpa using hxhi)
    · exact targetExponent_eq_spacingExp hm e (by simpa using hx.1)
  rw [nearest64, ← ht, ← hR, Int.cast_natCast]

/-- The scaled value has at most 53 binary digits before the point, so its rounding is at most
`2 ^ 53`. -/
theorem roundedMantissa_le : (shiftToTargetExponent .binary64 m e acc).1.roundedMantissa ≤ 2 ^ 53 := by
  set t := Format.binary64.targetExponent (totalExponent m e) with ht_def
  have hRy := abs_roundHalfEven_sub_le (x * 2 ^ e / 2 ^ t)
  rw [← roundedMantissa_eq hx he, Int.cast_natCast] at hRy
  obtain ⟨-, hxhi⟩ := Int.floor_eq_iff.mp (show ⌊x⌋ = (m : ℤ) by simpa using hx.1)
  push_cast at hxhi
  have hy53 : x * 2 ^ e / 2 ^ t < 2 ^ (53 : ℕ) := by
    have htl : (m.log2 : ℤ) + 1 + e - 53 ≤ t := by
      rw [ht_def, binary64_targetExponent, totalExponent]; omega
    rw [div_lt_iff₀ (by positivity)]
    calc x * 2 ^ e < 2 ^ ((m.log2 : ℤ) + 1) * 2 ^ e := by
          gcongr; linarith [lt_two_pow_log2_succ m]
      _ = 2 ^ (53 : ℕ) * 2 ^ ((m.log2 : ℤ) + 1 + e - 53) := by
          rw [← zpow_natCast, ← zpow_add₀ two_ne_zero, ← zpow_add₀ two_ne_zero]
          congr 1; push_cast; ring
      _ ≤ 2 ^ (53 : ℕ) * 2 ^ t := by gcongr; norm_num
  have : ((shiftToTargetExponent .binary64 m e acc).1.roundedMantissa : ℚ) < 2 ^ (53 : ℕ) + 1 := by
    rw [abs_le] at hRy
    linarith
  exact Nat.lt_succ_iff.mp (by exact_mod_cast this)

/-- Above the subnormal exponent the scaled value has all 53 digits, so its rounding is at least
`2 ^ 52`. -/
theorem two_pow_le_roundedMantissa (hne : Format.binary64.targetExponent (totalExponent m e) ≠ -1074) :
    2 ^ 52 ≤ (shiftToTargetExponent .binary64 m e acc).1.roundedMantissa := by
  set t := Format.binary64.targetExponent (totalExponent m e) with ht_def
  have hRy := abs_roundHalfEven_sub_le (x * 2 ^ e / 2 ^ t)
  rw [← roundedMantissa_eq hx he, Int.cast_natCast] at hRy
  obtain ⟨hxlo, -⟩ := Int.floor_eq_iff.mp (show ⌊x⌋ = (m : ℤ) by simpa using hx.1)
  push_cast at hxlo
  have hm : 0 < m := by
    rcases Nat.eq_zero_or_pos m with hm0 | hm
    · subst hm0
      rw [ht_def, binary64_targetExponent, totalExponent] at hne he
      simp at hne he
      omega
    · exact hm
  have hte : t = (m.log2 : ℤ) + e - 52 := by
    rw [ht_def, binary64_targetExponent, totalExponent] at hne ⊢; omega
  have hy52 : (2 : ℚ) ^ (52 : ℕ) ≤ x * 2 ^ e / 2 ^ t := by
    rw [le_div_iff₀ (by positivity), hte]
    calc (2 : ℚ) ^ (52 : ℕ) * 2 ^ ((m.log2 : ℤ) + e - 52) = 2 ^ (m.log2 : ℤ) * 2 ^ e := by
          rw [← zpow_natCast, ← zpow_add₀ two_ne_zero, ← zpow_add₀ two_ne_zero]
          congr 1; push_cast; ring
      _ ≤ x * 2 ^ e := by gcongr; exact (two_pow_log2_le m hm).trans hxlo
  have : (2 : ℚ) ^ (52 : ℕ) < (shiftToTargetExponent .binary64 m e acc).1.roundedMantissa + 1 := by
    rw [abs_le] at hRy
    linarith
  have : 2 ^ 52 < (shiftToTargetExponent .binary64 m e acc).1.roundedMantissa + 1 := by
    exact_mod_cast this
  omega

end Rounding

/-- Rounding a positive `x · 2 ^ e` whose integer part `m` carries enough digits for the target
exponent: the result is shaped as binary64 stores it, and it is the binary64 value nearest to
`x · 2 ^ e`, with the given sign. Only its exponent may lie beyond the range. -/
theorem roundWithAccuracy_shaped (s : Sign) {m : ℕ} {e : ℤ} {acc : Accuracy} {x : ℚ}
    (hx : Represents (.ofMantissaAndAccuracy m acc) x)
    (he : e ≤ Format.binary64.targetExponent (totalExponent m e)) :
    Shaped (roundWithAccuracy .binary64 s m e acc) ∧
      Denotes (roundWithAccuracy .binary64 s m e acc) (signValue s * nearest64 (x * 2 ^ e)) := by
  rw [roundWithAccuracy_eq]
  dsimp only
  set t := Format.binary64.targetExponent (totalExponent m e) with ht_def
  have htm : -1074 ≤ t := by rw [ht_def, binary64_targetExponent]; omega
  have h2 : (shiftToTargetExponent .binary64 m e acc).2 = t := (shiftToExponent_spec hx he).1
  rw [h2]
  set R := (shiftToTargetExponent .binary64 m e acc).1.roundedMantissa with hR_def
  have hval : (R : ℚ) * 2 ^ t = nearest64 (x * 2 ^ e) := roundedMantissa_value hx he
  have hnorm : t ≠ -1074 → 2 ^ 52 ≤ R := two_pow_le_roundedMantissa hx he
  have hR53 : R ≤ 2 ^ 53 := roundedMantissa_le hx he
  -- below `2 ^ 53` the mantissa stays; at `2 ^ 53` it carries into the next binade
  rcases hR53.lt_or_eq with hlt | heq
  · obtain ⟨hcm, hce⟩ := carry_of_lt hlt htm
    simp only [hcm, hce]
    split_ifs with hz
    · refine ⟨trivial, ?_⟩
      simp only [Denotes]
      rw [← hval, hz]
      simp
    · refine ⟨⟨hlt, htm, ?_⟩, ?_⟩
      · by_cases hn : 2 ^ 52 ≤ R
        · exact Or.inl hn
        · exact Or.inr (not_not.mp (mt hnorm hn))
      · simp only [Denotes]
        rw [← hval]
        ring
  · obtain ⟨hcm, hce⟩ := carry_of_eq (t := t) htm
    rw [← heq] at hcm hce
    simp only [hcm, hce]
    rw [dif_neg (by norm_num)]
    refine ⟨⟨by norm_num, by omega, Or.inl le_rfl⟩, ?_⟩
    have hv : nearest64 (x * 2 ^ e) = 2 ^ (52 : ℕ) * 2 ^ (t + 1) := by
      rw [← hval, heq, zpow_add₀ two_ne_zero]
      push_cast
      ring
    simp only [Denotes, hv]
    push_cast
    ring

/-! ### Values of the operations -/

@[simp] theorem signValue_mul (s₁ s₂ : Sign) : signValue (s₁ * s₂) = signValue s₁ * signValue s₂ := by
  cases s₁ <;> cases s₂ <;> norm_num [signValue]

@[simp] theorem signValue_div (s₁ s₂ : Sign) : signValue (s₁ / s₂) = signValue s₁ * signValue s₂ := by
  cases s₁ <;> cases s₂ <;> norm_num [signValue] <;> rfl

@[simp] theorem signValue_neg (s : Sign) : signValue (-s) = -signValue s := by
  cases s <;> norm_num [signValue]

theorem abs_signValue (s : Sign) : |signValue s| = 1 := by
  cases s <;> norm_num [signValue]

@[simp] theorem cast_apply (s : Sign) (n : ℤ) : ((s.apply n : ℤ) : ℚ) = signValue s * n := by
  cases s <;> simp [Sign.apply, signValue]

theorem exact64_two_pow (j : ℤ) (hj : -1074 ≤ j) : Exact64 (2 ^ j) :=
  ⟨1, j, by norm_num, hj, by simp⟩

/-- Every number a canonical float stands for is one binary64 holds. -/
theorem exact64_of_denotes {u : UnpackedFloat} {q : ℚ} (hc : Canonical u) (hu : Denotes u q) :
    Exact64 q := by
  cases u with
  | notANumber => cases hu
  | infinity => cases hu
  | zero s => exact ⟨0, 0, by norm_num, by norm_num, by simpa [Denotes] using hu⟩
  | finite s m e hm =>
    obtain ⟨hmu, hel, -, -⟩ := hc
    refine ⟨s.apply m, e, ?_, hel, ?_⟩
    · cases s <;> simp [Sign.apply] <;> omega
    · simp only [Denotes] at hu
      rw [hu, cast_apply]
      push_cast
      ring

/-- A value within `2 ^ 64` rounds to one within `2 ^ 64`. -/
theorem abs_nearest64_le {x : ℚ} (h : |x| ≤ 2 ^ (64 : ℤ)) : |nearest64 x| ≤ 2 ^ (64 : ℤ) := by
  have he : Exact64 (2 ^ (64 : ℤ)) := exact64_two_pow 64 (by norm_num)
  have he' : Exact64 (-2 ^ (64 : ℤ)) := by
    obtain ⟨k, j, hk, hj, hy⟩ := he
    exact ⟨-k, j, by rwa [abs_neg], hj, by rw [hy]; push_cast; ring⟩
  rw [abs_le] at h ⊢
  exact ⟨le_nearest64_of_le he' h.1, nearest64_le_of_le he h.2⟩

/-- A shaped float of a value within the range is canonical: a normal mantissa at an exponent
above `971` stands for at least `2 ^ 1024`. -/
theorem Shaped.canonical {u : UnpackedFloat} {q : ℚ} (hs : Shaped u) (hd : Denotes u q)
    (hq : |q| < 2 ^ 1024) : Canonical u := by
  cases u with
  | finite s m e hm =>
    obtain ⟨hmu, hel, hn⟩ := hs
    refine ⟨hmu, hel, ?_, hn⟩
    by_contra hbig
    rcases hn with hn | hn
    · have hv : |q| = m * 2 ^ e := by
        simp only [Denotes] at hd
        rw [hd, mul_assoc, abs_mul, abs_signValue, one_mul, abs_of_nonneg (by positivity)]
      have h972 : (2 : ℚ) ^ 972 ≤ 2 ^ e := by
        rw [← zpow_natCast]
        exact zpow_le_zpow_right₀ one_le_two (by omega)
      have : (2 : ℚ) ^ 1024 ≤ m * 2 ^ e :=
        calc (2 : ℚ) ^ 1024 = (2 : ℚ) ^ 52 * (2 : ℚ) ^ 972 := by rw [← pow_add]
          _ ≤ (m : ℚ) * 2 ^ e := mul_le_mul (by exact_mod_cast hn) h972 (by positivity) (by positivity)
      exact absurd (hv ▸ hq) (not_lt.mpr this)
    · omega
  | _ => trivial

/-- A result within `2 ^ 64` lies far below the overflow threshold, so its shaped float is
canonical. -/
theorem Shaped.spec {u : UnpackedFloat} {r : ℚ} (h : Shaped u ∧ Denotes u (nearest64 r))
    (hb : |r| ≤ 2 ^ (64 : ℤ)) : Canonical u ∧ Denotes u (nearest64 r) := by
  have hlt : (2 : ℚ) ^ (64 : ℤ) < 2 ^ 1024 := by
    rw [← zpow_natCast]
    exact zpow_lt_zpow_right₀ one_lt_two (by norm_num)
  exact ⟨h.1.canonical h.2 ((abs_nearest64_le hb).trans_lt hlt), h.2⟩

/-- Moving a number to a lower exponent scales its mantissa up and keeps its value. -/
theorem decreaseExponent_value (m : ℕ) (e t : ℤ) :
    ((decreaseExponent m e t).1 : ℚ) * 2 ^ (decreaseExponent m e t).2 = m * 2 ^ e := by
  obtain ⟨k, hk⟩ : ∃ k : ℕ, k = (e - t).toNat := ⟨_, rfl⟩
  have h1 : (decreaseExponent m e t).1 = m * 2 ^ k := by
    simp [decreaseExponent, hk, Nat.shiftLeft_eq]
  have h2 : (decreaseExponent m e t).2 = e - k := by simp [decreaseExponent, hk]
  rw [h1, h2, zpow_sub₀ two_ne_zero, zpow_natCast]
  push_cast
  field_simp

theorem decreaseExponent_snd (m : ℕ) (e t : ℤ) : (decreaseExponent m e t).2 = min e t := by
  simp only [decreaseExponent]
  omega

/-- Rounding `± m · 2 ^ e` gives the shaped float of the nearest binary64 value. -/
theorem round_shaped (s : Sign) {m : ℕ} (hm : 0 < m) (e : ℤ) :
    Shaped (UnpackedFloat.round .binary64 s m e) ∧
      Denotes (UnpackedFloat.round .binary64 s m e) (signValue s * nearest64 (m * 2 ^ e)) := by
  set t := Format.binary64.targetExponent (totalExponent m e) with ht
  set d := decreaseExponent m e t with hd
  have hmin : d.2 = min e t := decreaseExponent_snd m e t
  have hval : (d.1 : ℚ) * 2 ^ d.2 = m * 2 ^ e := decreaseExponent_value m e t
  have hd1 : 0 < d.1 := by
    simp only [hd, decreaseExponent, Nat.shiftLeft_eq]
    positivity
  have htd : Format.binary64.targetExponent (totalExponent d.1 d.2) = t := by
    rw [targetExponent_eq_spacingExp hd1 d.2 (x := (d.1 : ℚ)) (by simp), hval, ht,
      targetExponent_eq_spacingExp hm e (x := (m : ℚ)) (by simp)]
  have hr := roundWithAccuracy_shaped s (e := d.2) (represents_exact d.1)
    (by rw [htd, hmin]; exact min_le_right _ _)
  rw [hval] at hr
  exact hr

/-- Normalizing a signed mantissa gives the shaped float of the nearest binary64 value. -/
theorem normalize_shaped (n : ℤ) (e : ℤ) (z : Sign) :
    Shaped (UnpackedFloat.normalize .binary64 n e z) ∧ Denotes (UnpackedFloat.normalize .binary64 n e z) (nearest64 (n * 2 ^ e)) := by
  unfold UnpackedFloat.normalize
  rcases lt_trichotomy n 0 with hn | rfl | hn
  · rw [(compare_lt_iff_lt).mpr hn]
    have hc : (((-n).toNat : ℕ) : ℚ) = -n := by
      rw [show (((-n).toNat : ℕ) : ℚ) = (((-n).toNat : ℤ) : ℚ) by norm_cast,
        Int.toNat_of_nonneg (by omega)]
      push_cast
      ring
    have h := round_shaped .negative (m := (-n).toNat) (by omega) e
    rw [hc, show -(n : ℚ) * 2 ^ e = -(n * 2 ^ e) by ring, nearest64_neg] at h
    simpa [signValue] using h
  · exact ⟨trivial, by simp [Denotes]⟩
  · rw [(compare_gt_iff_gt).mpr hn]
    have hc : ((n.toNat : ℕ) : ℚ) = n := by
      rw [show ((n.toNat : ℕ) : ℚ) = ((n.toNat : ℤ) : ℚ) by norm_cast, Int.toNat_of_nonneg (by omega)]
    have h := round_shaped .positive (m := n.toNat) (by omega) e
    rw [hc] at h
    simpa [signValue] using h

/-- Normalizing a signed mantissa of magnitude within `2 ^ 64` gives the canonical float of the
nearest binary64 value. -/
theorem normalize_spec (n : ℤ) (e : ℤ) (z : Sign) (hb : |(n : ℚ) * 2 ^ e| ≤ 2 ^ (64 : ℤ)) :
    Canonical (UnpackedFloat.normalize .binary64 n e z) ∧ Denotes (UnpackedFloat.normalize .binary64 n e z) (nearest64 (n * 2 ^ e)) :=
  Shaped.spec (normalize_shaped n e z) hb

theorem signValue_mul_self (s : Sign) : signValue s * signValue s = 1 := by
  cases s <;> norm_num [signValue]

theorem signValue_mul_nearest64 (s : Sign) (x : ℚ) :
    signValue s * nearest64 x = nearest64 (signValue s * x) := by
  cases s <;> simp [signValue, nearest64_neg]

/-- An exponent leaves room for a full mantissa when the mantissa has 53 digits or the exponent
is already at the bottom of the range. -/
theorem le_targetExponent {m : ℕ} {e : ℤ} (h : 2 ^ 52 ≤ m ∨ e ≤ -1074) :
    e ≤ Format.binary64.targetExponent (totalExponent m e) := by
  rw [binary64_targetExponent, totalExponent]
  rcases h with h | h
  · have : 52 ≤ m.log2 := (Nat.le_log2 (by omega)).mpr h
    omega
  · omega

theorem apply_decreaseExponent_value (s : Sign) (m : ℕ) {e t : ℤ} (ht : t ≤ e) :
    ((s.apply (decreaseExponent m e t).1 : ℤ) : ℚ) * 2 ^ t = signValue s * m * 2 ^ e := by
  have hv := decreaseExponent_value m e t
  rw [decreaseExponent_snd, min_eq_right ht] at hv
  rw [cast_apply, mul_assoc, Int.cast_natCast, hv, mul_assoc]

/-- Adding canonical floats gives the shaped float of the nearest binary64 sum. -/
theorem add_shaped {a b : UnpackedFloat} {p q : ℚ} (ha : Canonical a) (hb : Canonical b)
    (hp : Denotes a p) (hq : Denotes b q) :
    Shaped (UnpackedFloat.add .binary64 a b) ∧ Denotes (UnpackedFloat.add .binary64 a b) (nearest64 (p + q)) := by
  cases a with
  | notANumber => cases hp
  | infinity => cases hp
  | zero s₁ =>
    simp only [Denotes] at hp
    subst hp
    cases b with
    | notANumber => cases hq
    | infinity => cases hq
    | zero s₂ =>
      simp only [Denotes] at hq
      subst hq
      simp only [UnpackedFloat.add]
      split <;> simp [Shaped, Denotes]
    | finite s₂ m₂ e₂ hm₂ =>
      rw [zero_add, nearest64_eq_self (exact64_of_denotes hb hq)]
      exact ⟨hb.shaped, hq⟩
  | finite s₁ m₁ e₁ hm₁ =>
    cases b with
    | notANumber => cases hq
    | infinity => cases hq
    | zero s₂ =>
      simp only [Denotes] at hq
      subst hq
      rw [add_zero, nearest64_eq_self (exact64_of_denotes ha hp)]
      exact ⟨ha.shaped, hp⟩
    | finite s₂ m₂ e₂ hm₂ =>
      simp only [Denotes] at hp hq
      -- both summands are brought to the smaller exponent, where they are integers
      have hv : ((s₁.apply (decreaseExponent m₁ e₁ (min e₁ e₂)).1 +
          s₂.apply (decreaseExponent m₂ e₂ (min e₁ e₂)).1 : ℤ) : ℚ) * 2 ^ min e₁ e₂ = p + q := by
        rw [Int.cast_add, add_mul, apply_decreaseExponent_value s₁ m₁ (min_le_left _ _),
          apply_decreaseExponent_value s₂ m₂ (min_le_right _ _), hp, hq]
      rw [← hv]
      exact normalize_shaped _ _ .positive

theorem neg_spec {a : UnpackedFloat} {p : ℚ} (ha : Canonical a) (hp : Denotes a p) :
    Canonical a.neg ∧ Denotes a.neg (-p) := by
  cases a with
  | notANumber => cases hp
  | infinity => cases hp
  | zero s => exact ⟨trivial, by simpa [UnpackedFloat.neg, Denotes] using hp⟩
  | finite s m e hm =>
    simp only [Denotes] at hp
    exact ⟨ha, by simp [UnpackedFloat.neg, Denotes, hp]⟩

theorem apply_neg_sign (s : Sign) (n : ℤ) : (-s).apply n = -s.apply n := by
  cases s
  · exact (Int.neg_neg n).symm
  · rfl

theorem neg_neg_sign (s : Sign) : - -s = s := by
  cases s <;> rfl

theorem beq_neg_neg_sign (s t : Sign) : (s == - -t) = (s == t) := by
  cases s <;> cases t <;> rfl

/-- Subtracting is adding the negation, in every case the operations distinguish. -/
theorem unpacked_sub_eq_add_neg (spec : Format) (a b : UnpackedFloat) :
    UnpackedFloat.sub spec a b = UnpackedFloat.add spec a b.neg := by
  cases a <;> cases b <;>
    grind [UnpackedFloat.sub, UnpackedFloat.add, UnpackedFloat.neg, apply_neg_sign, neg_neg_sign,
      beq_neg_neg_sign]

/-- Subtracting canonical floats gives the shaped float of the nearest binary64 difference. -/
theorem sub_shaped {a b : UnpackedFloat} {p q : ℚ} (ha : Canonical a) (hb : Canonical b)
    (hp : Denotes a p) (hq : Denotes b q) :
    Shaped (UnpackedFloat.sub .binary64 a b) ∧ Denotes (UnpackedFloat.sub .binary64 a b) (nearest64 (p - q)) := by
  obtain ⟨hnb, hnq⟩ := neg_spec hb hq
  rw [unpacked_sub_eq_add_neg, sub_eq_add_neg]
  exact add_shaped ha hnb hp hnq

/-- Multiplying canonical floats gives the shaped float of the nearest binary64 product. -/
theorem mul_shaped {a b : UnpackedFloat} {p q : ℚ} (ha : Canonical a) (hb : Canonical b)
    (hp : Denotes a p) (hq : Denotes b q) :
    Shaped (UnpackedFloat.mul .binary64 a b) ∧ Denotes (UnpackedFloat.mul .binary64 a b) (nearest64 (p * q)) := by
  cases a with
  | notANumber => cases hp
  | infinity => cases hp
  | zero s₁ =>
    simp only [Denotes] at hp
    subst hp
    cases b with
    | notANumber => cases hq
    | infinity => cases hq
    | zero s₂ => simp [UnpackedFloat.mul, Shaped, Denotes]
    | finite s₂ m₂ e₂ hm₂ => simp [UnpackedFloat.mul, Shaped, Denotes]
  | finite s₁ m₁ e₁ hm₁ =>
    cases b with
    | notANumber => cases hq
    | infinity => cases hq
    | zero s₂ =>
      simp only [Denotes] at hq
      subst hq
      simp [UnpackedFloat.mul, Shaped, Denotes]
    | finite s₂ m₂ e₂ hm₂ =>
      simp only [Denotes] at hp hq
      obtain ⟨hu₁, hl₁, -, hn₁⟩ := ha
      obtain ⟨hu₂, hl₂, -, hn₂⟩ := hb
      -- the product of two mantissas has 53 digits unless both factors sit at the bottom
      have he : e₁ + e₂ ≤ Format.binary64.targetExponent (totalExponent (m₁ * m₂) (e₁ + e₂)) := by
        apply le_targetExponent
        rcases hn₁ with hn₁ | hn₁
        · left; nlinarith
        · rcases hn₂ with hn₂ | hn₂
          · left; nlinarith
          · right; omega
      have hpq : p * q = signValue (s₁ * s₂) * (((m₁ * m₂ : ℕ) : ℚ) * 2 ^ (e₁ + e₂)) := by
        rw [hp, hq, signValue_mul, zpow_add₀ two_ne_zero]
        push_cast
        ring
      have h := roundWithAccuracy_shaped (s₁ * s₂) (represents_exact (m₁ * m₂)) he
      rw [signValue_mul_nearest64, ← hpq] at h
      exact h

/-- The quotient of the mantissas carries 53 digits or sits at the bottom exponent, and with its
accuracy it stands for the exact ratio. -/
theorem divCore_spec {m₁ m₂ : ℕ} (e₁ e₂ : ℤ) (hm₁ : 0 < m₁) (hm₂ : 0 < m₂) (hu : m₁ < 2 ^ 53) :
    ∃ x : ℚ, Represents (.ofMantissaAndAccuracy (divCore .binary64 m₁ e₁ m₂ e₂).1
        (divCore .binary64 m₁ e₁ m₂ e₂).2.2) x ∧
      x * 2 ^ (divCore .binary64 m₁ e₁ m₂ e₂).2.1 = m₁ * 2 ^ e₁ / (m₂ * 2 ^ e₂) ∧
      (divCore .binary64 m₁ e₁ m₂ e₂).2.1 ≤
        Format.binary64.targetExponent (totalExponent (divCore .binary64 m₁ e₁ m₂ e₂).1
          (divCore .binary64 m₁ e₁ m₂ e₂).2.1) := by
  set E := min (e₁ - e₂)
    (Format.binary64.targetExponent (totalExponent m₁ e₁ - totalExponent m₂ e₂)) with hE
  set k := (e₁ - e₂ - E).toNat with hk
  have hk' : (k : ℤ) = e₁ - e₂ - E := Int.toNat_of_nonneg (by omega)
  have hd : divCore .binary64 m₁ e₁ m₂ e₂ =
      ((m₁ <<< k) / m₂, E, accuracyOfFraction ((m₁ <<< k) % m₂) m₂) := rfl
  rw [hd]
  refine ⟨((m₁ <<< k : ℕ) : ℚ) / m₂, represents_div _ hm₂, ?_, ?_⟩
  · have h2 : (2 : ℚ) ^ (k : ℕ) * 2 ^ E = 2 ^ e₁ / 2 ^ e₂ := by
      rw [← zpow_natCast, ← zpow_add₀ two_ne_zero, ← zpow_sub₀ two_ne_zero, hk']
      ring_nf
    simp only [Nat.shiftLeft_eq, Nat.cast_mul, Nat.cast_pow, Nat.cast_ofNat]
    rw [div_mul_eq_mul_div, mul_assoc, h2]
    field_simp
  · apply le_targetExponent
    by_cases hlow : E ≤ -1074
    · exact Or.inr hlow
    · left
      have hl₁ : m₁.log2 < 53 := (Nat.log2_lt hm₁.ne').mpr hu
      -- above the bottom, the exponent is the one that leaves 53 digits in the quotient
      have hkl : m₁.log2 + k = 52 + (m₂.log2 + 1) := by
        rw [hE, binary64_targetExponent, totalExponent, totalExponent] at hk' hlow
        omega
      rw [Nat.le_div_iff_mul_le hm₂, Nat.shiftLeft_eq]
      calc 2 ^ 52 * m₂ ≤ 2 ^ 52 * 2 ^ (m₂.log2 + 1) := Nat.mul_le_mul_left _ Nat.lt_log2_self.le
        _ = 2 ^ m₁.log2 * 2 ^ k := by rw [← pow_add, ← pow_add, hkl]
        _ ≤ m₁ * 2 ^ k := Nat.mul_le_mul_right _ (Nat.log2_self_le hm₁.ne')

/-- Dividing canonical floats by a nonzero one gives the shaped float of the nearest binary64
quotient. -/
theorem div_shaped {a b : UnpackedFloat} {p q : ℚ} (ha : Canonical a) (hb : Canonical b)
    (hp : Denotes a p) (hq : Denotes b q) (hq0 : q ≠ 0) :
    Shaped (UnpackedFloat.div .binary64 a b) ∧ Denotes (UnpackedFloat.div .binary64 a b) (nearest64 (p / q)) := by
  cases a with
  | notANumber => cases hp
  | infinity => cases hp
  | zero s₁ =>
    simp only [Denotes] at hp
    subst hp
    cases b with
    | notANumber => cases hq
    | infinity => cases hq
    | zero s₂ => exact absurd hq hq0
    | finite s₂ m₂ e₂ hm₂ => simp [UnpackedFloat.div, Shaped, Denotes]
  | finite s₁ m₁ e₁ hm₁ =>
    cases b with
    | notANumber => cases hq
    | infinity => cases hq
    | zero s₂ => exact absurd hq hq0
    | finite s₂ m₂ e₂ hm₂ =>
      simp only [Denotes] at hp hq
      obtain ⟨x, hx, hxv, he⟩ := divCore_spec e₁ e₂ hm₁ hm₂ ha.1
      have hpq : p / q = signValue (s₁ / s₂) * (x * 2 ^ (divCore .binary64 m₁ e₁ m₂ e₂).2.1) := by
        rw [hxv, hp, hq, signValue_div]
        have h₂ := signValue_mul_self s₂
        have : signValue s₂ ≠ 0 := by rintro h; simp [h] at h₂
        field_simp
        rw [sq, h₂, mul_one]
      have h := roundWithAccuracy_shaped (s₁ / s₂) hx he
      rw [signValue_mul_nearest64, ← hpq] at h
      exact h

section Bounded

variable {a b : UnpackedFloat} {p q : ℚ} (ha : Canonical a) (hb : Canonical b)
  (hp : Denotes a p) (hq : Denotes b q)
include ha hb hp hq

/-- Adding canonical floats whose sum is within `2 ^ 64` gives the canonical float of the
nearest binary64 sum. -/
theorem add_spec (hs : |p + q| ≤ 2 ^ (64 : ℤ)) :
    Canonical (UnpackedFloat.add .binary64 a b) ∧ Denotes (UnpackedFloat.add .binary64 a b) (nearest64 (p + q)) :=
  Shaped.spec (add_shaped ha hb hp hq) hs

theorem sub_spec (hs : |p - q| ≤ 2 ^ (64 : ℤ)) :
    Canonical (UnpackedFloat.sub .binary64 a b) ∧ Denotes (UnpackedFloat.sub .binary64 a b) (nearest64 (p - q)) :=
  Shaped.spec (sub_shaped ha hb hp hq) hs

theorem mul_spec (hs : |p * q| ≤ 2 ^ (64 : ℤ)) :
    Canonical (UnpackedFloat.mul .binary64 a b) ∧ Denotes (UnpackedFloat.mul .binary64 a b) (nearest64 (p * q)) :=
  Shaped.spec (mul_shaped ha hb hp hq) hs

theorem div_spec (hq0 : q ≠ 0) (hs : |p / q| ≤ 2 ^ (64 : ℤ)) :
    Canonical (UnpackedFloat.div .binary64 a b) ∧ Denotes (UnpackedFloat.div .binary64 a b) (nearest64 (p / q)) :=
  Shaped.spec (div_shaped ha hb hp hq hq0) hs

end Bounded

theorem abs_spec {a : UnpackedFloat} {p : ℚ} (ha : Canonical a) (hp : Denotes a p) :
    Canonical a.abs ∧ Denotes a.abs |p| := by
  cases a with
  | notANumber => cases hp
  | infinity => cases hp
  | zero s => exact ⟨trivial, by simpa [UnpackedFloat.abs, Denotes] using hp⟩
  | finite s m e hm =>
    simp only [Denotes] at hp
    have hv : |p| = m * 2 ^ e := by
      rw [hp, mul_assoc, abs_mul, abs_signValue, one_mul, abs_of_nonneg (by positivity)]
    exact ⟨ha, by simp [UnpackedFloat.abs, Denotes, hv, signValue]⟩

end ZoneBridge
