import Mathlib.Algebra.Order.Field.Power
import Mathlib.Algebra.Order.Ring.Abs
import Mathlib.Data.Rat.Cast.Order
import Mathlib.Tactic.FieldSimp
import Mathlib.Tactic.Linarith
import Mathlib.Tactic.Positivity
import Mathlib.Tactic.Ring
import RestShell.Decimal.Places

/-! Binary numbers as rationals, and how far rounding moves a quotient. A quotient comes out as the
nearest multiple of the power of two that its size allows: one that is such a multiple comes out as
it is, and any other moves by half that power at most. -/

namespace RestShell

section Naturals
variable {num den : Nat}

theorem roundEven_mul (n : Nat) (hden : 0 < den) : roundEven (n * den) den = n := by
  simp [roundEven, Nat.mul_div_cancel n hden, hden]

theorem le_roundUp_iff (num k : Nat) (hden : 0 < den) :
    k ≤ roundUp num den ↔ (k : ℚ) ≤ num / den + 1 / 2 := by
  have hpos : (0 : ℚ) < den := by exact_mod_cast hden
  have hhalf : (num / den + 1 / 2 : ℚ) = (2 * num + den : Nat) / (2 * den : Nat) := by
    push_cast
    field_simp
  rw [roundUp, Nat.le_div_iff_mul_le (by omega), hhalf, le_div_iff₀ (by positivity)]
  norm_cast

/-- A quotient is moved by half at most. -/
theorem abs_roundEven_sub_le (num : Nat) (hden : 0 < den) :
    |(roundEven num den : ℚ) - num / den| ≤ 1 / 2 := by
  have hpos : (0 : ℚ) < den := by exact_mod_cast hden
  have hsplit : (num : ℚ) = den * (num / den : Nat) + (num % den : Nat) := by
    exact_mod_cast (Nat.div_add_mod num den).symm
  have hrest : ((num % den : Nat) : ℚ) < den := by exact_mod_cast Nat.mod_lt num hden
  have hscaled : (roundEven num den : ℚ) - num / den = (roundEven num den * den - num) / den := by
    field_simp
  rw [hscaled, abs_div, abs_of_pos hpos, div_le_iff₀ hpos, abs_le]
  unfold roundEven
  dsimp only
  split_ifs with hlow hhigh
  · have hhalf : 2 * ((num % den : Nat) : ℚ) < den := by exact_mod_cast hlow
    constructor <;> linarith
  · have hhalf : (den : ℚ) < 2 * (num % den : Nat) := by exact_mod_cast hhigh
    push_cast
    constructor <;> linarith
  · -- a tie: the neighbours are equally far
    have htie : 2 * ((num % den : Nat) : ℚ) = den := by
      have heq : 2 * (num % den) = den := by omega
      exact_mod_cast heq
    have hparity : ((num / den % 2 : Nat) : ℚ) = 0 ∨ ((num / den % 2 : Nat) : ℚ) = 1 := by
      rcases Nat.mod_two_eq_zero_or_one (num / den) with h | h <;> simp [h]
    rw [Nat.cast_add]
    rcases hparity with h | h <;> rw [h] <;> constructor <;> linarith

end Naturals

namespace Binary64

/-- The size of a number, whatever its sign. -/
def magnitude (x : Binary64) : ℚ := x.ratio.1 / x.ratio.2

theorem magnitude_eq (x : Binary64) : x.magnitude = x.significand * 2 ^ x.exponent := by
  unfold magnitude ratio
  cases x.exponent with
  | ofNat e => simp
  | negSucc e => simp [zpow_negSucc, div_eq_mul_inv]

theorem ratio_snd_pos (x : Binary64) : 0 < x.ratio.2 := by
  unfold ratio
  cases x.exponent with
  | ofNat e => exact Nat.one_pos
  | negSucc e => exact Nat.pow_pos (by decide)

theorem magnitude_lt_iff (x : Binary64) (k : Nat) :
    x.magnitude < k ↔ x.ratio.1 < k * x.ratio.2 := by
  have hpos : (0 : ℚ) < x.ratio.2 := by exact_mod_cast x.ratio_snd_pos
  rw [magnitude, div_lt_iff₀ hpos]
  norm_cast

section Assembling
variable {m : Nat} {q : Int}

theorem magnitude_assemble_of_lt (hm : m < 2 ^ 52) (q : Int) :
    (assemble false m q).magnitude = m * 2 ^ (-1074 : Int) := by
  have hbits : (assemble false m q).bits.toNat = m := by
    simp only [assemble, Nat.pow_eq, if_pos hm, Bool.false_eq_true, if_false, Nat.zero_add]
    exact UInt64.toNat_ofNat_of_lt' (by change m < 2 ^ 64; omega)
  have hfield : (assemble false m q).exponentField = 0 := by
    rw [exponentField, hbits, Nat.pow_eq, Nat.div_eq_of_lt hm]
  have hfraction : (assemble false m q).fraction = m := by
    rw [fraction, hbits, Nat.pow_eq, Nat.mod_eq_of_lt hm]
  rw [magnitude_eq, significand, exponent, if_pos hfield, if_pos hfield, hfraction]

theorem magnitude_assemble (hlow : 2 ^ 52 ≤ m) (hhigh : m < 2 ^ 53) (hq : -1074 ≤ q)
    (hq' : q ≤ 971) : (assemble false m q).magnitude = m * 2 ^ q := by
  have hbits : (assemble false m q).bits.toNat = (q + 1075).toNat * 2 ^ 52 + (m - 2 ^ 52) := by
    simp only [assemble, Nat.pow_eq, if_neg (Nat.not_lt.2 hlow), if_neg (Int.not_lt.2 hq'),
      Bool.false_eq_true, if_false, Nat.zero_add]
    exact UInt64.toNat_ofNat_of_lt' (by change _ < 2 ^ 64; omega)
  have hfield : (assemble false m q).exponentField = (q + 1075).toNat := by
    rw [exponentField, hbits, Nat.pow_eq]
    omega
  have hfraction : (assemble false m q).fraction = m - 2 ^ 52 := by
    rw [fraction, hbits, Nat.pow_eq]
    omega
  have hne : ¬ (q + 1075).toNat = 0 := by omega
  have hexponent : (((q + 1075).toNat : Nat) : Int) - 1075 = q := by omega
  rw [magnitude_eq, significand, exponent, hfield, hfraction, if_neg hne, if_neg hne, hexponent,
    Nat.pow_eq, Nat.sub_add_cancel hlow]

end Assembling

section Scaling
variable {num den : Nat}

theorem scaled_quotient (num den : Nat) (q : Int) :
    ((scaled num den q).1 : ℚ) / (scaled num den q).2 = num / den / 2 ^ q := by
  cases q with
  | ofNat e => simp [scaled, div_div]
  | negSucc e => simp [scaled, zpow_negSucc, div_inv_eq_mul, div_mul_eq_mul_div]

theorem scaled_snd_pos (num : Nat) (hden : 0 < den) (q : Int) : 0 < (scaled num den q).2 := by
  cases q with
  | ofNat e => exact Nat.mul_pos hden (Nat.pow_pos (by decide))
  | negSucc e => exact hden

theorem snd_le_fst_scaled_iff (num : Nat) (hden : 0 < den) (q : Int) :
    (scaled num den q).2 ≤ (scaled num den q).1 ↔ (2 : ℚ) ^ q ≤ num / den := by
  have hpos : (0 : ℚ) < (scaled num den q).2 := by exact_mod_cast scaled_snd_pos num hden q
  have hpow : (0 : ℚ) < 2 ^ q := by positivity
  have hone : (1 : ℚ) ≤ num / den / 2 ^ q ↔ (2 : ℚ) ^ q ≤ num / den := one_le_div hpow
  rw [← hone, ← scaled_quotient, one_le_div hpos, Nat.cast_le]

/-- The quotient of two numbers lies around the quotient of their leading bits. -/
theorem quotient_bounds (hnum : 0 < num) (hden : 0 < den) :
    (2 : ℚ) ^ ((num.log2 : Int) - den.log2 - 1) < num / den ∧
      (num / den : ℚ) < 2 ^ ((num.log2 : Int) - den.log2 + 1) := by
  have hpos : (0 : ℚ) < den := by exact_mod_cast hden
  have hnumLow : (2 : ℚ) ^ (num.log2 : Int) ≤ num := by
    exact_mod_cast Nat.log2_self_le hnum.ne'
  have hnumHigh : (num : ℚ) < 2 ^ ((num.log2 : Int) + 1) := by
    exact_mod_cast Nat.lt_log2_self
  have hdenLow : (2 : ℚ) ^ (den.log2 : Int) ≤ den := by
    exact_mod_cast Nat.log2_self_le hden.ne'
  have hdenHigh : (den : ℚ) < 2 ^ ((den.log2 : Int) + 1) := by
    exact_mod_cast Nat.lt_log2_self
  constructor
  · rw [lt_div_iff₀ hpos]
    calc (2 : ℚ) ^ ((num.log2 : Int) - den.log2 - 1) * den
        < 2 ^ ((num.log2 : Int) - den.log2 - 1) * 2 ^ ((den.log2 : Int) + 1) := by gcongr
      _ = 2 ^ (num.log2 : Int) := by
          rw [← zpow_add₀ two_ne_zero]
          congr 1
          ring
      _ ≤ num := hnumLow
  · rw [div_lt_iff₀ hpos]
    calc (num : ℚ) < 2 ^ ((num.log2 : Int) + 1) := hnumHigh
      _ = 2 ^ ((num.log2 : Int) - den.log2 + 1) * 2 ^ (den.log2 : Int) := by
          rw [← zpow_add₀ two_ne_zero]
          congr 1
          ring
      _ ≤ 2 ^ ((num.log2 : Int) - den.log2 + 1) * den := by gcongr

/-- The exponent leaves a significand of 53 bits, or of less where it is the least there is. -/
theorem exponentFor_spec (hnum : 0 < num) (hden : 0 < den) :
    -1074 ≤ exponentFor num den ∧
      (num / den : ℚ) < 2 ^ (exponentFor num den + 53) ∧
      (exponentFor num den = -1074 ∨ (2 : ℚ) ^ (exponentFor num den + 52) ≤ num / den) := by
  obtain ⟨hlow, hhigh⟩ := quotient_bounds hnum hden
  generalize hk : (num.log2 : Int) - den.log2 = k at hlow hhigh
  obtain ⟨q, hq, hlt, hle⟩ : ∃ q, exponentFor num den = max q (-1074) ∧
      (num / den : ℚ) < 2 ^ (q + 53) ∧ (2 : ℚ) ^ (q + 52) ≤ num / den := by
    have hsides := snd_le_fst_scaled_iff num hden k
    by_cases hone : (2 : ℚ) ^ k ≤ num / den
    · refine ⟨k - 52, ?_, ?_, ?_⟩
      · simp only [exponentFor, hk, if_pos (hsides.2 hone)]
      · rwa [show k - 52 + 53 = k + 1 by ring]
      · rwa [show k - 52 + 52 = k by ring]
    · refine ⟨k - 53, ?_, ?_, ?_⟩
      · simp only [exponentFor, hk, if_neg (mt hsides.1 hone)]
      · rw [show k - 53 + 53 = k by ring]
        exact not_le.1 hone
      · rw [show k - 53 + 52 = k - 1 by ring]
        exact hlow.le
  rw [hq]
  refine ⟨le_max_right _ _, lt_of_lt_of_le hlt ?_, ?_⟩
  · exact zpow_le_zpow_right₀ one_le_two (by omega)
  · rcases le_or_gt q (-1074) with h | h
    · exact .inl (max_eq_right h)
    · exact .inr (by rwa [max_eq_left h.le])

theorem exponentFor_le (hnum : 0 < num) (hden : 0 < den) {p : Int} (hp : -1021 ≤ p)
    (h : (num / den : ℚ) < 2 ^ p) : exponentFor num den ≤ p - 53 := by
  obtain ⟨-, -, hleast | hle⟩ := exponentFor_spec hnum hden
  · omega
  · have hlt := (zpow_lt_zpow_iff_right₀ (one_lt_two (α := ℚ))).1 (lt_of_le_of_lt hle h)
    omega

end Scaling

section Rounding
variable {num den : Nat}

/-- The significand of a quotient: the nearest multiple of the power of two that its size allows. -/
def roundedFor (num den : Nat) : Nat :=
  roundEven (scaled num den (exponentFor num den)).1 (scaled num den (exponentFor num den)).2

theorem abs_roundedFor_sub_le (num : Nat) (hden : 0 < den) :
    |(roundedFor num den : ℚ) - num / den / 2 ^ exponentFor num den| ≤ 1 / 2 := by
  have herror := abs_roundEven_sub_le (scaled num den (exponentFor num den)).1
    (scaled_snd_pos num hden (exponentFor num den))
  rwa [scaled_quotient] at herror

theorem roundedFor_bounds (hnum : 0 < num) (hden : 0 < den) :
    roundedFor num den ≤ 2 ^ 53 ∧
      (exponentFor num den = -1074 ∨ 2 ^ 52 ≤ roundedFor num den) := by
  obtain ⟨-, hlt, hle⟩ := exponentFor_spec hnum hden
  have hpow : (0 : ℚ) < 2 ^ exponentFor num den := by positivity
  have herror := abs_le.1 (abs_roundedFor_sub_le num hden)
  refine ⟨?_, hle.imp_right fun hle => ?_⟩
  · rw [zpow_add₀ two_ne_zero, mul_comm, ← div_lt_iff₀ hpow] at hlt
    have hbound : (roundedFor num den : ℚ) < (2 ^ 53 + 1 : Nat) := by
      push_cast
      norm_num at hlt
      linarith [herror.2]
    exact Nat.lt_succ_iff.1 (by exact_mod_cast hbound)
  · rw [zpow_add₀ two_ne_zero, mul_comm, ← le_div_iff₀ hpow] at hle
    have hbound : ((2 ^ 52 : Nat) : ℚ) < (roundedFor num den + 1 : Nat) := by
      push_cast
      norm_num at hle
      linarith [herror.1]
    exact Nat.lt_succ_iff.1 (by exact_mod_cast hbound)

/-- A positive quotient becomes the nearest multiple of the power of two that its size allows. -/
theorem magnitude_ofRatio (hnum : 0 < num) (hden : 0 < den) (hq : exponentFor num den ≤ 970) :
    (ofRatio false num den).magnitude = roundedFor num den * 2 ^ exponentFor num den := by
  obtain ⟨hleast, -, -⟩ := exponentFor_spec hnum hden
  obtain ⟨hhigh, hlow⟩ := roundedFor_bounds hnum hden
  have hround : ofRatio false num den =
      if roundedFor num den = 2 ^ 53 then assemble false (2 ^ 52) (exponentFor num den + 1)
      else assemble false (roundedFor num den) (exponentFor num den) := by
    rw [ofRatio, if_neg hnum.ne']
    rfl
  rw [hround]
  split_ifs with hcarry
  · rw [hcarry, magnitude_assemble le_rfl (by decide) (by omega) (by omega), zpow_add₀ two_ne_zero]
    norm_num
    ring
  · by_cases hsmall : roundedFor num den < 2 ^ 52
    · rw [magnitude_assemble_of_lt hsmall, hlow.resolve_right (Nat.not_le.2 hsmall)]
    · exact magnitude_assemble (Nat.not_lt.1 hsmall) (lt_of_le_of_ne hhigh hcarry) hleast (by omega)

theorem magnitude_ofRatio_zero (den : Nat) : (ofRatio false 0 den).magnitude = 0 := by
  rw [ofRatio, if_pos rfl, magnitude_assemble_of_lt (by decide), Nat.cast_zero, zero_mul]

/-- Rounding moves a quotient by half a unit of its last place at most. -/
theorem abs_magnitude_ofRatio_sub_le (num : Nat) (hden : 0 < den) {p : Int} (hp : -1021 ≤ p)
    (hp' : p ≤ 1023) (h : (num / den : ℚ) < 2 ^ p) :
    |(ofRatio false num den).magnitude - num / den| ≤ 2 ^ (p - 54) := by
  rcases Nat.eq_zero_or_pos num with rfl | hnum
  · rw [magnitude_ofRatio_zero, Nat.cast_zero, zero_div, sub_zero, abs_zero]
    positivity
  have hq := exponentFor_le hnum hden hp h
  have hpow : (0 : ℚ) < 2 ^ exponentFor num den := by positivity
  have hfactor : (roundedFor num den * 2 ^ exponentFor num den - num / den : ℚ) =
      (roundedFor num den - num / den / 2 ^ exponentFor num den) * 2 ^ exponentFor num den := by
    field_simp
  rw [magnitude_ofRatio hnum hden (by omega), hfactor, abs_mul, abs_of_pos hpow]
  calc |(roundedFor num den - num / den / 2 ^ exponentFor num den : ℚ)| * 2 ^ exponentFor num den
      ≤ 1 / 2 * 2 ^ exponentFor num den := by
        gcongr
        exact abs_roundedFor_sub_le num hden
    _ ≤ 1 / 2 * 2 ^ (p - 53) := by
        gcongr
        exact one_le_two
    _ = 2 ^ (p - 54) := by
        rw [show p - 53 = p - 54 + 1 by ring, zpow_add₀ two_ne_zero]
        ring

/-- A quotient that is a number of 53 bits or less times a power of two is left as it is. -/
theorem magnitude_ofRatio_of_eq (hden : 0 < den) {m : Nat} {e : Int} (hm : m < 2 ^ 53)
    (he : -1074 ≤ e) (he' : e ≤ 970) (h : (num / den : ℚ) = m * 2 ^ e) :
    (ofRatio false num den).magnitude = num / den := by
  rcases Nat.eq_zero_or_pos num with rfl | hnum
  · rw [magnitude_ofRatio_zero, Nat.cast_zero, zero_div]
  obtain ⟨-, -, hle⟩ := exponentFor_spec hnum hden
  have hqe : exponentFor num den ≤ e := by
    have hlt : (num / den : ℚ) < 2 ^ (e + 53) := by
      rw [h, zpow_add₀ two_ne_zero, mul_comm]
      gcongr
      exact_mod_cast hm
    rcases hle with hle | hle
    · omega
    · have := (zpow_lt_zpow_iff_right₀ (one_lt_two (α := ℚ))).1 (lt_of_le_of_lt hle hlt)
      omega
  obtain ⟨k, hk⟩ := Int.le.dest hqe
  have hpow : (2 : ℚ) ^ exponentFor num den ≠ 0 := by positivity
  have hquotient : (num / den : ℚ) = (m * 2 ^ k : Nat) * 2 ^ exponentFor num den := by
    rw [h, ← hk, zpow_add₀ two_ne_zero, zpow_natCast]
    push_cast
    ring
  have hexact : roundedFor num den = m * 2 ^ k := by
    have hpos := scaled_snd_pos num hden (exponentFor num den)
    have hne : ((scaled num den (exponentFor num den)).2 : ℚ) ≠ 0 := by exact_mod_cast hpos.ne'
    have hsides := scaled_quotient num den (exponentFor num den)
    rw [hquotient, mul_div_cancel_right₀ _ hpow, div_eq_iff hne] at hsides
    have hnat : (scaled num den (exponentFor num den)).1 =
        m * 2 ^ k * (scaled num den (exponentFor num den)).2 := by exact_mod_cast hsides
    rw [roundedFor, hnat, roundEven_mul _ hpos]
  rw [magnitude_ofRatio hnum hden (by omega), hexact, hquotient]

end Rounding

section Arithmetic
variable {x y : Binary64} {m n : Nat} {e p : Int}

theorem magnitude_ofNat (hn : n < 2 ^ 53) : (ofNat n).magnitude = n := by
  have hself : (n / (1 : Nat) : ℚ) = n * 2 ^ (0 : Int) := by simp
  rw [ofNat, magnitude_ofRatio_of_eq Nat.one_pos hn (by decide) (by decide) hself]
  simp

theorem ratio_fst_pos (hy : y.magnitude ≠ 0) : 0 < y.ratio.1 := by
  refine Nat.pos_of_ne_zero fun hzero => hy ?_
  rw [magnitude, hzero, Nat.cast_zero, zero_div]

theorem quotient_eq (x y : Binary64) :
    ((x.ratio.1 * y.ratio.2 : Nat) : ℚ) / (x.ratio.2 * y.ratio.1 : Nat) =
      x.magnitude / y.magnitude := by
  rw [magnitude, magnitude, div_div_div_eq]
  push_cast
  rfl

theorem product_eq (x y : Binary64) :
    ((x.ratio.1 * y.ratio.1 : Nat) : ℚ) / (x.ratio.2 * y.ratio.2 : Nat) =
      x.magnitude * y.magnitude := by
  rw [magnitude, magnitude, div_mul_div_comm]
  push_cast
  rfl

theorem abs_magnitude_div_sub_le (hy : y.magnitude ≠ 0) (hp : -1021 ≤ p) (hp' : p ≤ 1023)
    (h : x.magnitude / y.magnitude < 2 ^ p) :
    |(div x y).magnitude - x.magnitude / y.magnitude| ≤ 2 ^ (p - 54) := by
  rw [← quotient_eq] at h ⊢
  exact abs_magnitude_ofRatio_sub_le _ (Nat.mul_pos x.ratio_snd_pos (ratio_fst_pos hy)) hp hp' h

theorem magnitude_div_of_eq (hy : y.magnitude ≠ 0) (hm : m < 2 ^ 53) (he : -1074 ≤ e)
    (he' : e ≤ 970) (h : x.magnitude / y.magnitude = m * 2 ^ e) :
    (div x y).magnitude = x.magnitude / y.magnitude := by
  rw [← quotient_eq] at h ⊢
  exact magnitude_ofRatio_of_eq (Nat.mul_pos x.ratio_snd_pos (ratio_fst_pos hy)) hm he he' h

theorem magnitude_mul_of_eq (hm : m < 2 ^ 53) (he : -1074 ≤ e) (he' : e ≤ 970)
    (h : x.magnitude * y.magnitude = m * 2 ^ e) :
    (mul x y).magnitude = x.magnitude * y.magnitude := by
  rw [← product_eq] at h ⊢
  exact magnitude_ofRatio_of_eq (Nat.mul_pos x.ratio_snd_pos y.ratio_snd_pos) hm he he' h

end Arithmetic

end Binary64

/-- A number is written in units of its last place, moved by half a unit at most. -/
theorem Places.abs_units_sub_le (places : Nat) (x : Binary64) :
    |(units places x : ℚ) - x.magnitude * 10 ^ places| ≤ 1 / 2 := by
  have hvalue : x.magnitude * 10 ^ places = ((x.ratio.1 * 10 ^ places : Nat) : ℚ) / x.ratio.2 := by
    rw [Binary64.magnitude, div_mul_eq_mul_div]
    push_cast
    rfl
  rw [hvalue]
  exact abs_roundEven_sub_le _ x.ratio_snd_pos

end RestShell
