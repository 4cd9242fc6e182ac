import LedgerQuery.Proofs.Decimal.Bits

/-!
# Which float is nearest

The float nearest to a ratio depends on its value alone, however the ratio is written; a value that
a float has is nearest to that float; and decimals are rounded as the ratios they stand for, those
far outside of the range included.

* `IsGrid`, `isGrid_gridExponent`: the exponent on whose grid a value is rounded.
* `nearestBits_congr`, `decimalBits_congr`: equal values have the same nearest float.
* `nearestBits_of_canonical`: a finite float is nearest to its own value.
* `nearestBits_lt`: what is not too large has a finite float nearest to it.
-/

namespace LedgerQuery.Decimal

/-! ### Scaling -/

theorem scaled_eq (num den : Nat) (e : Int) :
    scaled num den e = (num * 2 ^ e.toNat, den * 2 ^ (-e).toNat) := by
  unfold scaled
  by_cases h : 0 ≤ e
  · have hneg : (-e).toNat = 0 := by omega
    rw [if_pos h, hneg]
    simp
  · have hpos : e.toNat = 0 := by omega
    rw [if_neg h, hpos]
    simp

/-- A whole power as a quotient of natural ones. -/
theorem pow_toNat_div {b : ℚ} (hb : b ≠ 0) (e : Int) : b ^ e.toNat / b ^ (-e).toNat = b ^ e := by
  rw [← zpow_natCast, ← zpow_natCast, ← zpow_sub₀ hb]
  congr 1
  omega

/-- The value of a ratio scaled by a power of two. -/
theorem scaled_value (num den : Nat) (e : Int) :
    ((scaled num den e).1 : ℚ) / (scaled num den e).2 = num / den * 2 ^ e := by
  rw [scaled_eq, ← pow_toNat_div two_ne_zero]
  push_cast
  exact mul_div_mul_comm _ _ _ _

theorem scaled_den_pos {den : Nat} (h : 0 < den) (num : Nat) (e : Int) :
    0 < (scaled num den e).2 := by
  rw [scaled_eq]
  exact Nat.mul_pos h (Nat.two_pow_pos _)

/-! ### Rounding a quotient -/

theorem roundDiv_mul_left {c : Nat} (hc : 0 < c) (num den : Nat) :
    roundDiv (c * num) (c * den) = roundDiv num den := by
  have hlt : ∀ a b, c * a < c * b ↔ a < b := fun a b => Nat.mul_lt_mul_left hc
  simp only [roundDiv, Nat.mul_div_mul_left num den hc, Nat.mul_mod_mul_left c num den,
    Nat.mul_left_comm 2 c, hlt]

/-- Rounding depends on the value of a quotient alone. -/
theorem roundDiv_congr {num den num' den' : Nat} (hden : 0 < den) (hden' : 0 < den')
    (h : (num / den : ℚ) = num' / den') : roundDiv num den = roundDiv num' den' := by
  have hcross : num * den' = num' * den := by
    rw [div_eq_div_iff (by positivity) (by positivity)] at h
    exact_mod_cast h
  rw [← roundDiv_mul_left hden' num den, ← roundDiv_mul_left hden num' den', Nat.mul_comm den' num,
    hcross, Nat.mul_comm num' den, Nat.mul_comm den' den]

theorem roundDiv_one (n : Nat) : roundDiv n 1 = n := by
  simp [roundDiv, Nat.mod_one]

/-- Less than half is rounded to zero. -/
theorem roundDiv_eq_zero {num den : Nat} (h : 2 * num < den) : roundDiv num den = 0 := by
  have hlt : num < den := by omega
  simp only [roundDiv, Nat.div_eq_of_lt hlt, Nat.mod_eq_of_lt hlt, if_pos h]

/-! ### Grids -/

/-- The value is rounded to a multiple of `2 ^ q`: the quotient is below `2 ^ 53`, and `q` is the
least exponent for which it is. -/
structure IsGrid (v : ℚ) (q : Int) : Prop where
  least : -1074 ≤ q
  lt : v < 2 ^ (53 + q)
  le : q = -1074 ∨ 2 ^ (52 + q) ≤ v

theorem zpow_lt_iff {p q : Int} : (2 : ℚ) ^ p < 2 ^ q ↔ p < q :=
  zpow_lt_zpow_iff_right₀ (by norm_num)

/-- A value has one grid only. -/
theorem IsGrid.unique {v : ℚ} {p q : Int} (hp : IsGrid v p) (hq : IsGrid v q) : p = q := by
  have hle : ∀ {p q : Int}, IsGrid v p → IsGrid v q → p ≤ q := by
    intro p q hp hq
    rcases hp.le with h | h
    · exact h ▸ hq.least
    · have := zpow_lt_iff.mp (h.trans_lt hq.lt)
      omega
  exact le_antisymm (hle hp hq) (hle hq hp)

/-- A ratio lies between two powers of two that the lengths of its parts tell. -/
theorem ratio_bounds {num den : Nat} (hnum : num ≠ 0) (hden : den ≠ 0) :
    (2 : ℚ) ^ ((num.log2 : Int) - den.log2 - 1) ≤ num / den ∧
      (num / den : ℚ) < 2 ^ ((num.log2 : Int) - den.log2 + 1) := by
  have hpos : (0 : ℚ) < den := by exact_mod_cast Nat.pos_of_ne_zero hden
  have hnumLow : ((2 : ℚ) ^ num.log2) ≤ num := by exact_mod_cast Nat.log2_self_le hnum
  have hnumHigh : (num : ℚ) < 2 ^ (num.log2 + 1) := by exact_mod_cast Nat.lt_log2_self
  have hdenLow : ((2 : ℚ) ^ den.log2) ≤ den := by exact_mod_cast Nat.log2_self_le hden
  have hdenHigh : (den : ℚ) < 2 ^ (den.log2 + 1) := by exact_mod_cast Nat.lt_log2_self
  constructor
  · have hexp : (num.log2 : Int) - den.log2 - 1 = num.log2 - (den.log2 + 1 : Nat) := by omega
    rw [hexp, zpow_sub₀ two_ne_zero, zpow_natCast, zpow_natCast]
    exact div_le_div₀ (by positivity) hnumLow hpos hdenHigh.le
  · have hexp : (num.log2 : Int) - den.log2 + 1 = (num.log2 + 1 : Nat) - den.log2 := by omega
    rw [hexp, zpow_sub₀ two_ne_zero, zpow_natCast, zpow_natCast]
    exact div_lt_div₀ hnumHigh hdenLow (by positivity) (by positivity)

/-- The quotient on the grid of `2 ^ q` is below `2 ^ k` just if the value is below `2 ^ (k + q)`. -/
theorem quotient_lt_iff (num : Nat) {den : Nat} (hden : den ≠ 0) (k : Nat) (q : Int) :
    (scaled num den (-q)).1 / (scaled num den (-q)).2 < 2 ^ k ↔
      (num / den : ℚ) < 2 ^ (k + q) := by
  have hpos := scaled_den_pos (Nat.pos_of_ne_zero hden) num (-q)
  have hpos' : (0 : ℚ) < (scaled num den (-q)).2 := by exact_mod_cast hpos
  have hvalue := scaled_value num den (-q)
  have hpow : (2 : ℚ) ^ (k + q) = 2 ^ k / 2 ^ (-q) := by
    rw [zpow_neg, div_inv_eq_mul, zpow_add₀ two_ne_zero, zpow_natCast]
  rw [Nat.div_lt_iff_lt_mul hpos, hpow, lt_div_iff₀ (by positivity), ← hvalue, div_lt_iff₀ hpos']
  exact_mod_cast Iff.rfl

theorem isGrid_gridExponent {num den : Nat} (hnum : num ≠ 0) (hden : den ≠ 0) :
    IsGrid (num / den) (gridExponent num den) := by
  obtain ⟨hlow, hhigh⟩ := ratio_bounds hnum hden
  have hmono : ∀ {p q : Int}, p ≤ q → (2 : ℚ) ^ p ≤ 2 ^ q := fun h =>
    zpow_le_zpow_right₀ one_le_two h
  have hfits := quotient_lt_iff num hden 53
  unfold gridExponent
  dsimp only
  generalize hguess : max ((Nat.log2 num : Int) - Nat.log2 den - 53) (-1074) = guess
  have hpow : Nat.pow 2 53 = 2 ^ 53 := rfl
  rw [hpow]
  by_cases h : (scaled num den (-guess)).1 / (scaled num den (-guess)).2 < 2 ^ 53
  · -- the guess is the least exponent, as it is the length of the quotient or the least of all
    rw [if_pos h]
    refine ⟨by omega, (hfits guess).mp h, ?_⟩
    by_cases hleast : guess = -1074
    · exact .inl hleast
    · exact .inr ((hmono (by omega)).trans hlow)
  · rw [if_neg h]
    refine ⟨by omega, hhigh.trans_le (hmono (by omega)), .inr ?_⟩
    have hexp : 52 + (guess + 1) = 53 + guess := by omega
    rw [hexp]
    exact not_lt.mp ((hfits guess).not.mp h)

/-! ### Nearest floats -/

/-- The nearest float is rounded on the grid of the value. -/
theorem nearestBits_eq {num den : Nat} (hnum : num ≠ 0) (hden : den ≠ 0) {q : Int}
    (hq : IsGrid (num / den) q) :
    nearestBits num den =
      min (magnitudeBits (roundDiv (scaled num den (-q)).1 (scaled num den (-q)).2) q)
        infinityBits := by
  have hgrid : gridExponent num den = q := (isGrid_gridExponent hnum hden).unique hq
  rw [nearestBits, if_neg hnum]
  dsimp only
  rw [hgrid]
  rfl

/-- Equal values have the same nearest float. -/
theorem nearestBits_congr {num den num' den' : Nat} (hden : den ≠ 0) (hden' : den' ≠ 0)
    (h : (num / den : ℚ) = num' / den') : nearestBits num den = nearestBits num' den' := by
  have hpos : (0 : ℚ) < den := by positivity
  have hpos' : (0 : ℚ) < den' := by positivity
  by_cases hnum : num = 0
  · have hnum' : num' = 0 := by
      rw [hnum, Nat.cast_zero, zero_div, eq_comm, div_eq_zero_iff] at h
      exact_mod_cast h.resolve_right hpos'.ne'
    rw [hnum, hnum', nearestBits_zero, nearestBits_zero]
  · have hnum' : num' ≠ 0 := by
      rintro rfl
      rw [Nat.cast_zero, zero_div, div_eq_zero_iff] at h
      exact hnum (by exact_mod_cast h.resolve_right hpos.ne')
    have hgrid := isGrid_gridExponent hnum hden
    have hgrid' : IsGrid (num' / den') (gridExponent num den) := h ▸ hgrid
    rw [nearestBits_eq hnum hden hgrid, nearestBits_eq hnum' hden' hgrid']
    congr 2
    refine roundDiv_congr (scaled_den_pos (Nat.pos_of_ne_zero hden) _ _)
      (scaled_den_pos (Nat.pos_of_ne_zero hden') _ _) ?_
    rw [scaled_value, scaled_value, h]

/-- The value of a finite float is rounded on its own grid. -/
theorem Canonical.isGrid {m : Nat} {q : Int} (h : Canonical m q) : IsGrid (m * 2 ^ q) q := by
  obtain ⟨hlt, hleast, -, hleading⟩ := h
  refine ⟨hleast, ?_, hleading.symm.imp_right fun hm => ?_⟩
  · rw [zpow_add₀ two_ne_zero]
    exact mul_lt_mul_of_pos_right (by exact_mod_cast hlt) (by positivity)
  · rw [zpow_add₀ two_ne_zero]
    exact mul_le_mul_of_nonneg_right (by exact_mod_cast hm) (by positivity)

/-- A finite float is nearest to its own value. -/
theorem nearestBits_of_canonical {m : Nat} {q : Int} (hm : m ≠ 0) (h : Canonical m q)
    {num den : Nat} (hden : den ≠ 0) (hvalue : (num / den : ℚ) = m * 2 ^ q) :
    nearestBits num den = magnitudeBits m q := by
  have hnum : num ≠ 0 := by
    rintro rfl
    rw [Nat.cast_zero, zero_div] at hvalue
    have : (0 : ℚ) < m * 2 ^ q := by positivity
    exact this.ne hvalue
  have hround : roundDiv (scaled num den (-q)).1 (scaled num den (-q)).2 = m := by
    rw [← roundDiv_one m]
    refine roundDiv_congr (scaled_den_pos (Nat.pos_of_ne_zero hden) _ _) one_pos ?_
    rw [scaled_value, hvalue, Nat.cast_one, div_one, mul_assoc, ← zpow_add₀ two_ne_zero]
    simp
  rw [nearestBits_eq hnum hden (hvalue ▸ h.isGrid), hround]
  exact Nat.min_eq_left h.magnitudeBits_lt.le

section Bounds

variable {num den : Nat} (hnum : num ≠ 0) (hden : den ≠ 0)

include hnum hden

/-- From `2 ^ 1024` on, infinity is nearest. -/
theorem nearestBits_eq_infinity (h : (2 : ℚ) ^ (1024 : Int) ≤ num / den) :
    nearestBits num den = infinityBits := by
  obtain ⟨q, hq⟩ : ∃ q, IsGrid (num / den) q := ⟨_, isGrid_gridExponent hnum hden⟩
  have hlarge : 972 ≤ q := by
    have := zpow_lt_iff.mp (h.trans_lt hq.lt)
    omega
  have hpos := scaled_den_pos (Nat.pos_of_ne_zero hden) num (-q)
  have hquotient : 2 ^ 52 ≤ (scaled num den (-q)).1 / (scaled num den (-q)).2 := by
    refine not_lt.mp ((quotient_lt_iff num hden 52 q).not.mpr (not_lt.mpr ?_))
    exact hq.le.resolve_left (by omega)
  have hround := hquotient.trans (le_roundDiv _ _)
  have hinf : infinityBits = 2047 * 2 ^ 52 := rfl
  rw [nearestBits_eq hnum hden hq, magnitudeBits]
  omega

/-- Below `2 ^ -1075`, zero is nearest. -/
theorem nearestBits_eq_zero (h : (num / den : ℚ) < 2 ^ (-1075 : Int)) :
    nearestBits num den = 0 := by
  obtain ⟨q, hq⟩ : ∃ q, IsGrid (num / den) q := ⟨_, isGrid_gridExponent hnum hden⟩
  have hsmall : q = -1074 := by
    refine hq.le.resolve_right fun hle => ?_
    have := zpow_lt_iff.mp (hle.trans_lt h)
    have := hq.least
    omega
  have hhalf : 2 * (scaled num den (-q)).1 < (scaled num den (-q)).2 := by
    have hpos : (0 : ℚ) < (scaled num den (-q)).2 := by
      exact_mod_cast scaled_den_pos (Nat.pos_of_ne_zero hden) num (-q)
    have hvalue : ((scaled num den (-q)).1 : ℚ) / (scaled num den (-q)).2 < 1 / 2 := by
      have hpow : (2 : ℚ) ^ (-1075 : Int) * 2 ^ (1074 : Int) = 1 / 2 := by
        rw [← zpow_add₀ two_ne_zero]
        norm_num
      rw [scaled_value, hsmall, ← hpow]
      exact mul_lt_mul_of_pos_right h (by positivity)
    rw [div_lt_div_iff₀ hpos two_pos, one_mul, mul_comm] at hvalue
    exact_mod_cast hvalue
  rw [nearestBits_eq hnum hden hq, roundDiv_eq_zero hhalf, hsmall]
  rfl

/-- What is below `2 ^ 1023` has a finite float nearest to it. -/
theorem nearestBits_lt (h : (num / den : ℚ) < 2 ^ (1023 : Int)) :
    nearestBits num den < infinityBits := by
  obtain ⟨q, hq⟩ : ∃ q, IsGrid (num / den) q := ⟨_, isGrid_gridExponent hnum hden⟩
  have hsmall : q ≤ 970 := by
    rcases hq.le with hle | hle
    · omega
    · have := zpow_lt_iff.mp (hle.trans_lt h)
      omega
  have hquotient := (quotient_lt_iff num hden 53 q).mpr hq.lt
  have hround := roundDiv_le (scaled num den (-q)).1 (scaled num den (-q)).2
  have hleast := hq.least
  have hinf : infinityBits = 2047 * 2 ^ 52 := rfl
  rw [nearestBits_eq hnum hden hq, magnitudeBits]
  omega

end Bounds

/-! ### Decimals -/

/-- The value of a decimal as a ratio of natural numbers. -/
theorem decimal_value (digits : Nat) (e : Int) :
    ((digits * 10 ^ e.toNat : Nat) : ℚ) / (10 ^ (-e).toNat : Nat) = digits * 10 ^ e := by
  rw [← pow_toNat_div (by norm_num : (10 : ℚ) ≠ 0)]
  push_cast
  exact mul_div_assoc _ _ _

theorem two_zpow_le_ten_zpow (k : Nat) : (2 : ℚ) ^ (3 * k : Int) ≤ 10 ^ (k : Int) := by
  rw [zpow_mul, zpow_natCast, zpow_natCast]
  exact pow_le_pow_left₀ (by positivity) (by norm_num) k

/-- Decimals far outside of the range are rounded like all others. -/
theorem decimalBits_eq (digits : Nat) (e : Int) :
    decimalBits digits e = nearestBits (digits * 10 ^ e.toNat) (10 ^ (-e).toNat) := by
  by_cases hzero : digits = 0
  · rw [hzero, Nat.zero_mul, decimalBits_zero, nearestBits_zero]
  have hvalue := decimal_value digits e
  have hnum : digits * 10 ^ e.toNat ≠ 0 := by positivity
  have hden : 10 ^ (-e).toNat ≠ 0 := by positivity
  have hone : (1 : ℚ) ≤ digits := by exact_mod_cast Nat.pos_of_ne_zero hzero
  rw [decimalBits, if_neg hzero]
  by_cases hlarge : 400 < e
  · rw [if_pos hlarge]
    refine (nearestBits_eq_infinity hnum hden ?_).symm
    obtain ⟨k, rfl⟩ := Int.eq_ofNat_of_zero_le (a := e) (by omega)
    rw [hvalue]
    calc (2 : ℚ) ^ (1024 : Int) ≤ 2 ^ (3 * k : Int) := zpow_le_zpow_right₀ one_le_two (by omega)
      _ ≤ 10 ^ (k : Int) := two_zpow_le_ten_zpow k
      _ ≤ digits * 10 ^ (k : Int) := le_mul_of_one_le_left (by positivity) hone
  rw [if_neg hlarge]
  by_cases hsmall : 3 * e + digits.log2 < -1100
  · rw [if_pos hsmall]
    refine (nearestBits_eq_zero hnum hden ?_).symm
    obtain ⟨k, rfl⟩ : ∃ k : Nat, e = -k := ⟨e.natAbs, by omega⟩
    have hlog : (digits : ℚ) < 2 ^ (digits.log2 + 1) := by exact_mod_cast Nat.lt_log2_self
    rw [hvalue, zpow_neg]
    calc (digits : ℚ) * (10 ^ (k : Int))⁻¹
        ≤ digits * (2 ^ (3 * k : Int))⁻¹ := by
          gcongr
          exact two_zpow_le_ten_zpow k
      _ < 2 ^ (digits.log2 + 1) * (2 ^ (3 * k : Int))⁻¹ := by gcongr
      _ = 2 ^ ((digits.log2 + 1 : Nat) - 3 * k : Int) := by
          rw [zpow_sub₀ two_ne_zero, zpow_natCast, div_eq_mul_inv]
      _ ≤ 2 ^ (-1075 : Int) := zpow_le_zpow_right₀ one_le_two (by omega)
  rw [if_neg hsmall]
  by_cases he : 0 ≤ e
  · have hneg : (-e).toNat = 0 := by omega
    rw [if_pos he, hneg]
    rfl
  · have hpos : e.toNat = 0 := by omega
    rw [if_neg he, hpos]
    simp

/-- A decimal has the same nearest float as any ratio of its value. -/
theorem decimalBits_eq_nearestBits {digits : Nat} {e : Int} {num den : Nat} (hden : den ≠ 0)
    (h : (digits * 10 ^ e : ℚ) = num / den) : decimalBits digits e = nearestBits num den := by
  rw [decimalBits_eq]
  exact nearestBits_congr (by positivity) hden ((decimal_value digits e).trans h)

/-- Equal decimals have the same nearest float. -/
theorem decimalBits_congr {digits digits' : Nat} {e e' : Int}
    (h : (digits * 10 ^ e : ℚ) = digits' * 10 ^ e') : decimalBits digits e = decimalBits digits' e' := by
  rw [decimalBits_eq digits' e']
  exact decimalBits_eq_nearestBits (by positivity) (h.trans (decimal_value digits' e').symm)

theorem decimalBits_le (digits : Nat) (e : Int) : decimalBits digits e ≤ infinityBits := by
  rw [decimalBits_eq]
  exact nearestBits_le _ _

/-- Whole numbers of up to 1023 bits have a finite float nearest to them. -/
theorem isFinite_ofInt {n : Int} {k : Nat} (hk : k ≤ 1023) (h : n.natAbs < 2 ^ k) :
    isFinite (ofInt n) = true := by
  have hbound : (n.natAbs : ℚ) < 2 ^ (k : Int) := by
    rw [zpow_natCast]
    exact_mod_cast h
  refine isFinite_signed _ ?_
  by_cases hzero : n.natAbs = 0
  · rw [hzero, nearestBits_zero]
    decide
  · refine nearestBits_lt hzero one_ne_zero ?_
    rw [Nat.cast_one, div_one]
    exact hbound.trans_le (zpow_le_zpow_right₀ one_le_two (by exact_mod_cast hk))

end LedgerQuery.Decimal
