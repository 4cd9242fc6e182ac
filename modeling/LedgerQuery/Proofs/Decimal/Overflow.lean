import LedgerQuery.Decimal.Reader
import LedgerQuery.Proofs.Decimal.Nearest

/-!
# Numbers that are not finite

A number is rounded to infinity from the middle between the largest finite float and the next power
of two on. In plain text infinity and NaN have names as well. So a text that is read as a number is
read as a finite one unless it is such a name or a decimal out of range.

* `le_roundDiv_iff`: what is rounded up to an even number.
* `nearestBits_eq_infinity_iff`, `decimalBits_eq_infinity_iff`: what is rounded to infinity.
* `isFinite_signed_iff`: the bits of finite floats.
* `Unbounded`: the texts of the numbers that are not finite.
* `parse?_unbounded_iff`: these texts, and no others, are read as such numbers.
-/

namespace LedgerQuery.Decimal

/-! ### The end of the range -/

/-- A quotient is rounded to an even number or above it from the half below it on: the tie goes to
the even one. -/
theorem le_roundDiv_iff {k : Nat} (hk : k % 2 = 0) {num den : Nat} (hden : 0 < den) :
    k ≤ roundDiv num den ↔ 2 * (k * den) ≤ 2 * num + den := by
  have hnum : num / den * den + num % den = num := Nat.div_add_mod' num den
  have hrest : num % den < den := Nat.mod_lt num hden
  rw [roundDiv]
  generalize num / den = q at hnum
  generalize num % den = r at hnum hrest
  -- the products are compared by comparing `k` with the quotient and its neighbours
  have hmono : ∀ {a b : Nat}, a ≤ b → a * den ≤ b * den := fun h => Nat.mul_le_mul_right den h
  have hsucc : (q + 1) * den = q * den + den := Nat.succ_mul q den
  have hsucc' : (q + 2) * den = q * den + 2 * den := Nat.add_mul q 2 den
  rcases lt_trichotomy k (q + 1) with hlow | heq | hhigh
  · have hle := hmono (Nat.lt_succ_iff.mp hlow)
    have hround : k ≤ if 2 * r < den then q
        else if den < 2 * r then q + 1 else if q % 2 = 0 then q else q + 1 := by
      split_ifs <;> omega
    exact iff_of_true hround (by omega)
  · rw [heq, hsucc]
    split_ifs <;> omega
  · have hle := hmono (show q + 2 ≤ k by omega)
    have hround : ¬ k ≤ if 2 * r < den then q
        else if den < 2 * r then q + 1 else if q % 2 = 0 then q else q + 1 := by
      split_ifs <;> omega
    exact iff_of_false hround (by omega)

/-- The middle between the largest finite float and the next power of two. -/
def overflow : ℚ := (2 ^ 53 - 1 / 2) * 2 ^ (971 : Int)

theorem overflow_bounds : (2 : ℚ) ^ (1023 : Int) ≤ overflow ∧ overflow < 2 ^ (1024 : Int) := by
  have hpos : (0 : ℚ) < 2 ^ (971 : Int) := by positivity
  have hlow : (2 : ℚ) ^ (1023 : Int) = 2 ^ 52 * 2 ^ (971 : Int) := by
    rw [← zpow_natCast, ← zpow_add₀ two_ne_zero]
    norm_num
  have hhigh : (2 : ℚ) ^ (1024 : Int) = 2 ^ 53 * 2 ^ (971 : Int) := by
    rw [← zpow_natCast, ← zpow_add₀ two_ne_zero]
    norm_num
  rw [hlow, hhigh, overflow]
  constructor
  · exact mul_le_mul_of_nonneg_right (by norm_num) hpos.le
  · exact mul_lt_mul_of_pos_right (by norm_num) hpos

theorem nearestBits_eq_infinity_iff {num den : Nat} (hnum : num ≠ 0) (hden : den ≠ 0) :
    nearestBits num den = infinityBits ↔ overflow ≤ num / den := by
  obtain ⟨hlow, hhigh⟩ := overflow_bounds
  by_cases hlarge : (2 : ℚ) ^ (1024 : Int) ≤ num / den
  · exact iff_of_true (nearestBits_eq_infinity hnum hden hlarge) (hhigh.le.trans hlarge)
  by_cases hsmall : (num / den : ℚ) < 2 ^ (1023 : Int)
  · refine iff_of_false (nearestBits_lt hnum hden hsmall).ne ?_
    exact not_le.mpr (hsmall.trans_le hlow)
  -- between the two powers, the value is rounded on the grid of the largest floats
  have hgrid : IsGrid (num / den) 971 := by
    refine ⟨by norm_num, ?_, .inr ?_⟩
    · exact not_le.mp hlarge
    · exact not_lt.mp hsmall
  have hpos := scaled_den_pos (Nat.pos_of_ne_zero hden) num (-971)
  have hpos' : (0 : ℚ) < (scaled num den (-971)).2 := by exact_mod_cast hpos
  have hvalue := scaled_value num den (-971)
  have hround := @le_roundDiv_iff (2 ^ 53) (by norm_num) (scaled num den (-971)).1 _ hpos
  rw [nearestBits_eq hnum hden hgrid, magnitudeBits]
  generalize (scaled num den (-971)).1 = n at hvalue hround
  generalize (scaled num den (-971)).2 = e at hpos hpos' hvalue hround
  have hbits : min ((971 + 1074 : Int).toNat * 2 ^ 52 + roundDiv n e) infinityBits = infinityBits ↔
      2 ^ 53 ≤ roundDiv n e := by
    have hinf : infinityBits = 2047 * 2 ^ 52 := rfl
    have hexp : (971 + 1074 : Int).toNat = 2045 := rfl
    rw [hinf, hexp]
    omega
  have hscale : overflow ≤ num / den ↔ (2 ^ 53 - 1 / 2 : ℚ) ≤ n / e := by
    have hpow : (0 : ℚ) < 2 ^ (971 : Int) := by positivity
    rw [hvalue, overflow, zpow_neg, ← div_eq_mul_inv]
    exact (le_div_iff₀ hpow).symm
  rw [hbits, hround, hscale, le_div_iff₀ hpos']
  -- twice the quotient is compared with an odd number
  constructor
  · intro h
    have h : (2 * (2 ^ 53 * e) : ℚ) ≤ 2 * n + e := by exact_mod_cast h
    linarith
  · intro h
    have h : (2 * (2 ^ 53 * e) : ℚ) ≤ 2 * n + e := by linarith
    exact_mod_cast h

theorem decimalBits_eq_infinity_iff (digits : Nat) (e : Int) :
    decimalBits digits e = infinityBits ↔ overflow ≤ digits * 10 ^ e := by
  by_cases hzero : digits = 0
  · have hpos : 0 < overflow := lt_of_lt_of_le (by positivity) overflow_bounds.1
    rw [hzero, decimalBits_zero, Nat.cast_zero, zero_mul]
    exact iff_of_false (by decide) (not_le.mpr hpos)
  · rw [decimalBits_eq, nearestBits_eq_infinity_iff (by positivity) (by positivity), decimal_value]

/-! ### Finite floats -/

/-- Up to infinity, finite floats are those with other bits than infinity. -/
theorem isFinite_signed_iff (negative : Bool) {bits : Nat} (h : bits ≤ infinityBits) :
    isFinite (signed negative bits) = true ↔ bits ≠ infinityBits := by
  constructor
  · rintro hfinite rfl
    revert hfinite
    cases negative <;> decide +kernel
  · intro hne
    exact isFinite_signed negative (lt_of_le_of_ne h hne)

theorem isFinite_signed_nan (negative : Bool) :
    isFinite (signed negative (infinityBits + Nat.pow 2 51)) = false := by
  cases negative <;> decide +kernel

theorem isFinite_ofDecimal_iff (negative : Bool) (digits : Nat) (e : Int) :
    isFinite (ofDecimal negative digits e) = true ↔ (digits * 10 ^ e : ℚ) < overflow := by
  rw [ofDecimal, isFinite_signed_iff negative (decimalBits_le digits e), ne_eq,
    decimalBits_eq_infinity_iff, not_le]

/-! ### Texts -/

/-- The text names infinity or NaN, or it is a decimal out of range, behind a sign or without one. -/
def Unbounded (s : String) : Prop :=
  String.ofList ((signRun s.toList).2.map Text.foldChar) ∈ ["inf", "infinity", "nan"] ∨
    ∃ digits e, unsigned? (signRun s.toList).2 = some (digits, e) ∧
      overflow ≤ (digits * 10 ^ e : ℚ)

/-- The texts that are read as numbers that are not finite. -/
theorem parse?_unbounded_iff (s : String) :
    (∃ x, parse? s = some x ∧ isFinite x = false) ↔ Unbounded s := by
  rw [parse?, Unbounded]
  dsimp only
  generalize (signRun s.toList).1 = negative
  generalize (signRun s.toList).2 = r
  generalize String.ofList (r.map Text.foldChar) = name
  simp only [List.mem_cons, List.not_mem_nil, or_false]
  by_cases hinf : name = "inf" ∨ name = "infinity"
  · have hfinite : isFinite (signed negative infinityBits) = false := by
      rw [Bool.eq_false_iff, ne_eq, isFinite_signed_iff negative le_rfl, not_not]
    rw [if_pos hinf]
    refine iff_of_true ⟨_, rfl, hfinite⟩ (.inl ?_)
    rcases hinf with h | h
    · exact .inl h
    · exact .inr (.inl h)
  rw [if_neg hinf]
  by_cases hnan : name = "nan"
  · rw [if_pos hnan]
    exact iff_of_true ⟨_, rfl, isFinite_signed_nan negative⟩ (.inl (.inr (.inr hnan)))
  rw [if_neg hnan]
  constructor
  · rintro ⟨x, hx, hfinite⟩
    obtain ⟨⟨digits, e⟩, hread, rfl⟩ := Option.map_eq_some_iff.mp hx
    refine .inr ⟨digits, e, hread, ?_⟩
    rw [← not_lt, ← isFinite_ofDecimal_iff negative, hfinite]
    exact Bool.false_ne_true
  · rintro (h | ⟨digits, e, hread, hlarge⟩)
    · exact absurd h (by tauto)
    · refine ⟨_, by rw [hread]; rfl, ?_⟩
      rw [Bool.eq_false_iff, ne_eq, isFinite_ofDecimal_iff negative, not_lt]
      exact hlarge

end LedgerQuery.Decimal
