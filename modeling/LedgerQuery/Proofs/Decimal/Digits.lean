import LedgerQuery.Decimal.Reader
import LedgerQuery.Proofs.Decimal.Nearest
import LedgerQuery.Decimal.Shortest

/-!
# The digits of a float read back

The digits that a float is written with make up a number without a zero in front, and read as a
decimal they give back the float.

* `digitsValue_toDigits`: the digits of a number stand for the number.
* `Leading`: digits without a needless zero in front.
* `Shortest.ofRatio_reads_back`: the decimal found for a ratio is nearest to its float.
* `shortestDigits_reads_back`: so is what is left of it without zeros at the end.
-/

namespace LedgerQuery.Decimal

/-! ### Digits -/

theorem isDigit_eq (c : Char) : isDigit c = c.isDigit := by
  rw [isDigit, Char.isDigit, Bool.decide_and]
  rfl

theorem digitsValue_append (ds es : List Char) :
    digitsValue (ds ++ es) = digitsValue ds * 10 ^ es.length + digitsValue es := by
  have h := @Nat.ofDigitChars_eq_ofDigitChars_zero es (digitsValue ds)
  rw [Nat.mul_comm] at h
  exact Nat.ofDigitChars_append 0 |>.trans h

theorem digitsValue_zeros (n : Nat) : digitsValue (List.replicate n '0') = 0 :=
  Nat.ofDigitChars_replicate_zero.trans (Nat.mul_zero _)

@[simp] theorem digitsValue_toDigits (n : Nat) : digitsValue (Nat.toDigits 10 n) = n :=
  Nat.ofDigitChars_ten_toDigits

/-- Digits, at least one of them, that do not begin with a zero. -/
structure Leading (ds : List Char) : Prop where
  ne_nil : ds ≠ []
  digit : ∀ c ∈ ds, isDigit c = true
  head : ds.head? ≠ some '0'

theorem leading_toDigits {n : Nat} (h : n ≠ 0) : Leading (Nat.toDigits 10 n) := by
  refine ⟨Nat.toDigits_ne_nil, fun c hc => ?_, ?_⟩
  · rw [isDigit_eq]
    exact Nat.isDigit_of_mem_toDigits (by decide) (by decide) hc
  · induction n using Nat.strongRecOn with
    | ind n ih =>
      rw [Nat.toDigits_eq_if (by decide)]
      by_cases hn : n < 10
      · have hdigit : ∀ k < 10, k ≠ 0 → k.digitChar ≠ '0' := by decide
        rw [if_pos hn, List.head?_singleton, ne_eq, Option.some_inj]
        exact hdigit n hn h
      · rw [if_neg hn, List.head?_append_of_ne_nil _ Nat.toDigits_ne_nil]
        exact ih (n / 10) (by omega) (by omega)

theorem isDigit_zeros {n : Nat} : ∀ c ∈ List.replicate n '0', isDigit c = true := by
  intro c hc
  obtain rfl := List.eq_of_mem_replicate hc
  decide

theorem Leading.append_zeros {ds : List Char} (h : Leading ds) (n : Nat) :
    Leading (ds ++ List.replicate n '0') := by
  refine ⟨by simp [h.ne_nil], fun c hc => ?_, ?_⟩
  · rcases List.mem_append.mp hc with hc | hc
    · exact h.digit c hc
    · exact isDigit_zeros c hc
  · rw [List.head?_append_of_ne_nil _ h.ne_nil]
    exact h.head

/-! ### The shortest decimal -/

namespace Shortest

/-- The exact decimal of a ratio has its value. -/
theorem exact_reads_back {num den : Nat} (hden : den = 2 ^ den.log2) :
    decimalBits (exact num den).digits (exact num den).exponent = nearestBits num den := by
  have hpos : den ≠ 0 := by
    rw [hden]
    positivity
  refine decimalBits_eq_nearestBits hpos ?_
  have hpow : (10 : ℚ) ^ den.log2 = 5 ^ den.log2 * 2 ^ den.log2 := by
    rw [← mul_pow]
    norm_num
  have hvalue : (den : ℚ) = 2 ^ den.log2 := by exact_mod_cast hden
  have hfive : Nat.pow 5 den.log2 = 5 ^ den.log2 := rfl
  rw [exact, hvalue, zpow_neg, zpow_natCast, hpow, hfive]
  push_cast
  field_simp

/-- The decimal found for a ratio is nearest to the float it was found for. -/
theorem ofRatio_reads_back (num : Nat) {den : Nat} (hden : den = 2 ^ den.log2) :
    decimalBits (ofRatio (nearestBits num den) num den).digits
      (ofRatio (nearestBits num den) num den).exponent = nearestBits num den := by
  rw [ofRatio]
  generalize hfound : List.findSome? _ (List.range 17) = found
  cases found with
  | none => exact exact_reads_back hden
  | some s =>
    obtain ⟨i, -, hi⟩ := List.exists_of_findSome?_eq_some hfound
    exact reads_back hi

/-- The digits are those that are kept with zeros behind them. -/
theorem toDigits_eq_stripped (s : Shortest) :
    ∃ z, Nat.toDigits 10 s.digits = s.stripped.1 ++ List.replicate z '0' ∧
      s.stripped.2 = s.exponent + s.stripped.1.length + z - 1 := by
  generalize hall : Nat.toDigits 10 s.digits = all
  have hkept : s.stripped.1 = (all.reverse.dropWhile (· = '0')).reverse := by rw [stripped, hall]
  have hzeros : all.reverse.takeWhile (· = '0') =
      List.replicate (all.reverse.takeWhile (· = '0')).length '0' := by
    refine List.eq_replicate_of_mem fun c hc => ?_
    exact of_decide_eq_true (List.all_eq_true.mp List.all_takeWhile c hc)
  have hsplit : all = s.stripped.1 ++
      List.replicate (all.reverse.takeWhile (· = '0')).length '0' := by
    have h := congrArg List.reverse (List.takeWhile_append_dropWhile (p := (· = '0'))
      (l := all.reverse))
    rw [List.reverse_append, List.reverse_reverse, hzeros, List.reverse_replicate, ← hkept] at h
    exact h.symm
  refine ⟨_, hsplit, ?_⟩
  have hlength := congrArg List.length hsplit
  rw [List.length_append, List.length_replicate] at hlength
  have hexponent : s.stripped.2 = s.exponent + all.length - 1 := by rw [stripped, hall]
  omega

/-- Zeros at the end of the digits are made up for by the exponent. -/
theorem stripped_value {s : Shortest} (h : s.digits ≠ 0) :
    Leading s.stripped.1 ∧
      (digitsValue s.stripped.1 * 10 ^ (s.stripped.2 + 1 - s.stripped.1.length) : ℚ) =
        s.digits * 10 ^ s.exponent := by
  obtain ⟨z, hsplit, hexponent⟩ := toDigits_eq_stripped s
  have hleading := leading_toDigits h
  have hvalue := digitsValue_toDigits s.digits
  rw [hsplit, digitsValue_append, digitsValue_zeros, List.length_replicate, Nat.add_zero] at hvalue
  have hne : s.stripped.1 ≠ [] := by
    intro hnil
    rw [hnil] at hvalue
    exact h (hvalue.symm.trans (Nat.zero_mul _))
  rw [hsplit] at hleading
  refine ⟨⟨hne, fun c hc => hleading.digit c (List.mem_append_left _ hc), ?_⟩, ?_⟩
  · rw [← List.head?_append_of_ne_nil _ hne]
    exact hleading.head
  · have hexp : s.stripped.2 + 1 - s.stripped.1.length = z + s.exponent := by omega
    rw [hexp, ← hvalue, zpow_add₀ (by norm_num), zpow_natCast]
    push_cast
    exact (mul_assoc _ _ _).symm

end Shortest

/-- The digits of a finite float other than zero give back the float. -/
theorem shortestDigits_reads_back {m : Nat} {q : Int} (hm : m ≠ 0) (h : Canonical m q) :
    Leading (shortestDigits m q).1 ∧
      decimalBits (digitsValue (shortestDigits m q).1)
        ((shortestDigits m q).2 + 1 - (shortestDigits m q).1.length) = magnitudeBits m q := by
  have hratio := scaled_eq m 1 q
  rw [Nat.one_mul] at hratio
  have hdigits : shortestDigits m q = (Shortest.ofRatio
      (nearestBits (scaled m 1 q).1 (scaled m 1 q).2) (scaled m 1 q).1 (scaled m 1 q).2).stripped :=
    rfl
  have hden : (scaled m 1 q).2 = 2 ^ (scaled m 1 q).2.log2 := by
    rw [hratio, Nat.log2_two_pow]
  have hbits : nearestBits (scaled m 1 q).1 (scaled m 1 q).2 = magnitudeBits m q := by
    refine nearestBits_of_canonical hm h (scaled_den_pos one_pos m q).ne' ?_
    rw [scaled_value, Nat.cast_one, div_one]
  have hread := Shortest.ofRatio_reads_back (scaled m 1 q).1 hden
  rw [hbits] at hread hdigits
  generalize Shortest.ofRatio (magnitudeBits m q) (scaled m 1 q).1 (scaled m 1 q).2 = s
    at hread hdigits
  have hne : s.digits ≠ 0 := by
    intro hzero
    rw [hzero, decimalBits_zero, magnitudeBits] at hread
    omega
  obtain ⟨hleading, hvalue⟩ := Shortest.stripped_value hne
  rw [hdigits]
  exact ⟨hleading, (decimalBits_congr hvalue).trans hread⟩

end LedgerQuery.Decimal
