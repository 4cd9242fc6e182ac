import Mathlib
import LedgerQuery.Decimal.Binary

/-!
# Floats and their bits

A float is its 64 bits, except that all of the patterns that stand for no number are one float. So
the bits of a float give back the float, and the bits of a number are kept by the float made of
them. A finite float is put together again from its sign, mantissa and exponent.

* `ofBits_toBits`, `toBits_ofBits`: from floats to bits and back.
* `Canonical`: the mantissas and exponents of finite floats.
* `eq_signed_of_parts`: a finite float is made of its parts.
* `isFinite_signed`: below the bits of infinity there are finite floats only.
-/

namespace LedgerQuery.Decimal

/-! ### Packed floats -/

section Packed

open Float.Model Float.Model.UnpackedFloat

theorem toBitVec_ofBitVec (b : BitVec 1) : (Sign.ofBitVec b).toBitVec = b := by
  revert b
  decide

/-- The sign, the exponent and the mantissa make up all of the bits. -/
theorem packComponents_parts (b : BitVec Format.binary64.numBits) :
    packComponents .binary64 (Sign.ofBitVec (unpackSign b)) (unpackExponent b)
      (unpackMantissa b) = b := by
  rw [packComponents, toBitVec_ofBitVec]
  refine BitVec.eq_of_getLsbD_eq fun i hi => ?_
  have hi : i < 64 := hi
  simp only [unpackSign, unpackExponent, unpackMantissa, BitVec.getLsbD_append, BitVec.getLsbD_cast,
    BitVec.getLsbD_extractLsb]
  by_cases hm : i < 52
  · simp [hm]
  · by_cases he : i - 52 < 11
    · have hplace : 52 + (i - 52) = i := by omega
      simp [hm, he, hplace]
    · have hplace : 52 + 11 + (i - 52 - 11) = i := by omega
      have htop : i - 52 - 11 = 0 := by omega
      rw [hplace]
      simp [hm, he, htop]

/-- A number without the leading bit is packed under the exponent zero. -/
theorem pack_subnormal (s : Sign) {m : Nat} (hpos : 0 < m) (hm : m < 2 ^ 52) :
    UnpackedFloat.pack .binary64 (.finite s m (-1074) hpos) =
      packComponents .binary64 s 0#_ (BitVec.ofNat _ m) := by
  have hlog : m.log2 < 52 := (Nat.log2_lt (by omega)).mpr hm
  have hbits : ¬ m.log2 + 1 = Format.binary64.mantissaBits := by
    have : Format.binary64.mantissaBits = 53 := rfl
    omega
  rw [UnpackedFloat.pack]
  dsimp only
  rw [if_neg (by decide), if_neg hbits]

/-- A number with the leading bit is packed under its own exponent. -/
theorem pack_normal (s : Sign) {m field : Nat} (hpos : 0 < m) (hlow : 2 ^ 52 ≤ m)
    (hhigh : m < 2 ^ 53) (hfield : field < 2047) :
    UnpackedFloat.pack .binary64 (.finite s m ((field : Int) - 1075) hpos) =
      packComponents .binary64 s (BitVec.ofNat _ field) (BitVec.ofNat _ m) := by
  have hlog : m.log2 = 52 := (Nat.log2_eq_iff (by omega)).mpr ⟨hlow, hhigh⟩
  have hbits : m.log2 + 1 = Format.binary64.mantissaBits := by
    rw [hlog]
    rfl
  have hbiased : ((field : Int) - 1075 + Format.binary64.exponentBias +
      Format.binary64.mantissaBitsWithoutImplicit).toNat = field := by
    have : ((Format.binary64.exponentBias : Nat) : Int) = 1023 := rfl
    have : ((Format.binary64.mantissaBitsWithoutImplicit : Nat) : Int) = 52 := rfl
    omega
  have hrange : ¬ 2 ^ Format.binary64.exponentBits ≤ field + 1 := by
    have : 2 ^ Format.binary64.exponentBits = 2048 := rfl
    omega
  rw [UnpackedFloat.pack]
  dsimp only
  rw [hbiased, if_neg hrange, if_pos hbits]

/-- Bits that are unpacked and packed again are the same bits. -/
theorem pack_unpack {b : BitVec Format.binary64.numBits} (hb : Format.binary64.Valid b) :
    UnpackedFloat.pack .binary64 (UnpackedFloat.unpack .binary64 b) = b := by
  have hpacked := packComponents_parts b
  have hmantissa : (unpackMantissa b).toNat < 2 ^ 52 := (unpackMantissa b).isLt
  have hexponent : (unpackExponent b).toNat < 2048 := (unpackExponent b).isLt
  rw [UnpackedFloat.unpack]
  dsimp only
  by_cases htop : unpackExponent b = -1#_
  · rw [if_pos htop]
    by_cases hzero : unpackMantissa b = 0#_
    · rw [if_pos hzero]
      rw [htop, hzero] at hpacked
      exact hpacked
    · rw [if_neg hzero]
      exact (hb.eq_packedNaN htop hzero).symm
  rw [if_neg htop]
  by_cases hlow : unpackExponent b = 0#_
  · rw [if_pos hlow]
    by_cases hzero : unpackMantissa b = 0#_
    · rw [dif_pos hzero]
      rw [hlow, hzero] at hpacked
      exact hpacked
    · rw [dif_neg hzero]
      rw [hlow] at hpacked ⊢
      have hpos : 0 < (unpackMantissa b).toNat := by
        simpa [BitVec.toNat_pos, BitVec.pos_iff_ne_zero] using hzero
      have hpack := pack_subnormal (Sign.ofBitVec (unpackSign b)) hpos hmantissa
      rw [BitVec.ofNat_toNat, BitVec.setWidth_eq, hpacked] at hpack
      exact hpack
  · rw [if_neg hlow]
    have hfield : (unpackExponent b).toNat < 2047 := by
      have : (unpackExponent b).toNat ≠ 2047 := fun h => htop (BitVec.eq_of_toNat_eq h)
      omega
    have hvalue : (1#1 ++ unpackMantissa b).toNat = 2 ^ 52 + (unpackMantissa b).toNat := by
      rw [BitVec.toNat_append, ← Nat.shiftLeft_add_eq_or_of_lt hmantissa]
      rfl
    -- packing drops the leading bit again
    have hrest : BitVec.ofNat 52 (1#1 ++ unpackMantissa b).toNat = unpackMantissa b := by
      refine BitVec.eq_of_toNat_eq ?_
      rw [BitVec.toNat_ofNat, hvalue]
      omega
    have hpack := pack_normal (Sign.ofBitVec (unpackSign b))
      (m := (1#1 ++ unpackMantissa b).toNat) (by omega) (by omega) (by omega) hfield
    rw [hrest, BitVec.ofNat_toNat, BitVec.setWidth_eq, hpacked] at hpack
    exact hpack

theorem toNat_unpackExponent (u : UInt64) :
    (@unpackExponent .binary64 u.toBitVec).toNat = u.toNat / 2 ^ 52 % 2048 := by
  rw [unpackExponent, BitVec.toNat_cast, BitVec.extractLsb_toNat, Nat.shiftRight_eq_div_pow]
  rfl

end Packed

/-- A float is the one with its bits. -/
theorem ofBits_toBits (x : Float) : Float.ofBits x.toBits = x := by
  obtain ⟨bits, hvalid⟩ := x
  have hpack := pack_unpack hvalid
  show Float.ofModel (Float.Model.ofBits bits) = _
  congr 1
  simp only [Float.Model.ofBits, Float.Model.pack, hpack]

/-- The bits of a number stay as they are. -/
theorem toBits_ofBits {u : UInt64} (h : u.toNat / 2 ^ 52 % 2048 ≠ 2047) :
    (Float.ofBits u).toBits = u := by
  have hvalid : Float.Model.Format.binary64.Valid u.toBitVec := by
    refine ⟨fun htop => absurd ?_ h⟩
    rw [← toNat_unpackExponent, htop]
    rfl
  have hpack := pack_unpack hvalid
  show UInt64.ofBitVec _ = u
  rw [hpack]

/-! ### Finite floats -/

/-- The mantissa and the exponent of a finite float: the leading bit of the mantissa is missing only
where the exponent cannot be lowered. -/
structure Canonical (m : Nat) (q : Int) : Prop where
  lt : m < 2 ^ 53
  least : -1074 ≤ q
  greatest : q ≤ 971
  leading : 2 ^ 52 ≤ m ∨ q = -1074

/-- The bits of a mantissa and an exponent, without a sign. -/
def magnitudeBits (m : Nat) (q : Int) : Nat :=
  (q + 1074).toNat * 2 ^ 52 + m

theorem Canonical.magnitudeBits_lt {m : Nat} {q : Int} (h : Canonical m q) :
    magnitudeBits m q < infinityBits := by
  obtain ⟨hlt, hleast, hgreatest, -⟩ := h
  have : (q + 1074).toNat ≤ 2045 := by omega
  have : infinityBits = 2047 * 2 ^ 52 := rfl
  rw [magnitudeBits]
  omega

/-- Any float is made of its first bit and the others. -/
theorem eq_signed (x : Float) :
    x = signed (decide (Nat.pow 2 63 ≤ x.toBits.toNat)) (x.toBits.toNat % 2 ^ 63) := by
  have hlt : x.toBits.toNat < 2 ^ 64 := x.toBits.toNat_lt
  have hpow : Nat.pow 2 63 = 2 ^ 63 := rfl
  have hbits : (if decide (Nat.pow 2 63 ≤ x.toBits.toNat) = true then
      Nat.pow 2 63 + x.toBits.toNat % 2 ^ 63 else x.toBits.toNat % 2 ^ 63) = x.toBits.toNat := by
    simp only [decide_eq_true_eq]
    split <;> omega
  rw [signed, hbits, UInt64.ofNat_toNat, ofBits_toBits]

/-- A finite float is made of its sign, its mantissa and its exponent. -/
theorem eq_signed_of_parts {x : Float} {negative : Bool} {m : Nat} {q : Int}
    (h : parts x = .finite negative m q) :
    Canonical m q ∧ x = signed negative (magnitudeBits m q) := by
  have hx := eq_signed x
  have hpow : Nat.pow 2 52 = 2 ^ 52 := rfl
  unfold parts at h
  generalize x.toBits.toNat = b at hx h
  rw [hpow] at h
  have hsplit : b % 2 ^ 63 = b / 2 ^ 52 % 2048 * 2 ^ 52 + b % 2 ^ 52 := by omega
  dsimp only at h
  by_cases htop : b / 2 ^ 52 % 2048 = 2047
  · -- no number, or infinity
    rw [if_pos htop] at h
    split at h <;> exact absurd h (by simp)
  rw [if_neg htop] at h
  by_cases hlow : b / 2 ^ 52 % 2048 = 0
  · rw [if_pos hlow] at h
    obtain ⟨rfl, rfl, rfl⟩ := Parts.finite.inj h
    have hbits : magnitudeBits (b % 2 ^ 52) (-1074) = b % 2 ^ 63 := by
      rw [magnitudeBits]
      omega
    rw [hbits]
    exact ⟨⟨by omega, by omega, by omega, .inr rfl⟩, hx⟩
  · rw [if_neg hlow] at h
    obtain ⟨rfl, rfl, rfl⟩ := Parts.finite.inj h
    have hbits : magnitudeBits (2 ^ 52 + b % 2 ^ 52) ((b / 2 ^ 52 % 2048 : Nat) - 1075) =
        b % 2 ^ 63 := by
      rw [magnitudeBits]
      omega
    rw [hbits]
    exact ⟨⟨by omega, by omega, by omega, .inl (by omega)⟩, hx⟩

theorem isFinite_iff {x : Float} :
    isFinite x = true ↔ ∃ negative m q, parts x = .finite negative m q := by
  unfold isFinite
  cases parts x <;> simp

theorem isFinite_of_field {x : Float} (h : x.toBits.toNat / 2 ^ 52 % 2048 ≠ 2047) :
    isFinite x = true := by
  have hpow : Nat.pow 2 52 = 2 ^ 52 := rfl
  rw [isFinite_iff, parts, hpow, if_neg h]
  split <;> exact ⟨_, _, _, rfl⟩

/-- Below the bits of infinity there are finite floats only. -/
theorem isFinite_signed (negative : Bool) {bits : Nat} (h : bits < infinityBits) :
    isFinite (signed negative bits) = true := by
  have hinf : infinityBits = 2047 * 2 ^ 52 := rfl
  have hpow : Nat.pow 2 63 = 2 ^ 63 := rfl
  have hword : (UInt64.ofNat (if negative then Nat.pow 2 63 + bits else bits)).toNat =
      if negative then Nat.pow 2 63 + bits else bits := by
    rw [UInt64.toNat_ofNat']
    refine Nat.mod_eq_of_lt ?_
    split <;> omega
  have hfield : (UInt64.ofNat (if negative then Nat.pow 2 63 + bits else bits)).toNat /
      2 ^ 52 % 2048 ≠ 2047 := by
    rw [hword]
    split <;> omega
  refine isFinite_of_field ?_
  rw [signed, toBits_ofBits hfield]
  exact hfield

end LedgerQuery.Decimal
