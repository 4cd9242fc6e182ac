import LedgerQuery.Json.Writer
import LedgerQuery.Json.Reader
import LedgerQuery.Proofs.Decimal.Digits

/-!
# Numbers read back

What is written of a whole number or of a finite float is read as the same number, provided that no
character follows that could belong to a number. A float never comes back as a whole number, nor a
whole number as a float.

* `EndsNumber`: a text with which no number goes on.
* `Numeral`: characters that are read as a number.
* `signed_intChars`, `signed_floatChars`: what is written of a whole number and of a finite float.
* `Signed.readValue`: such characters are read as a value.
-/

namespace LedgerQuery.Json

open Decimal (isDigit digitRun digitsValue Leading)

/-! ### Runs of digits -/

/-- The text does not begin with a digit. -/
def NoDigit (cs : List Char) : Prop :=
  ∀ c ∈ cs.head?, isDigit c = false

/-- No number goes on with the text. -/
def EndsNumber (cs : List Char) : Prop :=
  ∀ c ∈ cs.head?, isDigit c = false ∧ c ≠ '.' ∧ c ≠ 'e' ∧ c ≠ 'E'

theorem EndsNumber.noDigit {cs : List Char} (h : EndsNumber cs) : NoDigit cs :=
  fun c hc => (h c hc).1

theorem digitRun_digits {ds r : List Char} (hds : ∀ c ∈ ds, isDigit c = true) (hr : NoDigit r) :
    digitRun (ds ++ r) = (ds, r) := by
  have hrest : r.takeWhile isDigit = [] ∧ r.dropWhile isDigit = r := by
    cases r with
    | nil => exact ⟨rfl, rfl⟩
    | cons c r =>
      have hc := hr c rfl
      simp [hc]
  rw [digitRun, List.takeWhile_append_of_pos hds, List.dropWhile_append_of_pos hds, hrest.1, hrest.2,
    List.append_nil]

/-! ### The parts of a number -/

section Parts

variable {negative : Bool} {whole fraction rest : List Char}

theorem digit_zero : ∀ c ∈ ['0'], isDigit c = true := by
  intro c hc
  obtain rfl := List.mem_singleton.mp hc
  decide

theorem magnitude_whole (hwhole : whole = ['0'] ∨ Leading whole) (hrest : NoDigit rest) :
    magnitude negative (whole ++ rest) = fractionPart negative whole rest := by
  have hdigits : ∀ c ∈ whole, isDigit c = true := by
    rcases hwhole with rfl | h
    · exact digit_zero
    · exact h.digit
  rw [magnitude, digitRun_digits hdigits hrest]
  rcases hwhole with rfl | h
  · rfl
  · dsimp only
    split
    · exact absurd rfl h.ne_nil
    · exact absurd rfl h.head
    · rfl

theorem fractionPart_point (hne : fraction ≠ []) (hdigits : ∀ c ∈ fraction, isDigit c = true)
    (hrest : NoDigit rest) :
    fractionPart negative whole ('.' :: (fraction ++ rest)) =
      exponentPart negative whole fraction rest := by
  have hempty : fraction.isEmpty = false := by simpa using hne
  simp only [fractionPart, digitRun_digits hdigits hrest, hempty, Bool.false_eq_true, if_false]

theorem fractionPart_none (hrest : rest.head? ≠ some '.') :
    fractionPart negative whole rest = exponentPart negative whole [] rest := by
  unfold fractionPart
  split
  · exact absurd rfl hrest
  · rfl

/-- Without an exponent, digits alone are a whole number and digits with a point are a decimal. -/
theorem exponentPart_none (hrest : EndsNumber rest) :
    exponentPart negative whole fraction rest =
      .done (if fraction.isEmpty then Number.ofDigits negative whole
        else Number.ofDecimal negative whole fraction 0) rest := by
  cases rest with
  | nil => rfl
  | cons c r =>
    obtain ⟨-, -, he, hE⟩ := hrest c rfl
    rw [exponentPart, if_neg (not_or.mpr ⟨he, hE⟩)]

/-- A sign that may be missing; true for a minus. -/
inductive SignText : Bool → List Char → Prop
  | none : SignText false []
  | plus : SignText false ['+']
  | minus : SignText true ['-']

theorem signRun_signText {minus : Bool} {sign : List Char} (h : SignText minus sign)
    {power : List Char} (hne : power ≠ []) (hpower : ∀ c ∈ power, isDigit c = true)
    (rest : List Char) : Decimal.signRun (sign ++ (power ++ rest)) = (minus, power ++ rest) := by
  cases h with
  | plus | minus => rfl
  | none =>
    -- a digit is no sign
    obtain ⟨c, r, rfl⟩ := List.exists_cons_of_ne_nil hne
    have hc := hpower c List.mem_cons_self
    rw [List.nil_append, List.cons_append, Decimal.signRun.eq_def]
    split
    · next h =>
      obtain ⟨rfl, -⟩ := List.cons.inj h
      exact absurd hc (by decide)
    · next h =>
      obtain ⟨rfl, -⟩ := List.cons.inj h
      exact absurd hc (by decide)
    · rfl

/-- An exponent with any mark, any sign and any digits. -/
theorem exponentPart_exponent {mark : Char} (hmark : mark = 'e' ∨ mark = 'E') {minus : Bool}
    {sign : List Char} (hsign : SignText minus sign) {power : List Char} (hne : power ≠ [])
    (hpower : ∀ c ∈ power, isDigit c = true) (hrest : NoDigit rest) :
    exponentPart negative whole fraction (mark :: (sign ++ (power ++ rest))) =
      .done (Number.ofDecimal negative whole fraction
        (if minus then -(digitsValue power : Int) else digitsValue power)) rest := by
  have hempty : power.isEmpty = false := by simpa using hne
  rw [exponentPart, if_pos hmark, signRun_signText hsign hne hpower]
  simp only [digitRun_digits hpower hrest, hempty, Bool.false_eq_true, if_false]

end Parts

/-! ### Characters that are read as a number -/

/-- Without a sign in front, the characters are read as a number. -/
structure Numeral (negative : Bool) (cs : List Char) (n : Number) : Prop where
  digit : ∃ c r, cs = c :: r ∧ isDigit c = true
  reads : ∀ rest, EndsNumber rest → magnitude negative (cs ++ rest) = .done n rest

section Numeral

variable {negative : Bool} {whole fraction : List Char}

theorem digit_of_whole (hwhole : whole = ['0'] ∨ Leading whole) (cs : List Char) :
    ∃ c r, whole ++ cs = c :: r ∧ isDigit c = true := by
  rcases hwhole with rfl | h
  · exact ⟨'0', cs, rfl, by decide⟩
  · obtain ⟨c, r, rfl⟩ := List.exists_cons_of_ne_nil h.ne_nil
    exact ⟨c, r ++ cs, rfl, h.digit c List.mem_cons_self⟩

theorem numeral_whole (hwhole : whole = ['0'] ∨ Leading whole) :
    Numeral negative whole (Number.ofDigits negative whole) := by
  refine ⟨by simpa using digit_of_whole hwhole [], fun rest hrest => ?_⟩
  have hpoint : rest.head? ≠ some '.' := fun h => (hrest '.' h).2.1 rfl
  rw [magnitude_whole hwhole hrest.noDigit, fractionPart_none hpoint, exponentPart_none hrest]
  rfl

theorem numeral_point (hwhole : whole = ['0'] ∨ Leading whole) (hne : fraction ≠ [])
    (hdigits : ∀ c ∈ fraction, isDigit c = true) :
    Numeral negative (whole ++ '.' :: fraction) (Number.ofDecimal negative whole fraction 0) := by
  refine ⟨digit_of_whole hwhole _, fun rest hrest => ?_⟩
  have hpoint : NoDigit ('.' :: (fraction ++ rest)) := fun c hc => by
    obtain rfl := Option.some.inj hc
    decide
  have hempty : fraction.isEmpty = false := by simpa using hne
  rw [List.append_assoc, List.cons_append, magnitude_whole hwhole hpoint,
    fractionPart_point hne hdigits hrest.noDigit, exponentPart_none hrest, hempty]
  rfl

/-- The point and the digits behind it, if there are any. -/
def pointChars : List Char → List Char
  | [] => []
  | fraction => '.' :: fraction

/-- An exponent with any mark, any sign and any digits, behind the other parts of a number. -/
theorem numeral_mark (hwhole : whole = ['0'] ∨ Leading whole)
    (hdigits : ∀ c ∈ fraction, isDigit c = true) {mark : Char} (hmark : mark = 'e' ∨ mark = 'E')
    {minus : Bool} {sign : List Char} (hsign : SignText minus sign) {power : List Char}
    (hne : power ≠ []) (hpower : ∀ c ∈ power, isDigit c = true) :
    Numeral negative (whole ++ (pointChars fraction ++ mark :: (sign ++ power)))
      (Number.ofDecimal negative whole fraction
        (if minus then -(digitsValue power : Int) else digitsValue power)) := by
  refine ⟨digit_of_whole hwhole _, fun rest hrest => ?_⟩
  have hexponent : exponentPart negative whole fraction (mark :: (sign ++ (power ++ rest))) =
    .done _ rest := exponentPart_exponent hmark hsign hne hpower hrest.noDigit
  have hletter : NoDigit (mark :: (sign ++ (power ++ rest))) := fun c hc => by
    obtain rfl := Option.some.inj hc
    rcases hmark with rfl | rfl <;> decide
  simp only [List.append_assoc, List.cons_append]
  cases fraction with
  | nil =>
    rw [pointChars, List.nil_append, magnitude_whole hwhole hletter, fractionPart_none, hexponent]
    rcases hmark with rfl | rfl <;> simp
  | cons c r =>
    have hpoint : NoDigit ('.' :: (c :: r ++ mark :: (sign ++ (power ++ rest)))) := fun c hc => by
      obtain rfl := Option.some.inj hc
      decide
    rw [pointChars, List.cons_append, magnitude_whole hwhole hpoint,
      fractionPart_point (List.cons_ne_nil c r) hdigits hletter, hexponent]
    simp

/-- An exponent is written with its sign, a plus included. -/
theorem numeral_exponent (hwhole : whole = ['0'] ∨ Leading whole)
    (hdigits : ∀ c ∈ fraction, isDigit c = true) (e : Int) :
    Numeral negative (whole ++ (pointChars fraction ++
        'e' :: ((if e < 0 then ['-'] else ['+']) ++ Nat.toDigits 10 e.natAbs)))
      (Number.ofDecimal negative whole fraction e) := by
  have hsign : SignText (decide (e < 0)) (if e < 0 then ['-'] else ['+']) := by
    by_cases he : e < 0
    · simp only [he, decide_true, if_true]
      exact .minus
    · simp only [he, decide_false, if_false]
      exact .plus
  have hpower : ∀ c ∈ Nat.toDigits 10 e.natAbs, isDigit c = true := by
    intro c hc
    rw [Decimal.isDigit_eq]
    exact Nat.isDigit_of_mem_toDigits (by decide) (by decide) hc
  have hvalue : (if decide (e < 0) then -(digitsValue (Nat.toDigits 10 e.natAbs) : Int)
      else digitsValue (Nat.toDigits 10 e.natAbs)) = e := by
    rw [Decimal.digitsValue_toDigits]
    simp only [decide_eq_true_eq]
    omega
  have hnumeral : Numeral negative _ (Number.ofDecimal negative whole fraction _) :=
    numeral_mark hwhole hdigits (.inl rfl) hsign Nat.toDigits_ne_nil hpower
  rwa [hvalue] at hnumeral

end Numeral

/-! ### Whole numbers -/

/-- What is written of a whole number of 64 bits, apart from its sign. -/
theorem numeral_int {n : Int} (h : minSigned ≤ n ∧ n ≤ maxUnsigned) :
    Numeral (decide (n < 0)) (Nat.toDigits 10 n.natAbs) (.whole n) := by
  have hwhole : Nat.toDigits 10 n.natAbs = ['0'] ∨ Leading (Nat.toDigits 10 n.natAbs) := by
    by_cases hzero : n.natAbs = 0
    · rw [hzero]
      exact .inl rfl
    · exact .inr (Decimal.leading_toDigits hzero)
  have hvalue : Number.ofDigits (decide (n < 0)) (Nat.toDigits 10 n.natAbs) = .whole n := by
    rw [Number.ofDigits, Decimal.digitsValue_toDigits]
    by_cases hn : n < 0
    · have habs : -((n.natAbs : Nat) : Int) = n := by omega
      have hpos : (0 : Int) < (n.natAbs : Nat) := by omega
      simp only [hn, decide_true, if_true, habs, hpos, h.1, and_self]
    · have habs : ((n.natAbs : Nat) : Int) = n := by omega
      simp only [hn, decide_false, Bool.false_eq_true, if_false, habs, h.2, if_true]
  rw [← hvalue]
  exact numeral_whole hwhole

/-! ### Floats -/

/-- Digits with a point among or beside them stand for the number with its first digit at the given
exponent. -/
theorem numeral_positional (negative : Bool) {ds : List Char} (hds : Leading ds) (e : Int) :
    ∃ whole fraction,
      Numeral negative (Decimal.Layout.json.positionalDigits ds e)
        (Number.ofDecimal negative whole fraction 0) ∧
      (digitsValue (whole ++ fraction) * 10 ^ (0 - fraction.length : Int) : ℚ) =
        digitsValue ds * 10 ^ (e + 1 - ds.length) := by
  rw [Decimal.Layout.positionalDigits]
  dsimp only
  by_cases he : e < 0
  · -- zeros stand between the point and the digits
    rw [if_pos he]
    refine ⟨['0'], List.replicate (-e - 1).toNat '0' ++ ds, ?_, ?_⟩
    · refine numeral_point (.inl rfl) (by simp [hds.ne_nil]) fun c hc => ?_
      rcases List.mem_append.mp hc with hc | hc
      · exact Decimal.isDigit_zeros c hc
      · exact hds.digit c hc
    · have hzero : digitsValue ['0'] = 0 := rfl
      have hexp : 0 - ((List.replicate (-e - 1).toNat '0' ++ ds).length : Int) =
          e + 1 - ds.length := by
        rw [List.length_append, List.length_replicate]
        omega
      rw [Decimal.digitsValue_append, Decimal.digitsValue_append, Decimal.digitsValue_zeros, hzero,
        Nat.zero_mul, Nat.zero_add, Nat.zero_mul, Nat.zero_add, hexp]
  rw [if_neg he]
  by_cases hlength : ds.length ≤ e.toNat + 1
  · -- zeros stand between the digits and the point
    rw [if_pos hlength]
    refine ⟨ds ++ List.replicate (e.toNat + 1 - ds.length) '0', ['0'], ?_, ?_⟩
    · exact numeral_point (.inr (hds.append_zeros _)) (by simp) digit_zero
    · have hzero : digitsValue ['0'] = 0 := rfl
      have hexp : e + 1 - (ds.length : Int) = (e.toNat + 1 - ds.length : Nat) := by omega
      rw [Decimal.digitsValue_append, Decimal.digitsValue_append, Decimal.digitsValue_zeros, hzero,
        List.length_replicate, hexp, zpow_natCast]
      simp
  · -- the point stands among the digits
    rw [if_neg hlength]
    refine ⟨ds.take (e.toNat + 1), ds.drop (e.toNat + 1), ?_, ?_⟩
    · refine numeral_point (.inr ⟨?_, fun c hc => hds.digit c (List.mem_of_mem_take hc), ?_⟩)
        (by simpa using hlength) fun c hc => hds.digit c (List.mem_of_mem_drop hc)
      · simp [hds.ne_nil]
      · have hhead := hds.head
        rw [← List.take_append_drop (e.toNat + 1) ds,
          List.head?_append_of_ne_nil _ (by simp [hds.ne_nil])] at hhead
        exact hhead
    · have hexp : 0 - ((ds.drop (e.toNat + 1)).length : Int) = e + 1 - ds.length := by
        rw [List.length_drop]
        omega
      rw [List.take_append_drop, hexp]

/-- Digits with a point behind the first one and an exponent. -/
theorem numeral_exponentDigits (negative : Bool) {ds : List Char} (hds : Leading ds) (e : Int) :
    ∃ whole fraction,
      Numeral negative (Decimal.Layout.json.exponentDigits ds e)
        (Number.ofDecimal negative whole fraction e) ∧
      (digitsValue (whole ++ fraction) * 10 ^ (e - fraction.length) : ℚ) =
        digitsValue ds * 10 ^ (e + 1 - ds.length) := by
  obtain ⟨d, r, rfl⟩ := List.exists_cons_of_ne_nil hds.ne_nil
  have hfirst : Leading [d] :=
    ⟨by simp, fun c hc => hds.digit c (by simpa using .inl (List.mem_singleton.mp hc)), hds.head⟩
  have hchars : Decimal.Layout.json.exponentDigits (d :: r) e = [d] ++ (pointChars r ++
      'e' :: ((if e < 0 then ['-'] else ['+']) ++ Nat.toDigits 10 e.natAbs)) := by
    cases r <;> simp [Decimal.Layout.exponentDigits, Decimal.Layout.json, pointChars]
  refine ⟨[d], r, ?_, ?_⟩
  · rw [hchars]
    exact numeral_exponent (.inr hfirst) (fun c hc => hds.digit c (List.mem_cons_of_mem d hc)) e
  · have hexp : e - (r.length : Int) = e + 1 - (d :: r).length := by
      rw [List.length_cons]
      omega
    rw [hexp]
    rfl

/-- What is written of a finite float, apart from its sign. -/
theorem numeral_magnitude (negative : Bool) {m : Nat} {q : Int} (h : Decimal.Canonical m q) :
    Numeral negative (Decimal.Layout.json.magnitude m q)
      (.float (Decimal.signed negative (Decimal.magnitudeBits m q))) := by
  have hinf := h.magnitudeBits_lt.ne
  -- any decimal of the value of the float is read as the float
  have hread : ∀ whole fraction e,
      Decimal.decimalBits (digitsValue (whole ++ fraction)) (e - fraction.length) =
          Decimal.magnitudeBits m q →
        Number.ofDecimal negative whole fraction e =
          .float (Decimal.signed negative (Decimal.magnitudeBits m q)) := by
    intro whole fraction e hbits
    rw [Number.ofDecimal, hbits, if_neg hinf]
  rw [Decimal.Layout.magnitude]
  by_cases hm : m = 0
  · have hq : q = -1074 := h.leading.resolve_left (by omega)
    have hbits : Decimal.magnitudeBits m q = 0 := by rw [hm, hq]; rfl
    have hnumeral : Numeral negative ['0', '.', '0'] (Number.ofDecimal negative ['0'] ['0'] 0) :=
      numeral_point (.inl rfl) (by simp) digit_zero
    rw [hread ['0'] ['0'] 0 ((Decimal.decimalBits_zero _).trans hbits.symm)] at hnumeral
    rw [if_pos hm]
    exact hnumeral
  · rw [if_neg hm]
    obtain ⟨hds, hbits⟩ := Decimal.shortestDigits_reads_back hm h
    generalize Decimal.shortestDigits m q = digits at hds hbits
    obtain ⟨ds, e⟩ := digits
    dsimp only at hds hbits ⊢
    by_cases hpositional : Decimal.Layout.json.isPositional e
    · rw [if_pos hpositional]
      obtain ⟨whole, fraction, hnumeral, hvalue⟩ := numeral_positional negative hds e
      rwa [hread whole fraction 0 ((Decimal.decimalBits_congr hvalue).trans hbits)] at hnumeral
    · rw [if_neg hpositional]
      obtain ⟨whole, fraction, hnumeral, hvalue⟩ := numeral_exponentDigits negative hds e
      rwa [hread whole fraction e ((Decimal.decimalBits_congr hvalue).trans hbits)] at hnumeral

/-! ### Numbers as values -/

/-- Characters that are read as a number, a minus sign in front included. -/
def Signed (cs : List Char) (n : Number) : Prop :=
  ∃ negative ds, cs = (if negative then ['-'] else []) ++ ds ∧ Numeral negative ds n

/-- What is written of a whole number of 64 bits. -/
theorem signed_intChars {n : Int} (h : minSigned ≤ n ∧ n ≤ maxUnsigned) :
    Signed (intChars n) (.whole n) := by
  refine ⟨decide (n < 0), Nat.toDigits 10 n.natAbs, ?_, numeral_int h⟩
  simp only [decide_eq_true_eq]
  rfl

/-- What is written of a finite float is read as the float, bit by bit. -/
theorem signed_floatChars {x : Float} (h : Decimal.isFinite x = true) :
    Signed (floatChars x) (.float x) := by
  obtain ⟨negative, m, q, hparts⟩ := Decimal.isFinite_iff.mp h
  obtain ⟨hcanonical, hx⟩ := Decimal.eq_signed_of_parts hparts
  refine ⟨negative, Decimal.Layout.json.magnitude m q, ?_, ?_⟩
  · rw [floatChars, if_pos h, Decimal.Layout.render, hparts, String.toList_ofList]
  · have hnumeral := numeral_magnitude negative hcanonical
    rwa [← hx] at hnumeral

theorem isSpace_of_isDigit {c : Char} (hc : isDigit c = true) : isSpace c = false := by
  rw [Bool.eq_false_iff]
  intro hspace
  simp only [isSpace, Bool.or_eq_true, decide_eq_true_eq] at hspace
  rcases hspace with ((rfl | rfl) | rfl) | rfl <;> exact absurd hc (by decide)

/-- Where a digit stands, a number is read. -/
theorem readValue_digit (fuel : Nat) {c : Char} (hc : isDigit c = true) (r : List Char) :
    readValue (fuel + 1) (c :: r) = (magnitude false (c :: r)).draft .number := by
  have hskip : skipSpaces (c :: r) = c :: r := by simp [skipSpaces, isSpace_of_isDigit hc]
  rw [readValue, hskip]
  split
  case h_1 h => exact absurd h (List.cons_ne_nil c r)
  case h_9 h =>
    obtain ⟨rfl, rfl⟩ := List.cons.inj h
    rw [if_pos hc]
  -- no other value begins with a digit
  all_goals
    rename_i h
    obtain ⟨rfl, -⟩ := List.cons.inj h
    exact absurd hc (by decide)

/-- A number with its sign is read as a value. -/
theorem Signed.readValue {cs : List Char} {n : Number} (h : Signed cs n) {rest : List Char}
    (hrest : EndsNumber rest) (fuel : Nat) :
    readValue (fuel + 1) (cs ++ rest) = (.number n, some rest) := by
  obtain ⟨negative, ds, rfl, hnumeral⟩ := h
  have hreads := hnumeral.reads rest hrest
  cases negative with
  | true =>
    have hminus : Json.readValue (fuel + 1) ('-' :: (ds ++ rest)) =
      (magnitude true (ds ++ rest)).draft .number := rfl
    rw [if_pos rfl, List.append_assoc, List.singleton_append, hminus, hreads]
    rfl
  | false =>
    obtain ⟨c, r, rfl, hc⟩ := hnumeral.digit
    rw [List.cons_append] at hreads
    rw [if_neg Bool.false_ne_true, List.nil_append, List.cons_append, readValue_digit fuel hc, hreads]
    rfl

end LedgerQuery.Json
