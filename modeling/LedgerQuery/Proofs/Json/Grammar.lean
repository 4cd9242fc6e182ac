import LedgerQuery.Proofs.Json.Numbers
import LedgerQuery.Proofs.Json.Strings

/-!
# The grammar of numbers and strings

What can stand in a text for a number and for a string, and what it stands for. The grammar says
nothing of how a text is read; the reader finds in a text what the grammar derives, and nothing
else.

* `NumberText`: a number without its sign: digits that begin with a zero only if it stands alone,
  a point with digits behind it, an exponent with digits.
* `StringText`: what stands between the quotes of a string: characters, letters behind a backslash,
  and four hexadecimal digits for a 16-bit unit, of which two may be the halves of one character.
* `NumberText.numeral`, `exists_numberText`: what is derived is read, and what is read is derived.
* `StringText.stringPiece`, `exists_stringText`: the same for strings.
-/

namespace LedgerQuery.Json

open Decimal (isDigit digitRun digitsValue Leading)

/-! ### Words -/

/-- A word breaks off or stands in front. -/
theorem word_cases (letters : List Char) (value : Draft) (cs : List Char) :
    (∃ b, word letters value cs = (.broken b, none)) ∨
      ∃ rest, cs = letters ++ rest ∧ word letters value cs = (value, some rest) := by
  induction letters generalizing cs with
  | nil => exact .inr ⟨cs, rfl, rfl⟩
  | cons l ls ih =>
    cases cs with
    | nil => exact .inl ⟨_, rfl⟩
    | cons c r =>
      rw [word]
      split
      · next h =>
        obtain rfl := h
        rcases ih r with ⟨b, hb⟩ | ⟨rest, rfl, hrest⟩
        · exact .inl ⟨b, hb⟩
        · exact .inr ⟨rest, rfl, hrest⟩
      · exact .inl ⟨_, rfl⟩

/-! ### Numbers -/

/-- The digits in front of the point: a zero alone, or digits of which the first is no zero. -/
def IsWhole (ds : List Char) : Prop :=
  ds = ['0'] ∨ Leading ds

/-- The characters stand for the number, whose sign is given. -/
inductive NumberText (negative : Bool) : List Char → Number → Prop
  | whole {whole : List Char} (hwhole : IsWhole whole) :
      NumberText negative whole (Number.ofDigits negative whole)
  | point {whole fraction : List Char} (hwhole : IsWhole whole) (hne : fraction ≠ [])
      (hdigits : ∀ c ∈ fraction, isDigit c = true) :
      NumberText negative (whole ++ '.' :: fraction)
        (Number.ofDecimal negative whole fraction 0)
  | exponent {whole fraction : List Char} (hwhole : IsWhole whole)
      (hdigits : ∀ c ∈ fraction, isDigit c = true) {mark : Char} (hmark : mark = 'e' ∨ mark = 'E')
      {minus : Bool} {sign : List Char} (hsign : SignText minus sign) {power : List Char}
      (hne : power ≠ []) (hpower : ∀ c ∈ power, isDigit c = true) :
      NumberText negative (whole ++ (pointChars fraction ++ mark :: (sign ++ power)))
        (Number.ofDecimal negative whole fraction
          (if minus then -(digitsValue power : Int) else digitsValue power))

section Numbers

variable {negative : Bool} {whole fraction rest : List Char}

theorem exists_signText (cs : List Char) :
    ∃ sign, SignText (Decimal.signRun cs).1 sign ∧ cs = sign ++ (Decimal.signRun cs).2 := by
  unfold Decimal.signRun
  split
  · exact ⟨['-'], .minus, rfl⟩
  · exact ⟨['+'], .plus, rfl⟩
  · exact ⟨[], .none, rfl⟩

theorem isDigit_of_mem_digitRun {cs : List Char} : ∀ c ∈ (digitRun cs).1, isDigit c = true :=
  fun _ hc => List.mem_takeWhile_imp hc

/-- What is derived is read. -/
theorem NumberText.numeral {cs : List Char} {n : Number} (h : NumberText negative cs n) :
    Numeral negative cs n := by
  cases h with
  | whole hwhole => exact numeral_whole hwhole
  | point hwhole hne hdigits => exact numeral_point hwhole hne hdigits
  | exponent hwhole hdigits hmark hsign hne hpower =>
    exact numeral_mark hwhole hdigits hmark hsign hne hpower

/-- Digits with their point and no exponent. -/
theorem NumberText.decimal (hwhole : IsWhole whole) (hdigits : ∀ c ∈ fraction, isDigit c = true) :
    NumberText negative (whole ++ pointChars fraction)
      (if fraction.isEmpty then Number.ofDigits negative whole
        else Number.ofDecimal negative whole fraction 0) := by
  cases fraction with
  | nil =>
    rw [pointChars, List.append_nil]
    exact .whole hwhole
  | cons c r => exact .point hwhole (List.cons_ne_nil c r) hdigits

theorem exists_numberText_of_exponentPart (hwhole : IsWhole whole)
    (hdigits : ∀ c ∈ fraction, isDigit c = true) {cs : List Char} {n : Number}
    (h : exponentPart negative whole fraction cs = .done n rest) :
    ∃ ds, cs = ds ++ rest ∧ NumberText negative (whole ++ (pointChars fraction ++ ds)) n := by
  have hplain : NumberText negative _ _ := .decimal hwhole hdigits
  cases cs with
  | nil =>
    rw [exponentPart, Piece.done.injEq] at h
    obtain ⟨rfl, rfl⟩ := h
    exact ⟨[], rfl, by rwa [List.append_nil]⟩
  | cons c r =>
    rw [exponentPart] at h
    split at h
    · next hmark =>
      obtain ⟨sign, hsign, hr⟩ := exists_signText r
      have hrun := Decimal.digitRun_append (Decimal.signRun r).2
      dsimp only at h
      split at h
      · cases h
      · next hne =>
        rw [Piece.done.injEq] at h
        obtain ⟨rfl, rfl⟩ := h
        refine ⟨c :: (sign ++ (digitRun (Decimal.signRun r).2).1), ?_, ?_⟩
        · rw [List.cons_append, List.append_assoc, hrun, ← hr]
        · exact .exponent hwhole hdigits hmark hsign (by simpa using hne) isDigit_of_mem_digitRun
    · rw [Piece.done.injEq] at h
      obtain ⟨rfl, rfl⟩ := h
      exact ⟨[], rfl, by rwa [List.append_nil]⟩

theorem exists_numberText_of_fractionPart (hwhole : IsWhole whole) {cs : List Char} {n : Number}
    (h : fractionPart negative whole cs = .done n rest) :
    ∃ ds, cs = ds ++ rest ∧ NumberText negative (whole ++ ds) n := by
  unfold fractionPart at h
  split at h
  · next r =>
    dsimp only at h
    split at h
    · cases h
    · next hne =>
      obtain ⟨ds, hds, hnumber⟩ :=
        exists_numberText_of_exponentPart hwhole isDigit_of_mem_digitRun h
      refine ⟨'.' :: (digitRun r).1 ++ ds, ?_, ?_⟩
      · rw [List.cons_append, List.cons_append, List.append_assoc, ← hds, Decimal.digitRun_append]
      · cases hrun : (digitRun r).1 with
        | nil => simp [hrun] at hne
        | cons d ds' => rwa [hrun] at hnumber
  · exact exists_numberText_of_exponentPart hwhole (fun c hc => absurd hc List.not_mem_nil) h

/-- What is read is derived. -/
theorem exists_numberText {cs : List Char} {n : Number}
    (h : magnitude negative cs = .done n rest) :
    ∃ ds, cs = ds ++ rest ∧ NumberText negative ds n := by
  have hrun := Decimal.digitRun_append cs
  have hdigits : ∀ c ∈ (digitRun cs).1, isDigit c = true := isDigit_of_mem_digitRun
  unfold magnitude at h
  dsimp only at h
  split at h
  · cases h
  · cases h
  · next hnil hzero =>
    have hwhole : IsWhole (digitRun cs).1 := by
      by_cases hhead : (digitRun cs).1.head? = some '0'
      · obtain ⟨r, hr⟩ := List.head?_eq_some_iff.mp hhead
        cases r with
        | nil => exact .inl hr
        | cons d r => exact absurd hr (hzero d r)
      · exact .inr ⟨hnil, hdigits, hhead⟩
    obtain ⟨ds, hds, hnumber⟩ := exists_numberText_of_fractionPart hwhole h
    exact ⟨(digitRun cs).1 ++ ds, by rw [List.append_assoc, ← hds, hrun], hnumber⟩

end Numbers

/-! ### Strings -/

/-- The characters between the quotes of a string stand for the characters of the string. -/
inductive StringText : List Char → List Char → Prop
  | nil : StringText [] []
  /-- A character that stands for itself. -/
  | plain {c : Char} (hquote : c ≠ '"') (hslash : c ≠ '\\') (hc : 32 ≤ c.toNat)
      {body cs : List Char} (h : StringText body cs) : StringText (c :: body) (c :: cs)
  | letter {c d : Char} (hd : escaped? c = some d) {body cs : List Char} (h : StringText body cs) :
      StringText ('\\' :: c :: body) (d :: cs)
  /-- A 16-bit unit that is a character of its own. -/
  | code {a b c d : Char} {n : Nat} (hn : codeUnit? a b c d = some n)
      (hhigh : isHighUnit n = false) (hlow : isLowUnit n = false) {body cs : List Char}
      (h : StringText body cs) :
      StringText ('\\' :: 'u' :: a :: b :: c :: d :: body) (Char.ofNat n :: cs)
  /-- Two halves of a character. -/
  | pair {a b c d : Char} {high : Nat} (hn : codeUnit? a b c d = some high)
      (hhigh : isHighUnit high = true) {a' b' c' d' : Char} {low : Nat}
      (hm : codeUnit? a' b' c' d' = some low) (hlow : isLowUnit low = true) {body cs : List Char}
      (h : StringText body cs) :
      StringText ('\\' :: 'u' :: a :: b :: c :: d :: '\\' :: 'u' :: a' :: b' :: c' :: d' :: body)
        (pairChar high low :: cs)

theorem Joined.cons_eq_text {c : Char} {j : Joined} {cs : List Char} (h : j.cons c = .text cs) :
    ∃ r, j = .text r ∧ cs = c :: r := by
  cases j with
  | text r =>
    rw [Joined.cons, Joined.text.injEq] at h
    exact ⟨r, rfl, h.symm⟩
  | opening | torn => cases h

theorem stringUnits_letter {c d : Char} (h : escaped? c = some d) (r : List Char) :
    stringUnits ('\\' :: c :: r) = (.char d :: (stringUnits r).1, (stringUnits r).2) := by
  -- the letter in front of a number is no escape of its own
  have hu : c ≠ 'u' := by
    rintro rfl
    exact absurd h (by simp [escaped?])
  simp [stringUnits, hu, h]

/-- The units of what is derived. -/
theorem StringText.units {body cs : List Char} (h : StringText body cs) (rest : List Char) :
    ∃ us, stringUnits (body ++ '"' :: rest) = (us, .closed rest) ∧ joinUnits us = .text cs := by
  induction h with
  | nil => exact ⟨[], rfl, rfl⟩
  | @plain c hquote hslash hc body cs _ ih =>
    obtain ⟨us, hus, hjoin⟩ := ih
    refine ⟨.char c :: us, ?_, ?_⟩
    · rw [List.cons_append, stringUnits_plain hquote hslash hc, hus]
    · rw [joinUnits, hjoin, Joined.cons]
  | @letter c d hd body cs _ ih =>
    obtain ⟨us, hus, hjoin⟩ := ih
    refine ⟨.char d :: us, ?_, ?_⟩
    · rw [List.cons_append, List.cons_append, stringUnits_letter hd, hus]
    · rw [joinUnits, hjoin, Joined.cons]
  | @code a b c d n hn hhigh hlow body cs _ ih =>
    obtain ⟨us, hus, hjoin⟩ := ih
    refine ⟨.code n :: us, ?_, ?_⟩
    · simp only [List.cons_append, stringUnits, hn, hus]
    · rw [joinUnits_code hhigh hlow, hjoin, Joined.cons]
  | @pair a b c d high hn hhigh a' b' c' d' low hm hlow body cs _ ih =>
    obtain ⟨us, hus, hjoin⟩ := ih
    refine ⟨.code high :: .code low :: us, ?_, ?_⟩
    · simp only [List.cons_append, stringUnits, hn, hm, hus]
    · rw [joinUnits, if_pos hhigh, if_pos hlow, hjoin, Joined.cons]

/-- The characters are cut into units, each by itself. -/
inductive UnitsText : List Char → List Unit16 → Prop
  | nil : UnitsText [] []
  | plain {c : Char} (hquote : c ≠ '"') (hslash : c ≠ '\\') (hc : 32 ≤ c.toNat)
      {body : List Char} {us : List Unit16} (h : UnitsText body us) :
      UnitsText (c :: body) (.char c :: us)
  | letter {c d : Char} (hd : escaped? c = some d) {body : List Char} {us : List Unit16}
      (h : UnitsText body us) : UnitsText ('\\' :: c :: body) (.char d :: us)
  | code {a b c d : Char} {n : Nat} (hn : codeUnit? a b c d = some n) {body : List Char}
      {us : List Unit16} (h : UnitsText body us) :
      UnitsText ('\\' :: 'u' :: a :: b :: c :: d :: body) (.code n :: us)

theorem exists_unitsText {cs rest : List Char} {us : List Unit16}
    (h : stringUnits cs = (us, .closed rest)) :
    ∃ body, cs = body ++ '"' :: rest ∧ UnitsText body us := by
  fun_induction stringUnits cs generalizing us with
  | case1 | case3 | case5 | case6 | case8 | case9 => simp at h
  | case2 r =>
    obtain ⟨rfl, hrest⟩ := Prod.mk.inj h
    obtain rfl := StringEnd.closed.inj hrest
    exact ⟨[], rfl, .nil⟩
  | case4 a b c d r n hn us' e hr ih =>
    obtain ⟨rfl, rfl⟩ := Prod.mk.inj h
    obtain ⟨body, rfl, hbody⟩ := ih hr
    exact ⟨'\\' :: 'u' :: a :: b :: c :: d :: body, rfl, .code hn hbody⟩
  | case7 c r _ _ d hd us' e hr ih =>
    obtain ⟨rfl, rfl⟩ := Prod.mk.inj h
    obtain ⟨body, rfl, hbody⟩ := ih hr
    exact ⟨'\\' :: c :: body, rfl, .letter hd hbody⟩
  | case10 c r hquote hend _ hletter hc us' e hr ih =>
    obtain ⟨rfl, rfl⟩ := Prod.mk.inj h
    obtain ⟨body, rfl, hbody⟩ := ih hr
    have hslash : c ≠ '\\' := by
      -- a backslash has something behind it, if only the quote that closes the string
      intro hslash
      cases body with
      | nil => exact hletter _ _ hslash rfl
      | cons b body => exact hletter _ _ hslash rfl
    exact ⟨c :: body, rfl, .plain hquote hslash (by omega) hbody⟩

/-- A unit that is a character of its own, in front of others. -/
theorem UnitsText.stringText_code {n : Nat} (hhigh : ¬ isHighUnit n = true)
    (hlow : ¬ isLowUnit n = true) {us : List Unit16}
    (ih : ∀ {body cs}, UnitsText body us → joinUnits us = .text cs → StringText body cs)
    {body cs : List Char} (h : UnitsText body (.code n :: us))
    (hjoin : (joinUnits us).cons (Char.ofNat n) = .text cs) : StringText body cs := by
  obtain ⟨r, hr, rfl⟩ := Joined.cons_eq_text hjoin
  cases h with
  | code hn h =>
    exact .code hn (Bool.eq_false_iff.mpr hhigh) (Bool.eq_false_iff.mpr hlow) (ih h hr)

/-- Units that are joined to characters stand for them. -/
theorem UnitsText.stringText {body cs : List Char} {us : List Unit16} (h : UnitsText body us)
    (hjoin : joinUnits us = .text cs) : StringText body cs := by
  fun_induction joinUnits us generalizing body cs with
  | case1 =>
    obtain rfl := Joined.text.inj hjoin
    cases h
    exact .nil
  | case2 c us ih =>
    obtain ⟨r, hr, rfl⟩ := Joined.cons_eq_text hjoin
    cases h with
    | plain hquote hslash hc h => exact .plain hquote hslash hc (ih h hr)
    | letter hd h => exact .letter hd (ih h hr)
  | case3 | case4 | case6 | case9 | case10 => cases hjoin
  | case5 n hhigh hlow =>
    refine h.stringText_code hhigh hlow (fun h hjoin => ?_) hjoin
    obtain rfl := Joined.text.inj hjoin
    cases h
    exact .nil
  | case7 n c us hn ih =>
    obtain ⟨hhigh, hlow⟩ := not_or.mp hn
    exact h.stringText_code hhigh hlow ih hjoin
  | case8 n m us hhigh hlow ih =>
    obtain ⟨r, hr, rfl⟩ := Joined.cons_eq_text hjoin
    cases h with
    | code hn h =>
      cases h with
      | code hm h => exact .pair hn hhigh hm hlow (ih h hr)
  | case11 n m us hhigh hlow ih => exact h.stringText_code hhigh hlow ih hjoin

/-- What is derived is read. -/
theorem StringText.stringPiece {body cs : List Char} (h : StringText body cs) (rest : List Char) :
    stringPiece (body ++ '"' :: rest) = .done (some (String.ofList cs)) rest := by
  obtain ⟨us, hus, hjoin⟩ := h.units rest
  rw [Json.stringPiece, hus]
  simp only [hjoin]

/-- What is read is derived. -/
theorem exists_stringText {cs rest : List Char} {s : String}
    (h : stringPiece cs = .done (some s) rest) :
    ∃ body, cs = body ++ '"' :: rest ∧ StringText body s.toList := by
  rw [Json.stringPiece] at h
  dsimp only at h
  split at h
  · next t r hjoin hend =>
    rw [Piece.done.injEq, Option.some_inj] at h
    obtain ⟨rfl, rfl⟩ := h
    obtain ⟨body, hbody, hunits⟩ := exists_unitsText (Prod.ext rfl hend)
    refine ⟨body, hbody, hunits.stringText ?_⟩
    rw [hjoin, String.toList_ofList]
  · rw [Piece.done.injEq] at h
    exact absurd h.1 (by simp)
  · cases h
  · cases h

end LedgerQuery.Json
