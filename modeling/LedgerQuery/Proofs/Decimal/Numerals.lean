import LedgerQuery.Decimal.Layout
import LedgerQuery.Proofs.Text.Regions

/-!
# The characters of numbers

Whatever number is written in whatever layout, its text consists of letters, digits, signs and
points, and a minus sign in it is followed by a character that is no minus sign.

* `isNumeral_of_mem_render`, `isNumeral_of_mem_intText`: the characters of a float and of a whole
  number.
* `guarded_render`, `guarded_intText`: minus signs stand alone.
-/

namespace LedgerQuery.Decimal

open Text (Guarded guarded_of_not_mem)

/-- A letter, a digit, a sign or a point. -/
def isNumeral (c : Char) : Bool :=
  c.isAlphanum || c = '-' || c = '+' || c = '.'

theorem isNumeral_of_isDigit {c : Char} (h : c.isDigit = true) : isNumeral c = true := by
  simp [isNumeral, Char.isAlphanum, h]

theorem isDigit_of_mem_toDigits {n : Nat} {c : Char} (h : c ∈ Nat.toDigits 10 n) :
    c.isDigit = true :=
  Nat.isDigit_of_mem_toDigits (by decide) (by decide) h

theorem minus_not_mem {cs : List Char} (h : ∀ c ∈ cs, c.isDigit = true ∨ c = '.') : '-' ∉ cs := by
  intro hm
  rcases h '-' hm with h | h <;> exact absurd h (by decide)

theorem isNumeral_of_mem {cs : List Char} (h : ∀ c ∈ cs, c.isDigit = true ∨ c = '.') :
    ∀ c ∈ cs, isNumeral c = true := by
  intro c hc
  rcases h c hc with h | rfl
  · exact isNumeral_of_isDigit h
  · decide

/-- A minus sign before a text that has something to show and no minus sign of its own. -/
theorem guarded_minus {cs : List Char} (hne : cs ≠ []) (h : '-' ∉ cs) :
    Guarded '-' '-' ('-' :: cs) := by
  cases cs with
  | nil => exact absurd rfl hne
  | cons c r =>
    refine ⟨fun _ => ?_, guarded_of_not_mem h⟩
    rintro rfl
    exact h (by simp)

theorem minus_not_mem_toDigits (n : Nat) : '-' ∉ Nat.toDigits 10 n :=
  minus_not_mem fun _ hc => .inl (isDigit_of_mem_toDigits hc)

/-! ### Magnitudes -/

theorem isDigit_of_mem_shortestDigits {m : Nat} {q : Int} {c : Char}
    (h : c ∈ (shortestDigits m q).1) : c.isDigit = true := by
  simp only [shortestDigits, Shortest.stripped, List.mem_reverse] at h
  have h := (List.dropWhile_sublist _).mem h
  exact isDigit_of_mem_toDigits (List.mem_reverse.mp h)

namespace Layout

/-- What the text of a magnitude is like: it shows something, does not begin with a minus sign,
and has minus signs alone. -/
structure IsUnsigned (cs : List Char) : Prop where
  ne_nil : cs ≠ []
  head : cs.head? ≠ some '-'
  numeral : ∀ c ∈ cs, isNumeral c = true
  guarded : Guarded '-' '-' cs

/-- Digits and points alone. -/
theorem IsUnsigned.of_digits {cs : List Char} (hne : cs ≠ [])
    (h : ∀ c ∈ cs, c.isDigit = true ∨ c = '.') : IsUnsigned cs where
  ne_nil := hne
  head := fun e => minus_not_mem h (List.mem_of_mem_head? (by simp [e]))
  numeral := isNumeral_of_mem h
  guarded := guarded_of_not_mem (minus_not_mem h)

theorem isUnsigned_positionalDigits (l : Layout) {digits : List Char}
    (h : ∀ c ∈ digits, c.isDigit = true) (e : Int) : IsUnsigned (l.positionalDigits digits e) := by
  have hzero : ('0' : Char).isDigit = true := by decide
  have htail : ∀ c ∈ if l.fraction then ['.', '0'] else [], c.isDigit = true ∨ c = '.' := by
    cases l.fraction <;> simp [hzero]
  rw [positionalDigits]
  by_cases he : e < 0
  · rw [if_pos he]
    refine .of_digits (by simp) fun c hc => ?_
    simp only [List.cons_append, List.mem_cons, List.mem_append, List.mem_replicate] at hc
    rcases hc with rfl | rfl | ⟨_, rfl⟩ | hc
    · exact .inl hzero
    · exact .inr rfl
    · exact .inl hzero
    · exact .inl (h c hc)
  · rw [if_neg he]
    dsimp only
    by_cases hlen : digits.length ≤ e.toNat + 1
    · rw [if_pos hlen]
      refine .of_digits (fun hnil => ?_) fun c hc => ?_
      · -- at least the digit before the point is written
        have := congrArg List.length hnil
        simp only [List.length_append, List.length_replicate, List.length_nil] at this
        omega
      · simp only [List.mem_append, List.mem_replicate] at hc
        rcases hc with (hc | ⟨_, rfl⟩) | hc
        · exact .inl (h c hc)
        · exact .inl hzero
        · exact htail c hc
    · rw [if_neg hlen]
      refine .of_digits (by simp) fun c hc => ?_
      simp only [List.mem_append, List.mem_cons] at hc
      rcases hc with hc | rfl | hc
      · exact .inl (h c (List.mem_of_mem_take hc))
      · exact .inr rfl
      · exact .inl (h c (List.mem_of_mem_drop hc))

/-- The digits of an exponent with its sign. -/
def exponentTail (l : Layout) (e : Int) : List Char :=
  (if e < 0 then ['-'] else if l.plusSign then ['+'] else []) ++ Nat.toDigits 10 e.natAbs

/-- The digits before an exponent. -/
def mantissaDigits : List Char → List Char
  | [] => ['0']
  | [d] => [d]
  | d :: r => d :: '.' :: r

theorem exponentDigits_eq (l : Layout) (digits : List Char) (e : Int) :
    l.exponentDigits digits e = mantissaDigits digits ++ 'e' :: l.exponentTail e := by
  rcases digits with _ | ⟨d, _ | ⟨d', r⟩⟩ <;> simp [exponentDigits, mantissaDigits, exponentTail]

theorem isUnsigned_mantissaDigits {digits : List Char} (h : ∀ c ∈ digits, c.isDigit = true) :
    IsUnsigned (mantissaDigits digits) := by
  rcases digits with _ | ⟨d, _ | ⟨d', r⟩⟩
  · exact .of_digits (by simp [mantissaDigits]) (by simp [mantissaDigits])
  · exact .of_digits (by simp [mantissaDigits]) fun c hc => .inl (h c hc)
  · refine .of_digits (by simp [mantissaDigits]) fun c hc => ?_
    rcases List.mem_cons.mp hc with rfl | hc
    · exact .inl (h c (by simp))
    · rcases List.mem_cons.mp hc with rfl | hc
      · exact .inr rfl
      · exact .inl (h c (by simp [hc]))

theorem exponentTail_numeral (l : Layout) (e : Int) :
    ∀ c ∈ l.exponentTail e, isNumeral c = true := by
  intro c hc
  rcases List.mem_append.mp hc with hc | hc
  · split at hc
    · simp only [List.mem_singleton] at hc
      subst hc
      decide
    · split at hc
      · simp only [List.mem_singleton] at hc
        subst hc
        decide
      · simp at hc
  · exact isNumeral_of_isDigit (isDigit_of_mem_toDigits hc)

theorem guarded_exponentTail (l : Layout) (e : Int) : Guarded '-' '-' (l.exponentTail e) := by
  have hd := minus_not_mem_toDigits e.natAbs
  unfold exponentTail
  split
  · exact guarded_minus Nat.toDigits_ne_nil hd
  · refine guarded_of_not_mem fun hm => ?_
    rcases List.mem_append.mp hm with hm | hm
    · split at hm <;> simp at hm
    · exact hd hm

theorem isUnsigned_exponentDigits (l : Layout) {digits : List Char}
    (h : ∀ c ∈ digits, c.isDigit = true) (e : Int) : IsUnsigned (l.exponentDigits digits e) := by
  have hm := isUnsigned_mantissaDigits h
  rw [exponentDigits_eq]
  refine ⟨by simp, ?_, ?_, hm.guarded.append (.cons (by decide) (guarded_exponentTail l e))⟩
  · rw [List.head?_append, Option.or_of_isSome (List.isSome_head?.mpr hm.ne_nil)]
    exact hm.head
  · intro c hc
    rcases List.mem_append.mp hc with hc | hc
    · exact hm.numeral c hc
    · rcases List.mem_cons.mp hc with rfl | hc
      · decide
      · exact exponentTail_numeral l e c hc

theorem isUnsigned_magnitude (l : Layout) (m : Nat) (q : Int) : IsUnsigned (l.magnitude m q) := by
  unfold magnitude
  split
  · refine .of_digits (by simp) fun c hc => ?_
    rcases List.mem_cons.mp hc with rfl | hc
    · exact .inl (by decide)
    · split at hc
      · simp only [List.mem_cons, List.not_mem_nil, or_false] at hc
        rcases hc with rfl | rfl
        · exact .inr rfl
        · exact .inl (by decide)
      · simp at hc
  · have h : ∀ c ∈ (shortestDigits m q).1, c.isDigit = true :=
      fun c hc => isDigit_of_mem_shortestDigits hc
    dsimp only
    split
    · exact isUnsigned_positionalDigits l h _
    · exact isUnsigned_exponentDigits l h _

/-! ### Numbers -/

theorem IsUnsigned.guarded_signed {cs : List Char} (h : IsUnsigned cs) (negative : Bool) :
    Guarded '-' '-' ((if negative then ['-'] else []) ++ cs) := by
  cases negative with
  | false => exact h.guarded
  | true =>
    obtain ⟨c, r, rfl⟩ := List.exists_cons_of_ne_nil h.ne_nil
    exact ⟨fun _ hc => h.head (by simp [hc]), h.guarded⟩

theorem IsUnsigned.numeral_signed {cs : List Char} (h : IsUnsigned cs) (negative : Bool) :
    ∀ c ∈ (if negative then ['-'] else []) ++ cs, isNumeral c = true := by
  intro c hc
  rcases List.mem_append.mp hc with hc | hc
  · split at hc
    · simp only [List.mem_singleton] at hc
      subst hc
      decide
    · simp at hc
  · exact h.numeral c hc

theorem isNumeral_of_mem_render (l : Layout) (x : Float) :
    ∀ c ∈ (l.render x).toList, isNumeral c = true := by
  unfold render
  split
  · exact List.all_eq_true.mp (by decide)
  · split <;> exact List.all_eq_true.mp (by decide)
  · next negative m q _ =>
    rw [String.toList_ofList]
    exact (isUnsigned_magnitude l m q).numeral_signed negative

theorem guarded_render (l : Layout) (x : Float) : Guarded '-' '-' (l.render x).toList := by
  unfold render
  split
  · exact guarded_of_not_mem (by decide)
  · split
    · exact ⟨fun _ => by decide, guarded_of_not_mem (by decide)⟩
    · exact guarded_of_not_mem (by decide)
  · next negative m q _ =>
    rw [String.toList_ofList]
    exact (isUnsigned_magnitude l m q).guarded_signed negative

end Layout

theorem isUnsigned_toDigits (n : Nat) : Layout.IsUnsigned (Nat.toDigits 10 n) :=
  .of_digits Nat.toDigits_ne_nil fun _ hc => .inl (isDigit_of_mem_toDigits hc)

theorem toList_intText (n : Int) :
    (intText n).toList = (if decide (n < 0) then ['-'] else []) ++ Nat.toDigits 10 n.natAbs := by
  simp [intText]

theorem isNumeral_of_mem_intText (n : Int) : ∀ c ∈ (intText n).toList, isNumeral c = true := by
  rw [toList_intText]
  exact (isUnsigned_toDigits n.natAbs).numeral_signed _

theorem guarded_intText (n : Int) : Guarded '-' '-' (intText n).toList := by
  rw [toList_intText]
  exact (isUnsigned_toDigits n.natAbs).guarded_signed _

end LedgerQuery.Decimal
