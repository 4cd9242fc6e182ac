import LedgerQuery.Proofs.Decimal.Numerals
import LedgerQuery.Proofs.Json.Strings

/-!
# Written values stand on one line

The compact text of a value has no control character in it, whatever the value holds: in a string
every one of them is escaped, and the other parts of a text have none. So no line breaks off within
a value.

* `visible_escapeChar`: the escape of a character.
* `visible_chars`: the text of a value.
* `newline_not_mem_render`: no line break is written.
-/

namespace LedgerQuery.Json

/-- The character is no control character. -/
def isVisible (c : Char) : Bool :=
  decide (32 ≤ c.toNat)

/-! ### Strings and numbers -/

/-- The escape of a control character by its number. -/
theorem visible_controlDigits : ∀ n < 32,
    ['\\', 'u', '0', '0', if n < 16 then '0' else '1', Nat.digitChar (n % 16)].all isVisible := by
  decide

theorem visible_escapeChar (c : Char) : (escapeChar c).all isVisible := by
  by_cases h : c ∈ lettered
  · simp only [lettered, List.mem_cons, List.not_mem_nil, or_false] at h
    rcases h with rfl | rfl | rfl | rfl | rfl | rfl | rfl <;> decide
  rw [escapeChar_of_not_mem h]
  split
  · next hcontrol => exact visible_controlDigits c.toNat hcontrol
  · next hplain => simpa [isVisible] using hplain

theorem visible_textChars (s : String) : (textChars s).all isVisible := by
  have hinner : (s.toList.flatMap escapeChar).all isVisible := by
    rw [List.all_flatMap, List.all_eq_true]
    exact fun c _ => visible_escapeChar c
  have hquote : isVisible '"' = true := by decide
  rw [textChars, List.cons_append, List.all_cons, List.all_append, hinner]
  simp [hquote]

theorem isVisible_of_isNumeral {c : Char} (h : Decimal.isNumeral c = true) :
    isVisible c = true := by
  simp only [Decimal.isNumeral, Bool.or_eq_true, decide_eq_true_eq] at h
  rcases h with ((h | rfl) | rfl) | rfl
  · simp only [Char.isAlphanum, Char.isAlpha, Char.isUpper, Char.isLower, Char.isDigit,
      Bool.or_eq_true, Bool.and_eq_true, decide_eq_true_eq, ge_iff_le,
      UInt32.le_iff_toNat_le] at h
    have hcode : c.val.toNat = c.toNat := rfl
    have hleast : 32 ≤ 'A'.val.toNat ∧ 32 ≤ 'a'.val.toNat ∧ 32 ≤ '0'.val.toNat := by decide
    rw [isVisible, decide_eq_true_eq]
    omega
  all_goals decide

theorem visible_intChars (n : Int) : (intChars n).all isVisible := by
  have hdigits : (Nat.toDigits 10 n.natAbs).all isVisible := by
    rw [List.all_eq_true]
    intro c hc
    exact isVisible_of_isNumeral (Decimal.isNumeral_of_isDigit (Decimal.isDigit_of_mem_toDigits hc))
  have hminus : isVisible '-' = true := by decide
  rw [intChars, List.all_append, hdigits]
  split <;> simp [hminus]

theorem visible_floatChars (x : Float) : (floatChars x).all isVisible := by
  unfold floatChars
  split
  · rw [List.all_eq_true]
    exact fun c hc => isVisible_of_isNumeral (Decimal.Layout.isNumeral_of_mem_render _ x c hc)
  · decide

/-! ### Values -/

mutual

/-- The text of a value has no control character in it. -/
theorem visible_chars (j : Json) : (chars j).all isVisible := by
  match j with
  | .null => decide
  | .bool b => cases b <;> decide
  | .int n => exact visible_intChars n
  | .float x => exact visible_floatChars x
  | .text s => exact visible_textChars s
  | .list items =>
    rw [chars, List.cons_append, List.all_cons, List.all_append, visible_itemChars items]
    decide
  | .object members =>
    rw [chars, List.cons_append, List.all_cons, List.all_append, visible_memberChars members]
    decide

theorem visible_itemChars (items : List Json) : (itemChars items).all isVisible := by
  match items with
  | [] => rfl
  | [j] => exact visible_chars j
  | j :: k :: r =>
    rw [itemChars, List.all_append, List.all_cons, visible_chars j, visible_itemChars (k :: r)]
    decide

theorem visible_memberChars (members : List (String × Json)) :
    (memberChars members).all isVisible := by
  match members with
  | [] => rfl
  | [(key, j)] =>
    rw [memberChars, List.all_append, List.all_cons, visible_textChars key, visible_chars j]
    decide
  | (key, j) :: m :: r =>
    rw [memberChars, List.all_append, List.all_append, List.all_cons, List.all_cons,
      visible_textChars key, visible_chars j, visible_memberChars (m :: r)]
    decide

end

/-- No line break is written. -/
theorem newline_not_mem_render (j : Json) : '\n' ∉ j.render.toList := by
  rw [render, String.toList_ofList]
  intro h
  exact absurd (List.all_eq_true.mp (visible_chars j) '\n' h) (by decide)

end LedgerQuery.Json
