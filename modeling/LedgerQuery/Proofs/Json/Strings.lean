import Mathlib
import LedgerQuery.Json.Writer
import LedgerQuery.Json.Reader

/-!
# Strings read back

What is written of a string is read as the same string, whatever characters it has. A character is
written as itself, as a letter behind a backslash or by its number; by number only where it is a
control character, so that no half of a surrogate pair is ever written.

* `unitOf`: the unit that a written character is read as.
* `stringPiece_flatMap`: the written characters of a string are read as the string.
* `readValue_textChars`: so is the string between its quotes, as a value.
-/

namespace LedgerQuery.Json

/-- The characters that are written as a letter behind a backslash. -/
def lettered : List Char := ['"', '\\', '\x08', '\x0c', '\n', '\r', '\t']

/-- The unit that a written character is read as. -/
def unitOf (c : Char) : Unit16 :=
  if c ∈ lettered ∨ 32 ≤ c.toNat then .char c else .code c.toNat

theorem escapeChar_of_not_mem {c : Char} (h : c ∉ lettered) :
    escapeChar c = if c.toNat < 32 then
      ['\\', 'u', '0', '0', if c.toNat < 16 then '0' else '1', Nat.digitChar (c.toNat % 16)]
    else [c] := by
  simp only [lettered, List.mem_cons, List.not_mem_nil, or_false, not_or] at h
  obtain ⟨h1, h2, h3, h4, h5, h6, h7⟩ := h
  simp only [escapeChar, h1, h2, h3, h4, h5, h6, h7, if_false]

/-- The number of a control character. -/
theorem codeUnit?_control : ∀ n < 32,
    codeUnit? '0' '0' (if n < 16 then '0' else '1') (Nat.digitChar (n % 16)) = some n := by
  decide

/-- A character without an escape stands for itself. -/
theorem stringUnits_plain {c : Char} (hquote : c ≠ '"') (hslash : c ≠ '\\') (hc : 32 ≤ c.toNat)
    (r : List Char) : stringUnits (c :: r) = (.char c :: (stringUnits r).1, (stringUnits r).2) := by
  rw [stringUnits.eq_def]
  split
  case h_1 h => exact absurd h (List.cons_ne_nil c r)
  case h_6 h =>
    obtain ⟨rfl, rfl⟩ := List.cons.inj h
    rw [if_neg (by omega)]
  -- in all other cases a quote or a backslash stands in front
  all_goals
    rename_i h
    obtain ⟨rfl, -⟩ := List.cons.inj h
    contradiction

/-- What is written of one character is read as one unit. -/
theorem stringUnits_escapeChar (c : Char) (r : List Char) :
    stringUnits (escapeChar c ++ r) = (unitOf c :: (stringUnits r).1, (stringUnits r).2) := by
  by_cases h : c ∈ lettered
  · rw [unitOf, if_pos (.inl h)]
    simp only [lettered, List.mem_cons, List.not_mem_nil, or_false] at h
    rcases h with rfl | rfl | rfl | rfl | rfl | rfl | rfl <;> rfl
  rw [escapeChar_of_not_mem h]
  by_cases hcontrol : c.toNat < 32
  · have hcode := codeUnit?_control c.toNat hcontrol
    have hunit : unitOf c = .code c.toNat := if_neg (by simp only [h, false_or]; omega)
    rw [if_pos hcontrol, hunit]
    simp only [List.cons_append, List.nil_append, stringUnits, hcode]
  · have hunit : unitOf c = .char c := if_pos (.inr (by omega))
    rw [if_neg hcontrol, hunit]
    refine stringUnits_plain ?_ ?_ (by omega) r
    · rintro rfl
      exact h (by decide)
    · rintro rfl
      exact h (by decide)

/-- A number that is no half of a surrogate pair is a character of its own. -/
theorem joinUnits_code {n : Nat} (hhigh : isHighUnit n = false) (hlow : isLowUnit n = false)
    (us : List Unit16) : joinUnits (.code n :: us) = (joinUnits us).cons (Char.ofNat n) := by
  cases us with
  | nil => simp [joinUnits, hhigh, hlow, Joined.cons]
  | cons u us => cases u <;> simp [joinUnits, hhigh, hlow]

/-- The units of characters are joined to these characters. -/
theorem joinUnits_unitOf (cs : List Char) : joinUnits (cs.map unitOf) = .text cs := by
  induction cs with
  | nil => rfl
  | cons c cs ih =>
    rw [List.map_cons, unitOf]
    split
    · rw [joinUnits, ih]
      rfl
    · next h =>
      have hc : c.toNat < 32 := by omega
      have hhigh : isHighUnit c.toNat = false := by
        rw [isHighUnit, decide_eq_false_iff_not]
        omega
      have hlow : isLowUnit c.toNat = false := by
        rw [isLowUnit, decide_eq_false_iff_not]
        omega
      rw [joinUnits_code hhigh hlow, ih, Char.ofNat_toNat]
      rfl

theorem stringUnits_flatMap (cs rest : List Char) :
    stringUnits (cs.flatMap escapeChar ++ '"' :: rest) = (cs.map unitOf, .closed rest) := by
  induction cs with
  | nil => rfl
  | cons c cs ih =>
    rw [List.flatMap_cons, List.append_assoc, stringUnits_escapeChar, ih]
    rfl

/-- A written string is read as itself. -/
theorem stringPiece_flatMap (s : String) (rest : List Char) :
    stringPiece (s.toList.flatMap escapeChar ++ '"' :: rest) = .done (some s) rest := by
  rw [stringPiece, stringUnits_flatMap]
  simp only [joinUnits_unitOf, String.ofList_toList]

theorem readValue_textChars (fuel : Nat) (s : String) (rest : List Char) :
    readValue (fuel + 1) (textChars s ++ rest) = (.text (some s), some rest) := by
  have hchars : textChars s ++ rest = '"' :: (s.toList.flatMap escapeChar ++ '"' :: rest) := by
    simp [textChars]
  have hquote : readValue (fuel + 1) ('"' :: (s.toList.flatMap escapeChar ++ '"' :: rest)) =
    (stringPiece (s.toList.flatMap escapeChar ++ '"' :: rest)).draft .text := rfl
  rw [hchars, hquote, stringPiece_flatMap]
  rfl

end LedgerQuery.Json
