import Mathlib.Data.List.DropRight
import LedgerQuery.Text.Blank
import LedgerQuery.Text.Case

/-!
# Trimming and small letters

Blanks have no case and end every word, so it makes no difference whether a text is trimmed before
or after it is put in small letters.

* `lowerAt`: what one character of a text becomes between its neighbours.
* `isBlank_of_mem_lowerAt`: only blanks become blanks.
* `trim_lower`: trimming and small letters commute.
* `trim_trim`: trimming twice is trimming once.
-/

namespace LedgerQuery.Text

/-! ### Blanks -/

/-- The code points of the blanks. -/
def blankCodes : List Nat :=
  [0x9, 0xA, 0xB, 0xC, 0xD, 0x20, 0x85, 0xA0, 0x1680, 0x2000, 0x2001, 0x2002, 0x2003, 0x2004,
   0x2005, 0x2006, 0x2007, 0x2008, 0x2009, 0x200A, 0x2028, 0x2029, 0x202F, 0x205F, 0x3000]

theorem isBlank_iff (c : Char) : isBlank c = true ↔ c.toNat ∈ blankCodes := by
  simp only [isBlank, blankCodes, Bool.or_eq_true, Bool.and_eq_true, decide_eq_true_eq, beq_iff_eq,
    List.mem_cons, List.not_mem_nil, or_false]
  omega

/-- No range holds a blank. -/
def avoidsBlanks (ranges : List (Nat × Nat)) : Bool :=
  ranges.all fun r => blankCodes.all fun n => n.blt r.1 || r.2.blt n

theorem not_mem_blankCodes {ranges : List (Nat × Nat)} (h : avoidsBlanks ranges = true)
    {r : Nat × Nat} (hr : r ∈ ranges) {n : Nat} (hlow : r.1 ≤ n) (hhigh : n ≤ r.2) :
    n ∉ blankCodes := by
  intro hn
  have hout := List.all_eq_true.mp (List.all_eq_true.mp h r hr) n hn
  rw [Bool.or_eq_true, Nat.blt_eq, Nat.blt_eq] at hout
  omega

theorem contains_blank {s : CharSet} (hs : avoidsBlanks s.ranges = true) {c : Char}
    (h : isBlank c = true) : s.contains c = false := by
  rw [Bool.eq_false_iff]
  intro hc
  obtain ⟨r, hr, hlow, hhigh⟩ := (s.contains_iff c).mp hc
  exact not_mem_blankCodes hs hr hlow hhigh ((isBlank_iff c).mp h)

theorem caseIgnorable_blank {c : Char} (h : isBlank c = true) :
    caseIgnorable.contains c = false :=
  contains_blank (by decide +kernel) h

theorem cased_blank {c : Char} (h : isBlank c = true) : cased.contains c = false :=
  contains_blank (by decide +kernel) h

/-- Blanks behind a text do not change whether a letter with a case comes next. -/
theorem meetsCased_append_blanks {bs : List Char} (hb : ∀ b ∈ bs, isBlank b = true)
    (cs : List Char) : meetsCased (cs ++ bs) = meetsCased cs := by
  induction cs with
  | nil =>
    cases bs with
    | nil => rfl
    | cons b r =>
      have hblank : isBlank b = true := hb b (by simp)
      simp [meetsCased, caseIgnorable_blank hblank, cased_blank hblank]
  | cons c r ih =>
    cases hc : caseIgnorable.contains c with
    | true => simpa [meetsCased, hc] using ih
    | false => simp [meetsCased, hc]

/-! ### One character -/

/-- What a character becomes between the characters before it, given back to front, and those
behind it. -/
def lowerAt (before : List Char) (c : Char) (behind : List Char) : List Char :=
  if c = 'Σ' then [if meetsCased before && !meetsCased behind then 'ς' else 'σ'] else lowerChar c

theorem lowerAfter_cons (before : List Char) (c : Char) (r : List Char) :
    lowerAfter before (c :: r) = lowerAt before c r ++ lowerAfter (c :: before) r := rfl

/-- The image of a code point is the code point itself or comes from one of the runs. -/
theorem imageIn_cases (runs : List CaseRun) (n : Nat) :
    imageIn runs n = n ∨ ∃ r ∈ runs, r.image? n = some (imageIn runs n) := by
  unfold imageIn
  cases h : runs.findSome? (·.image? n) with
  | none => exact .inl rfl
  | some m =>
    obtain ⟨r, hr, hm⟩ := List.exists_of_findSome?_eq_some h
    exact .inr ⟨r, hr, hm⟩

/-- The code points that a run covers, and a range that their images lie in. -/
def CaseRun.ranges (r : CaseRun) : List (Nat × Nat) :=
  [(r.first, r.last), (((r.first : Int) + r.shift).toNat, ((r.last : Int) + r.shift).toNat)]

theorem lowerRuns_avoidBlanks : avoidsBlanks (lowerRuns.flatMap CaseRun.ranges) = true := by
  decide +kernel

/-- No run covers a blank or leads to one. -/
theorem image?_of_lowerRuns {r : CaseRun} (hr : r ∈ lowerRuns) {n m : Nat}
    (h : r.image? n = some m) : n ∉ blankCodes ∧ m ∉ blankCodes := by
  unfold CaseRun.image? at h
  split at h
  · next hin =>
    obtain ⟨hlow, hhigh, -⟩ := hin
    simp only [Option.some.injEq] at h
    constructor
    · have hcovered : (r.first, r.last) ∈ lowerRuns.flatMap CaseRun.ranges :=
        List.mem_flatMap.mpr ⟨r, hr, by simp [CaseRun.ranges]⟩
      exact not_mem_blankCodes lowerRuns_avoidBlanks hcovered hlow hhigh
    · have himages : (((r.first : Int) + r.shift).toNat, ((r.last : Int) + r.shift).toNat) ∈
          lowerRuns.flatMap CaseRun.ranges :=
        List.mem_flatMap.mpr ⟨r, hr, by simp [CaseRun.ranges]⟩
      exact not_mem_blankCodes lowerRuns_avoidBlanks himages (by omega) (by omega)
  · cases h

theorem image_not_mem_blankCodes {n : Nat} (h : n ∉ blankCodes) :
    imageIn lowerRuns n ∉ blankCodes := by
  rcases imageIn_cases lowerRuns n with himage | ⟨r, hr, himage⟩
  · rwa [himage]
  · exact (image?_of_lowerRuns hr himage).2

/-- A number that is no code point gives the code point zero. -/
theorem toNat_ofNat_cases (n : Nat) : (Char.ofNat n).toNat = n ∨ (Char.ofNat n).toNat = 0 := by
  unfold Char.ofNat
  by_cases hv : n.isValidChar
  · left
    rw [dif_pos hv]
    rfl
  · right
    rw [dif_neg hv]
    rfl

theorem isBlank_ofNat {n : Nat} (h : n ∉ blankCodes) : isBlank (Char.ofNat n) = false := by
  rw [Bool.eq_false_iff, ne_eq, isBlank_iff]
  rcases toNat_ofNat_cases n with hn | hn
  · rwa [hn]
  · rw [hn]
    decide

theorem isBlank_foldChar (c : Char) : isBlank (foldChar c) = isBlank c := by
  unfold foldChar
  split
  · next hc =>
    have hlow : 65 ≤ c.toNat := hc.1
    have hhigh : c.toNat ≤ 90 := hc.2
    have hsmall : isBlank (Char.ofNat (c.toNat + 32)) = false := by
      apply isBlank_ofNat
      simp [blankCodes]
      omega
    have hcapital : isBlank c = false := by
      rw [Bool.eq_false_iff, ne_eq, isBlank_iff]
      simp [blankCodes]
      omega
    rw [hsmall, hcapital]
  · rfl

/-- A blank is its own small form. -/
theorem lowerChar_blank {c : Char} (h : isBlank c = true) : lowerChar c = [c] := by
  have hmem := (isBlank_iff c).mp h
  unfold lowerChar
  split
  · unfold foldChar
    rw [if_neg]
    rintro ⟨hlow, hhigh⟩
    have hlow : 65 ≤ c.toNat := hlow
    have hhigh : c.toNat ≤ 90 := hhigh
    simp [blankCodes] at hmem
    omega
  · split
    · next hc =>
      subst hc
      exact absurd h (by decide)
    · -- no run covers the code point of a blank
      rcases imageIn_cases lowerRuns c.toNat with himage | ⟨r, hr, himage⟩
      · rw [himage, Char.ofNat_toNat]
      · exact absurd hmem (image?_of_lowerRuns hr himage).1

theorem isBlank_of_mem_lowerChar {c d : Char} (h : d ∈ lowerChar c) : isBlank d = isBlank c := by
  cases hc : isBlank c with
  | true =>
    rw [lowerChar_blank hc, List.mem_singleton] at h
    rw [h, hc]
  | false =>
    unfold lowerChar at h
    split at h
    · rw [List.mem_singleton] at h
      rw [h, isBlank_foldChar, hc]
    · split at h
      · simp only [List.mem_cons, List.not_mem_nil, or_false] at h
        rcases h with rfl | rfl <;> decide
      · rw [List.mem_singleton] at h
        rw [h]
        apply isBlank_ofNat
        apply image_not_mem_blankCodes
        rw [← isBlank_iff, hc]
        simp

/-- What a character becomes are blanks exactly if it is one. -/
theorem isBlank_of_mem_lowerAt {before behind : List Char} {c d : Char}
    (h : d ∈ lowerAt before c behind) : isBlank d = isBlank c := by
  unfold lowerAt at h
  split at h
  · next hc =>
    subst hc
    rw [List.mem_singleton] at h
    subst h
    split <;> decide
  · exact isBlank_of_mem_lowerChar h

theorem lowerAt_ne_nil (before behind : List Char) (c : Char) : lowerAt before c behind ≠ [] := by
  unfold lowerAt lowerChar
  split
  · simp
  · split
    · simp
    · split <;> simp

theorem lowerAt_blank (before behind : List Char) {c : Char} (h : isBlank c = true) :
    lowerAt before c behind = [c] := by
  have hc : c ≠ 'Σ' := by
    rintro rfl
    exact absurd h (by decide)
  rw [lowerAt, if_neg hc, lowerChar_blank h]

/-! ### Texts -/

/-- A blank before a text does not change what its characters become. -/
theorem lowerAfter_before_blank {b : Char} (hb : isBlank b = true) (before cs : List Char) :
    lowerAfter (before ++ [b]) cs = lowerAfter before cs := by
  induction cs generalizing before with
  | nil => rfl
  | cons c r ih =>
    have hmeets : meetsCased (before ++ [b]) = meetsCased before :=
      meetsCased_append_blanks (by simpa using hb) before
    have hrest : lowerAfter (c :: (before ++ [b])) r = lowerAfter (c :: before) r :=
      ih (c :: before)
    rw [lowerAfter_cons, lowerAfter_cons, hrest, lowerAt, lowerAt, hmeets]

/-- A blank behind a text stays, and does not change what the other characters become. -/
theorem lowerAfter_append_blank {b : Char} (hb : isBlank b = true) (before cs : List Char) :
    lowerAfter before (cs ++ [b]) = lowerAfter before cs ++ [b] := by
  induction cs generalizing before with
  | nil => rw [List.nil_append, lowerAfter_cons, lowerAt_blank _ _ hb]; rfl
  | cons c r ih =>
    have hmeets : meetsCased (r ++ [b]) = meetsCased r :=
      meetsCased_append_blanks (by simpa using hb) r
    rw [List.cons_append, lowerAfter_cons, lowerAfter_cons, ih, lowerAt, lowerAt, hmeets,
      List.append_assoc]

/-- The last character of a text is the last to be put in small letters. -/
theorem lowerAfter_concat (before cs : List Char) (c : Char) :
    ∃ xs, lowerAfter before (cs ++ [c]) = xs ++ lowerAt (cs.reverse ++ before) c [] := by
  induction cs generalizing before with
  | nil =>
    refine ⟨[], ?_⟩
    simp [lowerAfter_cons, lowerAfter]
  | cons d r ih =>
    obtain ⟨xs, hxs⟩ := ih (d :: before)
    refine ⟨lowerAt before d (r ++ [c]) ++ xs, ?_⟩
    rw [List.cons_append, lowerAfter_cons, hxs]
    simp

theorem dropBlanks_lower (cs : List Char) :
    (lowerAfter [] cs).dropWhile isBlank = lowerAfter [] (cs.dropWhile isBlank) := by
  induction cs with
  | nil => rfl
  | cons c r ih =>
    cases hc : isBlank c with
    | true =>
      have hrest : lowerAfter [c] r = lowerAfter [] r := lowerAfter_before_blank hc [] r
      rw [lowerAfter_cons, lowerAt_blank _ _ hc, hrest]
      simpa [hc] using ih
    | false =>
      rw [List.dropWhile_cons_of_neg (by simp [hc]), lowerAfter_cons]
      cases hl : lowerAt [] c r with
      | nil => exact absurd hl (lowerAt_ne_nil _ _ c)
      | cons d ds =>
        have hd : isBlank d = false := by
          rw [← hc]
          exact isBlank_of_mem_lowerAt (by rw [hl]; simp)
        rw [List.cons_append, List.dropWhile_cons_of_neg (by simp [hd])]

theorem trimChars_eq (cs : List Char) :
    trimChars cs = (cs.dropWhile isBlank).rdropWhile isBlank := rfl

/-- Nothing is dropped behind characters that are not blank. -/
theorem rdropBlanks_append {ds : List Char} (hne : ds ≠ []) (hd : ∀ d ∈ ds, isBlank d = false)
    (cs : List Char) : (cs ++ ds).rdropWhile isBlank = cs ++ ds := by
  rw [List.rdropWhile_eq_self_iff]
  intro hl
  rw [List.getLast_append_of_right_ne_nil _ _ hne, hd _ (List.getLast_mem hne)]
  simp

theorem rdropBlanks_lower (cs : List Char) :
    (lowerAfter [] cs).rdropWhile isBlank = lowerAfter [] (cs.rdropWhile isBlank) := by
  -- from the end of the text, since that is where the blanks are dropped
  induction cs using List.reverseRecOn with
  | nil => rfl
  | append_singleton r c ih =>
    cases hc : isBlank c with
    | true =>
      rw [lowerAfter_append_blank hc, List.rdropWhile_concat_pos _ _ _ hc,
        List.rdropWhile_concat_pos _ _ _ hc, ih]
    | false =>
      obtain ⟨xs, hxs⟩ := lowerAfter_concat [] r c
      have hvisible : ∀ d ∈ lowerAt (r.reverse ++ []) c [], isBlank d = false := by
        intro d hd
        rw [isBlank_of_mem_lowerAt hd, hc]
      rw [List.rdropWhile_concat_neg _ _ _ (by simp [hc]), hxs,
        rdropBlanks_append (lowerAt_ne_nil _ _ c) hvisible]

/-- Trimming and small letters commute. -/
theorem trim_lower (s : String) : trim (lower s) = lower (trim s) := by
  have hchars : trimChars (lowerAfter [] s.toList) = lowerAfter [] (trimChars s.toList) := by
    rw [trimChars_eq, trimChars_eq, dropBlanks_lower, rdropBlanks_lower]
  simp [trim, lower, hchars]

/-! ### Trimming twice -/

theorem trimChars_trimChars (cs : List Char) : trimChars (trimChars cs) = trimChars cs := by
  rw [trimChars_eq, trimChars_eq]
  -- what is left begins as the text does behind its first blanks
  have hfront : ((cs.dropWhile isBlank).rdropWhile isBlank).dropWhile isBlank =
      (cs.dropWhile isBlank).rdropWhile isBlank := by
    rw [List.dropWhile_eq_self_iff]
    intro hl
    have hbegins := List.rdropWhile_prefix isBlank (cs.dropWhile isBlank)
    rw [hbegins.getElem hl]
    exact List.dropWhile_eq_self_iff.mp (List.dropWhile_idempotent isBlank cs) _
  rw [hfront, List.rdropWhile_idempotent]

/-- Trimming twice is trimming once. -/
theorem trim_trim (s : String) : trim (trim s) = trim s := by
  simp [trim, trimChars_trimChars]

end LedgerQuery.Text
