import LedgerQuery.Proofs.Text.Trimming

/-!
# Small letters against the case of ASCII

Names are compared without regard to the case of `A`–`Z`, and some of them have been put in small
letters before, by the mapping for all scripts. That mapping takes a few letters of other scripts
into ASCII: the Kelvin sign becomes `k`, and the capital I with a dot becomes `i` with a mark of its
own behind it. So the two ways of comparing agree on every name in ASCII that has no `k`.

* `foldAscii_foldAscii`: what is folded is folded once.
* `lowerChar_foreign`: what becomes of a letter outside of ASCII.
* `sameFolded_lower`: names without `k` are found under the same texts, in small letters or not.
-/

namespace LedgerQuery.Text

/-! ### Folded characters -/

theorem toNat_ofNat_of_valid {n : Nat} (h : n.isValidChar) : (Char.ofNat n).toNat = n := by
  rw [Char.ofNat, dif_pos h]
  rfl

theorem isAscii_foldChar (c : Char) : isAscii (foldChar c) = isAscii c := by
  unfold foldChar
  split
  · next hc =>
    have hlow : 65 ≤ c.toNat := hc.1
    have hhigh : c.toNat ≤ 90 := hc.2
    have hsmall := toNat_ofNat_cases (c.toNat + 32)
    simp only [isAscii, decide_eq_decide]
    omega
  · rfl

/-- A small letter is its own small form. -/
theorem foldChar_foldChar (c : Char) : foldChar (foldChar c) = foldChar c := by
  by_cases hc : 'A' ≤ c ∧ c ≤ 'Z'
  · have hlow : 65 ≤ c.toNat := hc.1
    have hhigh : c.toNat ≤ 90 := hc.2
    have hvalid : (c.toNat + 32).isValidChar := by
      left
      omega
    have hsmall : foldChar c = Char.ofNat (c.toNat + 32) := if_pos hc
    have hcode : (foldChar c).toNat = c.toNat + 32 := by
      rw [hsmall, toNat_ofNat_of_valid hvalid]
    refine if_neg ?_
    rintro ⟨-, h⟩
    have h : (foldChar c).toNat ≤ 90 := h
    omega
  · have hsame : foldChar c = c := if_neg hc
    rw [hsame, hsame]

theorem foldAscii_foldAscii (s : String) : foldAscii (foldAscii s) = foldAscii s := by
  have hfold : foldChar ∘ foldChar = foldChar := funext foldChar_foldChar
  rw [← String.toList_inj, toList_foldAscii, toList_foldAscii, List.map_map, hfold]

/-! ### Letters outside of ASCII -/

/-- The character cannot stand in a name in ASCII without `k`. -/
def isForeign (c : Char) : Bool :=
  !isAscii c || c == 'k'

/-- The run lies in ASCII, or its images are code points outside of it, or its only image is `k`. -/
def CaseRun.staysForeign (r : CaseRun) : Bool :=
  let low := (r.first : Int) + r.shift
  let high := (r.last : Int) + r.shift
  r.last < 128 || (r.first == r.last && low == 107) ||
    (128 ≤ low && (high < 0xD800 || (0xDFFF < low && high < 0x110000)))

theorem lowerRuns_stayForeign : lowerRuns.all CaseRun.staysForeign = true := by
  decide +kernel

theorem isForeign_ofNat {n : Nat} (hvalid : n.isValidChar) (h : 128 ≤ n ∨ n = 107) :
    isForeign (Char.ofNat n) = true := by
  have hcode := toNat_ofNat_of_valid hvalid
  rcases h with h | rfl
  · have hascii : isAscii (Char.ofNat n) = false := by
      rw [isAscii, hcode, decide_eq_false_iff_not]
      omega
    simp [isForeign, hascii]
  · rfl

theorem isForeign_image {r : CaseRun} (hr : r ∈ lowerRuns) {n m : Nat} (hn : 128 ≤ n)
    (h : r.image? n = some m) : isForeign (Char.ofNat m) = true := by
  have hstays := List.all_eq_true.mp lowerRuns_stayForeign r hr
  unfold CaseRun.image? at h
  split at h
  · next hin =>
    obtain ⟨hlow, hhigh, -⟩ := hin
    obtain rfl := Option.some.inj h
    simp only [CaseRun.staysForeign, Bool.or_eq_true, Bool.and_eq_true, decide_eq_true_eq,
      beq_iff_eq] at hstays
    rcases hstays with (hascii | ⟨hone, hk⟩) | ⟨hleast, hrange⟩
    · omega
    · refine isForeign_ofNat (.inl ?_) (.inr ?_) <;> omega
    · refine isForeign_ofNat ?_ (.inl ?_)
      · rcases hrange with hrange | ⟨habove, hbelow⟩
        · exact .inl (by omega)
        · exact .inr ⟨by omega, by omega⟩
      · omega
  · cases h

/-- What becomes of a letter outside of ASCII does not fit into ASCII, or it is `k`. -/
theorem lowerChar_foreign {c : Char} (h : isAscii c = false) :
    ∃ d ∈ lowerChar c, isForeign d = true := by
  have hcode : 128 ≤ c.toNat := by
    rw [isAscii, decide_eq_false_iff_not] at h
    omega
  rw [lowerChar, h]
  by_cases hdot : c = 'İ'
  · subst hdot
    exact ⟨'\u0307', by decide, by decide⟩
  · refine ⟨Char.ofNat (imageIn lowerRuns c.toNat), by simp [hdot], ?_⟩
    rcases imageIn_cases lowerRuns c.toNat with himage | ⟨r, hr, himage⟩
    · rw [himage, Char.ofNat_toNat, isForeign, h]
      rfl
    · exact isForeign_image hr hcode himage

theorem lowerAt_foreign {c : Char} (h : isAscii c = false) (before behind : List Char) :
    ∃ d ∈ lowerAt before c behind, isForeign d = true := by
  rw [lowerAt]
  split
  · split
    · exact ⟨'ς', List.mem_singleton_self _, by decide⟩
    · exact ⟨'σ', List.mem_singleton_self _, by decide⟩
  · exact lowerChar_foreign h

/-! ### Texts -/

/-- A text with a letter outside of ASCII keeps one, or has a `k`, when it is put in small letters.
-/
theorem exists_foreign_lower {s : String} {c : Char} (hc : c ∈ s.toList) (h : isAscii c = false) :
    ∃ d ∈ (lower s).toList, isForeign d = true := by
  have hafter : ∀ (cs before : List Char), c ∈ cs →
      ∃ d ∈ lowerAfter before cs, isForeign d = true := by
    intro cs
    induction cs with
    | nil =>
      intro before hc
      exact absurd hc List.not_mem_nil
    | cons e r ih =>
      intro before hc
      rw [lowerAfter_cons]
      rcases List.mem_cons.mp hc with rfl | hc
      · obtain ⟨d, hd, hforeign⟩ := lowerAt_foreign h before r
        exact ⟨d, List.mem_append_left _ hd, hforeign⟩
      · obtain ⟨d, hd, hforeign⟩ := ih (e :: before) hc
        exact ⟨d, List.mem_append_right _ hd, hforeign⟩
  rw [lower, String.toList_ofList]
  exact hafter s.toList [] hc

/-- A folded name without foreign characters is not the folded form of a text that has one. -/
theorem foldAscii_ne_of_foreign {s name : String} {c : Char} (hc : c ∈ s.toList)
    (h : isForeign c = true) (hname : ∀ d ∈ (foldAscii name).toList, isForeign d = false) :
    foldAscii s ≠ foldAscii name := by
  intro heq
  have hmem : foldChar c ∈ (foldAscii name).toList := by
    rw [← heq, toList_foldAscii]
    exact List.mem_map_of_mem hc
  have hkept : isForeign (foldChar c) = true := by
    rw [isForeign, Bool.or_eq_true] at h
    rcases h with h | h
    · rw [isForeign, isAscii_foldChar, h]
      rfl
    · rw [beq_iff_eq.mp h]
      rfl
  rw [hname _ hmem] at hkept
  cases hkept

/-- A name in ASCII without `k` agrees with a text up to the case of `A`–`Z` exactly if it agrees
with the text in small letters. -/
theorem sameFolded_lower {name : String}
    (hname : ∀ c ∈ (foldAscii name).toList, isForeign c = false) (s : String) :
    sameFolded (lower s) name = sameFolded s name := by
  by_cases hascii : ∀ c ∈ s.toList, isAscii c = true
  · rw [sameFolded, sameFolded, lower_ascii s hascii, foldAscii_foldAscii]
  · push Not at hascii
    obtain ⟨c, hc, hforeign⟩ := hascii
    have hforeign : isAscii c = false := by simpa using hforeign
    -- neither form of the text can be the name
    obtain ⟨d, hd, hd'⟩ := exists_foreign_lower hc hforeign
    have hlower := foldAscii_ne_of_foreign hd hd' hname
    have hkept := foldAscii_ne_of_foreign hc (by simp [isForeign, hforeign]) hname
    rw [sameFolded, sameFolded, beq_false_of_ne hlower, beq_false_of_ne hkept]

/-- With a `k` in it, a name may be found in small letters alone: the Kelvin sign is none in ASCII. -/
example : sameFolded (lower "\u212Aind") "kind" = true ∧ sameFolded "\u212Aind" "kind" = false := by
  decide +kernel

end LedgerQuery.Text
