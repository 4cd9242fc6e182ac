import LedgerQuery.Text.Case.Table

/-!
# Small and capital forms of a text

The full case mappings: a character may map to several, and a capital sigma that ends a word
becomes the final small sigma. Letters below U+0080 are mapped directly, so that the tables are
consulted for the others only.

* `lower_ascii`, `upper_ascii`: on texts below U+0080 both mappings work letter by letter.
* `foldAscii`: the mapping that leaves every other letter alone, for names that are compared
  without regard to the case of `A`–`Z`.
-/

namespace LedgerQuery.Text

/-- The character lies below U+0080. -/
def isAscii (c : Char) : Bool :=
  decide (c.toNat < 128)

/-- The small form of a capital letter `A`–`Z`; every other character is kept. -/
def foldChar (c : Char) : Char :=
  if 'A' ≤ c ∧ c ≤ 'Z' then Char.ofNat (c.toNat + 32) else c

/-- The capital form of a small letter `a`–`z`; every other character is kept. -/
def raiseChar (c : Char) : Char :=
  if 'a' ≤ c ∧ c ≤ 'z' then Char.ofNat (c.toNat - 32) else c

/-- The image of a code point under the first run that covers it. -/
def imageIn (runs : List CaseRun) (n : Nat) : Nat :=
  (runs.findSome? (·.image? n)).getD n

/-- The small form of one character, outside of any word. -/
def lowerChar (c : Char) : List Char :=
  if isAscii c then [foldChar c]
  else if c = 'İ' then ['i', '\u0307']
  else [Char.ofNat (imageIn lowerRuns c.toNat)]

/-- The capital form of one character. -/
def upperChar (c : Char) : List Char :=
  if isAscii c then [raiseChar c]
  else match upperSequences.lookup c.toNat with
    | some ns => ns.map Char.ofNat
    | none => [Char.ofNat (imageIn upperRuns c.toNat)]

/-- The first character that is not case-ignorable has a case. -/
def meetsCased (cs : List Char) : Bool :=
  match cs.dropWhile caseIgnorable.contains with
  | [] => false
  | c :: _ => cased.contains c

/-- The small form of the characters that follow `before` (which is given back to front). -/
def lowerAfter (before : List Char) : List Char → List Char
  | [] => []
  | c :: r =>
    (if c = 'Σ' then [if meetsCased before && !meetsCased r then 'ς' else 'σ'] else lowerChar c)
      ++ lowerAfter (c :: before) r

/-- The small form of a text. -/
def lower (s : String) : String :=
  String.ofList (lowerAfter [] s.toList)

/-- The capital form of a text. -/
def upper (s : String) : String :=
  String.ofList (s.toList.flatMap upperChar)

/-- The text with `A`–`Z` in their small form, all else kept. -/
def foldAscii (s : String) : String :=
  String.ofList (s.toList.map foldChar)

/-- The two texts agree up to the case of `A`–`Z`. -/
def sameFolded (s t : String) : Bool :=
  foldAscii s == foldAscii t

/-! ### Texts below U+0080 -/

theorem lowerAfter_ascii (cs before : List Char) (h : ∀ c ∈ cs, isAscii c = true) :
    lowerAfter before cs = cs.map foldChar := by
  induction cs generalizing before with
  | nil => rfl
  | cons c r ih =>
    have hc : isAscii c = true := h c (by simp)
    have hs : c ≠ 'Σ' := by
      rintro rfl
      exact absurd hc (by decide)
    simp [lowerAfter, hs, lowerChar, hc, ih _ fun d hd => h d (by simp [hd])]

theorem lower_ascii (s : String) (h : ∀ c ∈ s.toList, isAscii c = true) :
    lower s = foldAscii s := by
  simp [lower, foldAscii, lowerAfter_ascii _ _ h]

theorem upper_ascii (s : String) (h : ∀ c ∈ s.toList, isAscii c = true) :
    upper s = String.ofList (s.toList.map raiseChar) := by
  have : s.toList.flatMap upperChar = s.toList.map raiseChar := by
    generalize s.toList = cs at h
    induction cs with
    | nil => rfl
    | cons c r ih =>
      simp [List.flatMap_cons, upperChar, h c (by simp), ih fun d hd => h d (by simp [hd])]
  simp [upper, this]

@[simp] theorem toList_foldAscii (s : String) : (foldAscii s).toList = s.toList.map foldChar := by
  simp [foldAscii]

theorem sameFolded_iff (s t : String) : sameFolded s t = true ↔ foldAscii s = foldAscii t := by
  simp [sameFolded]

end LedgerQuery.Text
