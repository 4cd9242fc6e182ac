import LedgerQuery.Text.Quoted

/-!
# Quoted regions of a text

A text is scanned from the left. The scan stands outside of quotes, between single quotes or
between double quotes, and a mark of the right kind leads in or out. A mark that is written twice
between its quotes leads out and in again, so that nothing of a quoted text is ever seen from
outside.

* `Region.scan`: where the scan of a text ends.
* `Region.bare`: the characters of a text, those between quotes blanked out.
* `Region.fill`: the text with values in place of its question marks outside of quotes.
* `scan_chars`, `bare_chars`: a quoted text ends outside and shows nothing but marks.
* `Guarded`: no entry of a list stands directly before a certain other one.
-/

namespace LedgerQuery.Text

/-! ### Pairs of neighbours -/

section Guarded

variable {α : Type} {a b : α}

/-- Every `a` is followed by something other than `b`. -/
def Guarded (a b : α) : List α → Prop
  | [] => True
  | [x] => x ≠ a
  | x :: y :: r => (x = a → y ≠ b) ∧ Guarded a b (y :: r)

theorem guarded_of_not_mem {l : List α} (h : a ∉ l) : Guarded a b l := by
  induction l with
  | nil => trivial
  | cons x r ih =>
    simp only [List.mem_cons, not_or] at h
    obtain ⟨hx, hr⟩ := h
    cases r with
    | nil => exact fun e => hx e.symm
    | cons y r => exact ⟨fun e => absurd e.symm hx, ih hr⟩

theorem Guarded.cons {x : α} {l : List α} (hx : x ≠ a) (hl : Guarded a b l) :
    Guarded a b (x :: l) := by
  cases l with
  | nil => exact hx
  | cons y r => exact ⟨fun e => absurd e hx, hl⟩

theorem Guarded.append {l m : List α} (hl : Guarded a b l) (hm : Guarded a b m) :
    Guarded a b (l ++ m) := by
  induction l with
  | nil => exact hm
  | cons x r ih =>
    cases r with
    | nil => exact hm.cons hl
    | cons y r => exact ⟨hl.1, ih hl.2⟩

theorem Guarded.tail {x : α} {l : List α} (h : Guarded a b (x :: l)) : Guarded a b l := by
  cases l with
  | nil => trivial
  | cons y r => exact h.2

theorem Guarded.map_some {l : List α} (h : Guarded a b l) :
    Guarded (some a) (some b) (l.map some) := by
  induction l with
  | nil => trivial
  | cons x r ih =>
    cases r with
    | nil => exact fun e => h (Option.some.inj e)
    | cons y r => exact ⟨fun e he => h.1 (Option.some.inj e) (Option.some.inj he), ih h.2⟩

theorem Guarded.not_infix {l : List α} (h : Guarded a b l) : ¬ [a, b] <:+: l := by
  induction l with
  | nil => simp
  | cons x r ih =>
    intro hi
    rcases List.infix_cons_iff.mp hi with hp | hi
    · cases r with
      | nil => simp at hp
      | cons y r =>
        simp only [List.cons_prefix_cons, List.nil_prefix, and_true] at hp
        exact h.1 hp.1.symm hp.2.symm
    · exact ih h.tail hi

end Guarded

/-! ### The scan -/

/-- Where a scan stands. -/
inductive Region where
  | outside
  /-- Between single quotes. -/
  | single
  /-- Between double quotes. -/
  | double
  deriving DecidableEq, Repr

namespace Region

/-- Where the scan stands behind one more character. -/
def step : Region → Char → Region
  | .outside, c => if c = '\'' then .single else if c = '"' then .double else .outside
  | .single, c => if c = '\'' then .outside else .single
  | .double, c => if c = '"' then .outside else .double

/-- Where the scan stands behind a text. -/
def scan (r : Region) (cs : List Char) : Region :=
  cs.foldl step r

/-- The characters of a text, those met between quotes blanked out. -/
def bare : Region → List Char → List (Option Char)
  | _, [] => []
  | r, c :: cs => (if r = .outside then some c else none) :: bare (step r c) cs

/-- The number of question marks met outside of quotes. -/
def placeholders (cs : List Char) : Nat :=
  (bare .outside cs).count (some '?')

/-- The characters of a pattern stand side by side outside of quotes. -/
def Shows (pattern cs : List Char) : Prop :=
  pattern.map some <:+: bare .outside cs

/-- The text with values in place of the question marks met outside of quotes, the first value for
the first of them. -/
def fill : Region → List (List Char) → List Char → List Char
  | _, _, [] => []
  | r, vs, c :: cs =>
    if r = .outside ∧ c = '?' then vs.headD [c] ++ fill r vs.tail cs
    else c :: fill (step r c) vs cs

@[simp] theorem scan_nil (r : Region) : scan r [] = r := rfl

@[simp] theorem scan_cons (r : Region) (c : Char) (cs : List Char) :
    scan r (c :: cs) = scan (step r c) cs := rfl

@[simp] theorem scan_append (r : Region) (cs ds : List Char) :
    scan r (cs ++ ds) = scan (scan r cs) ds := by
  simp [scan]

@[simp] theorem bare_nil (r : Region) : bare r [] = [] := rfl

theorem bare_append (r : Region) (cs ds : List Char) :
    bare r (cs ++ ds) = bare r cs ++ bare (scan r cs) ds := by
  induction cs generalizing r with
  | nil => rfl
  | cons c cs ih => simp [bare, ih]

/-- A text without question marks outside of quotes takes no value. -/
theorem fill_append {r : Region} {cs : List Char} (h : some '?' ∉ bare r cs)
    (vs : List (List Char)) (ds : List Char) :
    fill r vs (cs ++ ds) = cs ++ fill (scan r cs) vs ds := by
  induction cs generalizing r with
  | nil => rfl
  | cons c cs ih =>
    simp only [bare, List.mem_cons, not_or] at h
    obtain ⟨hc, hcs⟩ := h
    have hq : ¬ (r = .outside ∧ c = '?') := by
      rintro ⟨rfl, rfl⟩
      exact hc rfl
    rw [List.cons_append, fill, if_neg hq, ih hcs]
    rfl

/-! ### Quoted texts -/

/-- The mark leads from outside into the region, and no other character leads out of it. -/
structure IsMark (q : Char) (r : Region) : Prop where
  enter : step .outside q = r
  inside : r ≠ .outside
  leave : step r q = .outside
  stay : ∀ c, c ≠ q → step r c = r

theorem isMark_single : IsMark '\'' .single :=
  ⟨rfl, by decide, rfl, fun _ h => if_neg h⟩

theorem isMark_double : IsMark '"' .double :=
  ⟨rfl, by decide, rfl, fun _ h => if_neg h⟩

variable {q : Char} {r : Region}

theorem scan_double (h : IsMark q r) (cs : List Char) : scan r (Quoted.double q cs) = r := by
  induction cs with
  | nil => rfl
  | cons c cs ih =>
    by_cases hc : c = q
    · simpa [Quoted.double, hc, h.leave, h.enter] using ih
    · simpa [Quoted.double, hc, h.stay c hc] using ih

theorem bare_double (h : IsMark q r) (cs : List Char) :
    ∀ x ∈ bare r (Quoted.double q cs), x = none ∨ x = some q := by
  induction cs with
  | nil => simp [Quoted.double]
  | cons c cs ih =>
    by_cases hc : c = q
    · -- the second of the two marks is met outside
      simpa [Quoted.double, hc, bare, h.inside, h.leave, h.enter] using ih
    · simpa [Quoted.double, hc, bare, h.inside, h.stay c hc] using ih

theorem scan_chars (h : IsMark q r) (cs : List Char) :
    scan .outside (Quoted.chars q cs) = .outside := by
  simp [Quoted.chars, h.enter, scan_double h, h.leave]

theorem bare_chars (h : IsMark q r) (cs : List Char) :
    ∀ x ∈ bare .outside (Quoted.chars q cs), x = none ∨ x = some q := by
  intro x hx
  rw [Quoted.chars, List.cons_append, bare, h.enter, bare_append, scan_double h] at hx
  simp only [List.mem_cons, List.mem_append, bare, if_neg h.inside, if_true] at hx
  rcases hx with rfl | hx | rfl | hx
  · exact .inr rfl
  · exact bare_double h cs x hx
  · exact .inl rfl
  · simp at hx

/-! ### Texts without marks -/

/-- A text without marks is met outside from end to end. -/
theorem scan_of_unmarked {cs : List Char} (h : ∀ c ∈ cs, c ≠ '\'' ∧ c ≠ '"') :
    scan .outside cs = .outside := by
  induction cs with
  | nil => rfl
  | cons c cs ih =>
    obtain ⟨h₁, h₂⟩ := h c (by simp)
    have hs : step .outside c = .outside := by simp [step, h₁, h₂]
    rw [scan_cons, hs]
    exact ih fun d hd => h d (by simp [hd])

theorem bare_of_unmarked {cs : List Char} (h : ∀ c ∈ cs, c ≠ '\'' ∧ c ≠ '"') :
    bare .outside cs = cs.map some := by
  induction cs with
  | nil => rfl
  | cons c cs ih =>
    obtain ⟨h₁, h₂⟩ := h c (by simp)
    have hs : step .outside c = .outside := by simp [step, h₁, h₂]
    rw [bare, hs, ih fun d hd => h d (by simp [hd])]
    rfl

end Region

end LedgerQuery.Text
