/-!
# Texts between quotes

A quoted text stands between two marks, and a mark inside it is written twice.

* `read_quote`: reading takes back exactly the quoted text and leaves what follows it, whenever
  what follows does not begin with the mark.
* `read_eq_some_iff`: nothing else is read.
* `length_double`: a mark is written twice and every other character once.
-/

namespace LedgerQuery.Text.Quoted

/-- The characters with every mark written twice. -/
def double (q : Char) : List Char → List Char
  | [] => []
  | c :: r => if c = q then q :: q :: double q r else c :: double q r

/-- The characters between two marks. -/
def chars (q : Char) (cs : List Char) : List Char :=
  q :: double q cs ++ [q]

/-- The text between two marks. -/
def quote (q : Char) (s : String) : String :=
  String.ofList (chars q s.toList)

/-- Reads up to the first mark that is not one of two, and drops that mark. -/
def undouble (q : Char) : List Char → Option (List Char × List Char)
  | [] => none
  | [c] => if c = q then some ([], []) else none
  | c :: d :: r =>
    if c = q then
      if d = q then (undouble q r).map fun p => (q :: p.1, p.2) else some ([], d :: r)
    else (undouble q (d :: r)).map fun p => (c :: p.1, p.2)

/-- Reads a quoted text, and what follows it. -/
def read (q : Char) : List Char → Option (List Char × List Char)
  | [] => none
  | c :: r => if c = q then undouble q r else none

@[simp] theorem toList_quote (q : Char) (s : String) : (quote q s).toList = chars q s.toList := by
  simp [quote]

theorem length_double (q : Char) (cs : List Char) :
    (double q cs).length = cs.length + cs.count q := by
  induction cs with
  | nil => rfl
  | cons c r ih => by_cases hc : c = q <;> simp [double, hc, ih] <;> omega

theorem length_chars (q : Char) (cs : List Char) :
    (chars q cs).length = cs.length + cs.count q + 2 := by
  simp [chars, length_double]

theorem undouble_double (q : Char) (cs t : List Char) (h : t.head? ≠ some q) :
    undouble q (double q cs ++ q :: t) = some (cs, t) := by
  induction cs with
  | nil =>
    cases t with
    | nil => simp [double, undouble]
    | cons d r =>
      have hd : d ≠ q := by simpa using h
      simp [double, undouble, hd]
  | cons c r ih =>
    by_cases hc : c = q
    · simp [double, hc, undouble, ih]
    · obtain ⟨d, u, hu⟩ : ∃ d u, double q r ++ q :: t = d :: u := by
        cases hr : double q r with
        | nil => exact ⟨q, t, rfl⟩
        | cons d u => exact ⟨d, u ++ q :: t, rfl⟩
      simp only [double, hc, if_false, List.cons_append]
      rw [hu, undouble, if_neg hc, ← hu, ih]
      rfl

theorem read_quote (q : Char) (cs t : List Char) (h : t.head? ≠ some q) :
    read q (chars q cs ++ t) = some (cs, t) := by
  simp [chars, read, undouble_double q cs t h]

/-- The mark that ends what is read is the first one without a second behind it. -/
theorem eq_double_of_undouble {q : Char} {u cs t : List Char} (h : undouble q u = some (cs, t)) :
    u = double q cs ++ q :: t ∧ t.head? ≠ some q := by
  fun_induction undouble q u generalizing cs with
  | case1 => cases h
  | case2 =>
    -- the closing mark is the last character
    simp only [Option.some.injEq, Prod.mk.injEq] at h
    obtain ⟨rfl, rfl⟩ := h
    simp [double]
  | case3 => cases h
  | case4 r ih =>
    -- two marks stand for one
    simp only [Option.map_eq_some_iff, Prod.mk.injEq] at h
    obtain ⟨⟨ds, v⟩, hread, rfl, rfl⟩ := h
    obtain ⟨hr, hstop⟩ := ih hread
    exact ⟨by simp [double, hr], hstop⟩
  | case5 d r hd =>
    -- the closing mark has another character behind it
    simp only [Option.some.injEq, Prod.mk.injEq] at h
    obtain ⟨rfl, rfl⟩ := h
    exact ⟨rfl, by simpa using hd⟩
  | case6 c d r hc ih =>
    simp only [Option.map_eq_some_iff, Prod.mk.injEq] at h
    obtain ⟨⟨ds, v⟩, hread, rfl, rfl⟩ := h
    obtain ⟨hr, hstop⟩ := ih hread
    exact ⟨by simp [double, hc, hr], hstop⟩

theorem read_eq_some_iff {q : Char} {u cs t : List Char} :
    read q u = some (cs, t) ↔ u = chars q cs ++ t ∧ t.head? ≠ some q := by
  constructor
  · intro h
    cases u with
    | nil => cases h
    | cons c r =>
      simp only [read] at h
      split at h
      · next hc =>
        obtain ⟨hr, hstop⟩ := eq_double_of_undouble h
        exact ⟨by simp [chars, hc, hr], hstop⟩
      · cases h
  · rintro ⟨rfl, hstop⟩
    exact read_quote q cs t hstop

theorem read_toList_iff {q : Char} {s : String} {t u : List Char} :
    read q u = some (s.toList, t) ↔ u = (quote q s).toList ++ t ∧ t.head? ≠ some q := by
  rw [toList_quote]
  exact read_eq_some_iff

theorem read_toList_quote (q : Char) (s : String) :
    read q (quote q s).toList = some (s.toList, []) :=
  read_toList_iff.mpr ⟨(List.append_nil _).symm, by simp⟩

theorem quote_injective (q : Char) : Function.Injective (quote q) := by
  intro r s h
  have hread := read_toList_quote q r
  rw [h, read_toList_quote, Option.some_inj, Prod.mk.injEq] at hread
  exact String.toList_inj.mp hread.1.symm

end LedgerQuery.Text.Quoted
