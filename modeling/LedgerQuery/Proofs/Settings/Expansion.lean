import Mathlib.Data.List.Forall2
import Mathlib.Data.List.TakeWhile
import LedgerQuery.Proofs.Settings.Credentials

/-!
# The grammar of texts with references

How a text is cut into segments is said by a grammar that does not look at how they are found: what
a reference in braces is, what one without braces is, and when a dollar sign is none of them. A text
has exactly one cut. Its references are then looked up from left to right, and each is replaced by
its value as it is, so that a dollar sign in a value refers to nothing.

* `Cut`: the grammar.
* `cut_iff`: each text has one cut, its segments.
* `StandsFor`: what a segment stands for.
* `values_eq_ok_iff`, `expand_eq_error_iff`: what comes out, and which variable is told.
* `exists_expand_iff`: when anything comes out.
* `expand_grammar`: all of this for one text.
-/

namespace LedgerQuery.Expansion

/-! ### Runs of characters -/

section Runs

variable {p : Char → Bool} {run rest cs : List Char}

/-- A run of characters that a test accepts is found if the test does not accept what follows. -/
theorem takeWhile_run (hrun : ∀ c ∈ run, p c = true) (hrest : ∀ d ∈ rest.head?, p d = false) :
    (run ++ rest).takeWhile p = run ∧ (run ++ rest).dropWhile p = rest := by
  rw [List.takeWhile_append_of_pos hrun, List.dropWhile_append_of_pos hrun]
  cases rest with
  | nil => simp
  | cons d r => simp [hrest d rfl]

/-- What is found is a run that ends where the test does not accept a character. -/
theorem run_takeWhile (p : Char → Bool) (cs : List Char) :
    (∀ c ∈ cs.takeWhile p, p c = true) ∧ ∀ d ∈ (cs.dropWhile p).head?, p d = false := by
  refine ⟨fun c hc => List.mem_takeWhile_imp hc, fun d hd => ?_⟩
  have hnot := List.head?_dropWhile_not p cs
  rw [Option.mem_def.mp hd] at hnot
  exact hnot

theorem isInside_iff {name : List Char} : (∀ c ∈ name, isInside c = true) ↔ '\x7d' ∉ name := by
  simp only [isInside, bne_iff_ne, ne_eq]
  exact ⟨fun h hmem => h _ hmem rfl, fun h c hc hceq => h (hceq ▸ hc)⟩

end Runs

/-! ### The grammar -/

/-- The text is cut into the segments. -/
inductive Cut : List Char → List Segment → Prop where
  | nil : Cut [] []
  | plain {c : Char} {r : List Char} {ss : List Segment} :
    c ≠ '$' → Cut r ss → Cut (c :: r) (.literal c :: ss)
  /-- A dollar sign that neither a brace nor a character of a name follows. -/
  | dollar {r : List Char} {ss : List Segment} :
    (∀ d ∈ r.head?, d ≠ '\x7b' ∧ isNameChar d = false) →
      Cut r ss → Cut ('$' :: r) (.literal '$' :: ss)
  | closed {name r : List Char} {ss : List Segment} :
    '\x7d' ∉ name → Cut r ss →
      Cut ('$' :: '\x7b' :: (name ++ '\x7d' :: r)) (.braced name true :: ss)
  | unclosed {name : List Char} :
    '\x7d' ∉ name → Cut ('$' :: '\x7b' :: name) [.braced name false]
  /-- The name is not empty, and goes on as long as there are characters of a name. -/
  | bare {name r : List Char} {ss : List Segment} :
    name ≠ [] → (∀ c ∈ name, isNameChar c = true) → (∀ d ∈ r.head?, isNameChar d = false) →
      Cut r ss → Cut ('$' :: (name ++ r)) (.bare name :: ss)

/-! ### Segments, form by form -/

theorem segments_dollar {r : List Char}
    (h : ∀ d ∈ r.head?, d ≠ '\x7b' ∧ isNameChar d = false) :
    segments ('$' :: r) = .literal '$' :: segments r := by
  cases r with
  | nil => simp [segments]
  | cons d s =>
    obtain ⟨hbrace, hname⟩ := h d rfl
    rw [segments.eq_def]
    simp [hbrace, hname]

theorem segments_closed {name : List Char} (h : '\x7d' ∉ name) (r : List Char) :
    segments ('$' :: '\x7b' :: (name ++ '\x7d' :: r)) = .braced name true :: segments r := by
  have hend : ∀ d ∈ ('\x7d' :: r).head?, isInside d = false := by
    rintro d ⟨⟩
    rfl
  obtain ⟨htake, hdrop⟩ := takeWhile_run (isInside_iff.mpr h) hend
  rw [segments.eq_def]
  simp [htake, hdrop]

theorem segments_unclosed {name : List Char} (h : '\x7d' ∉ name) :
    segments ('$' :: '\x7b' :: name) = [.braced name false] := by
  have hend : ∀ d ∈ ([] : List Char).head?, isInside d = false := by simp
  obtain ⟨htake, hdrop⟩ := takeWhile_run (isInside_iff.mpr h) hend
  rw [List.append_nil] at htake hdrop
  rw [segments.eq_def]
  simp [htake, hdrop, segments]

theorem segments_bare {name r : List Char} (hne : name ≠ [])
    (hname : ∀ c ∈ name, isNameChar c = true) (hr : ∀ d ∈ r.head?, isNameChar d = false) :
    segments ('$' :: (name ++ r)) = .bare name :: segments r := by
  cases name with
  | nil => exact absurd rfl hne
  | cons d s =>
    have hd : isNameChar d = true := hname d List.mem_cons_self
    have hs : ∀ c ∈ s, isNameChar c = true := fun c hc => hname c (List.mem_cons_of_mem d hc)
    obtain ⟨htake, hdrop⟩ := takeWhile_run hs hr
    -- a brace is no character of a name
    have hbrace : d ≠ '\x7b' := by
      rintro rfl
      exact absurd hd (by decide +kernel)
    rw [List.cons_append, segments.eq_def]
    simp [hbrace, hd, htake, hdrop]

/-! ### One cut -/

/-- The segments that are found are a cut. -/
theorem cut_segments (cs : List Char) : Cut cs (segments cs) := by
  fun_induction segments cs with
  | case1 => exact .nil
  | case2 => exact .dollar (by simp) .nil
  | case3 s ih =>
    obtain ⟨hrun, hend⟩ := run_takeWhile isInside s
    have hname : '\x7d' ∉ s.takeWhile isInside := isInside_iff.mp hrun
    have hsplit : s.takeWhile isInside ++ s.dropWhile isInside = s :=
      List.takeWhile_append_dropWhile
    cases hrest : s.dropWhile isInside with
    | nil =>
      rw [hrest, List.append_nil] at hsplit
      rw [hsplit] at hname ⊢
      simpa [segments] using Cut.unclosed hname
    | cons d r =>
      -- only a closing brace ends the name
      have hd : d = '\x7d' := by simpa [isInside] using hend d (by rw [hrest]; rfl)
      rw [hrest, hd] at hsplit
      rw [hrest, hd] at ih
      have hcut := Cut.closed hname ih
      rw [List.drop_one, List.tail_cons, hsplit] at hcut
      exact hcut
  | case4 d s hd hn ih =>
    obtain ⟨hrun, hend⟩ := run_takeWhile isNameChar s
    have hname : ∀ c ∈ d :: s.takeWhile isNameChar, isNameChar c = true := by
      intro c hc
      rcases List.mem_cons.mp hc with rfl | hc
      · exact hn
      · exact hrun c hc
    have hcut := Cut.bare (List.cons_ne_nil d _) hname hend ih
    rw [List.cons_append, List.takeWhile_append_dropWhile] at hcut
    exact hcut
  | case5 d s hd hn ih =>
    have hnext : ∀ e ∈ (d :: s).head?, e ≠ '\x7b' ∧ isNameChar e = false := by
      rintro e ⟨⟩
      exact ⟨hd, by simpa using hn⟩
    exact .dollar hnext ih
  | case6 c r h ih => exact .plain h ih

theorem Cut.eq_segments {cs : List Char} {ss : List Segment} (h : Cut cs ss) :
    ss = segments cs := by
  induction h with
  | nil => simp [segments]
  | plain hc _ ih => rw [segments_cons_of_ne hc, ih]
  | dollar hr _ ih => rw [segments_dollar hr, ih]
  | closed hname _ ih => rw [segments_closed hname, ih]
  | unclosed hname => rw [segments_unclosed hname]
  | bare hne hname hr _ ih => rw [segments_bare hne hname hr, ih]

/-- Each text has one cut. -/
theorem cut_iff {cs : List Char} {ss : List Segment} : Cut cs ss ↔ ss = segments cs :=
  ⟨Cut.eq_segments, fun h => h ▸ cut_segments cs⟩

/-- A text has no more segments than characters. -/
theorem Cut.length_le {cs : List Char} {ss : List Segment} (h : Cut cs ss) :
    ss.length ≤ cs.length := by
  induction h with
  | nil => exact Nat.le_refl 0
  | plain | dollar | closed | bare => simp only [List.length_cons, List.length_append]; omega
  | unclosed => simp

/-! ### Values -/

variable {env : Environment}

/-- What a segment stands for: a character for itself, and a reference for the value of its
variable, as it is. -/
inductive StandsFor (env : Environment) : Segment → String → Prop where
  | literal (c : Char) : StandsFor env (.literal c) (String.ofList [c])
  | reference {s : Segment} {name v : String} :
    s.name? = some name → env.get? name = some v → StandsFor env s v

theorem value_eq (env : Environment) (s : Segment) :
    value env s = match s.name? with
      | none => .ok (String.ofList s.source)
      | some n => match env.get? n with
        | some v => .ok v
        | none => .error ⟨n⟩ := by
  cases s <;> rfl

theorem value_eq_ok_iff {s : Segment} {v : String} : value env s = .ok v ↔ StandsFor env s v := by
  constructor
  · intro h
    cases hs : s.name? with
    | none =>
      cases s with
      | literal c =>
        cases h
        exact .literal c
      | braced | bare => cases hs
    | some n =>
      simp only [value_eq, hs] at h
      split at h
      · next w hw =>
        cases h
        exact .reference hs hw
      · cases h
  · intro h
    cases h with
    | literal c => rfl
    | reference hs hv => simp [value_eq, hs, hv]

/-- Segments stand for what each of them stands for, put together. -/
theorem values_eq_ok_iff {ss : List Segment} {t : String} :
    values env ss = .ok t ↔
      ∃ pieces, List.Forall₂ (StandsFor env) ss pieces ∧ t = String.join pieces := by
  -- the text that is put together changes with the segments, so it is generalized
  induction ss generalizing t with
  | nil => simp [values, eq_comm]
  | cons s r ih =>
    constructor
    · intro h
      rw [values] at h
      cases hs : value env s with
      | error e => simp [hs] at h
      | ok v =>
        cases hr : values env r with
        | error e => simp [hs, hr, Except.map] at h
        | ok u =>
          obtain ⟨pieces, hpieces, rfl⟩ := ih.mp hr
          refine ⟨v :: pieces, .cons (value_eq_ok_iff.mp hs) hpieces, ?_⟩
          simpa [hs, hr, Except.map, eq_comm] using h
    · rintro ⟨pieces, hpieces, rfl⟩
      cases hpieces with
      | @cons _ v _ pieces hv hpieces =>
        have hr := ih.mpr ⟨pieces, hpieces, rfl⟩
        rw [values, value_eq_ok_iff.mpr hv, hr, String.join_cons]
        rfl

/-- The first variable that is not set is told. -/
theorem values_eq_error_iff {ss : List Segment} {e : Missing} :
    values env ss = .error e ↔
      (ss.filterMap Segment.name?).find? (fun n => (env.get? n).isNone) = some e.name := by
  have hmap : ∀ (v : String) (x : Except Missing String),
      x.map (v ++ ·) = .error e ↔ x = .error e := by
    intro v x
    cases x <;> simp [Except.map]
  induction ss with
  | nil => simp [values]
  | cons s r ih =>
    rw [values, value_eq]
    cases hs : s.name? with
    | none => simpa [hs, hmap] using ih
    | some n =>
      cases hn : env.get? n with
      | none =>
        cases e with
        | mk m => simp [hs, hn]
      | some v => simpa [hs, hn, hmap] using ih

theorem expand_eq_error_iff {s : String} {e : Missing} :
    expand env s = .error e ↔ ∃ before after,
      references s = before ++ e.name :: after ∧
        (∀ n ∈ before, (env.get? n).isSome) ∧ env.get? e.name = none := by
  rw [expand, values_eq_error_iff, List.find?_eq_some_iff_append, Option.isNone_iff_eq_none]
  simp only [Bool.not_eq_true', Option.isNone_eq_false_iff]
  constructor
  · rintro ⟨hnone, before, after, hnames, hset⟩
    exact ⟨before, after, hnames, hset, hnone⟩
  · rintro ⟨before, after, hnames, hset, hnone⟩
    exact ⟨hnone, before, after, hnames, hset⟩

/-- A text can be expanded exactly if all variables that it refers to are set. -/
theorem exists_expand_iff {s : String} :
    (∃ t, expand env s = .ok t) ↔ ∀ n ∈ references s, (env.get? n).isSome := by
  have herror : ∀ e, expand env s = .error e ↔
      (references s).find? (fun n => (env.get? n).isNone) = some e.name :=
    fun e => values_eq_error_iff
  cases hfind : (references s).find? (fun n => (env.get? n).isNone) with
  | none =>
    have hset : ∀ n ∈ references s, (env.get? n).isSome := by
      intro n hn
      simpa [Option.isSome_iff_ne_none] using List.find?_eq_none.mp hfind n hn
    refine ⟨fun _ => hset, fun _ => ?_⟩
    cases hs : expand env s with
    | ok t => exact ⟨t, rfl⟩
    | error e =>
      rw [(herror e).mp hs] at hfind
      cases hfind
  | some n =>
    have hs : expand env s = .error ⟨n⟩ := (herror ⟨n⟩).mpr hfind
    constructor
    · rintro ⟨t, ht⟩
      rw [hs] at ht
      cases ht
    · intro hset
      have hn : (env.get? n).isSome := hset n (List.mem_of_find?_eq_some hfind)
      have hunset : env.get? n = none := by simpa using List.find?_some hfind
      rw [hunset] at hn
      cases hn

/-- Every text has one cut into segments, whose characters are those of the text, and which are no
more than these. The text is expanded exactly if all variables that it refers to are set, and then
each segment is replaced by what it stands for: a character by itself, a reference by the value as
it is. If some variable is not set, the first of these is told. A text without dollar signs is
expanded to itself. -/
theorem expand_grammar (env : Environment) (s : String) :
    ∃ ss : List Segment, (∀ ss', Cut s.toList ss' ↔ ss' = ss) ∧
      ss.flatMap Segment.source = s.toList ∧ ss.length ≤ s.toList.length ∧
      ((∃ t, expand env s = .ok t) ↔ ∀ n ∈ ss.filterMap Segment.name?, (env.get? n).isSome) ∧
      (∀ t, expand env s = .ok t ↔
        ∃ pieces, List.Forall₂ (StandsFor env) ss pieces ∧ t = String.join pieces) ∧
      (∀ e, expand env s = .error e ↔ ∃ before after,
        ss.filterMap Segment.name? = before ++ e.name :: after ∧
          (∀ n ∈ before, (env.get? n).isSome) ∧ env.get? e.name = none) ∧
      ('$' ∉ s.toList → expand env s = .ok s) := by
  refine ⟨segments s.toList, fun _ => cut_iff, source_segments s.toList,
    (cut_segments s.toList).length_le, exists_expand_iff, fun _ => values_eq_ok_iff,
    fun _ => expand_eq_error_iff, fun h => ?_⟩
  exact expand_of_references_nil env (references_of_no_dollar h)

/-- A value is not expanded again, a dollar sign at the end stays, and a name without its closing
brace goes on to the end. -/
example : expand [("A", "$B"), ("x y", "v")] "$A-$$A$ $\x7bx y" = .ok "$B-$$B$ v" := by
  decide +kernel

end LedgerQuery.Expansion
