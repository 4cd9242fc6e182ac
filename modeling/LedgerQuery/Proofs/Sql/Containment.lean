import LedgerQuery.Proofs.Decimal.Numerals
import LedgerQuery.Proofs.Sql.Parts

/-!
# What the text of a statement shows outside of quotes

Names and strings of any content stand between quotes of their own, so that from outside a text
shows what its tokens say and nothing else. The names of functions are the exception: they are
written as they are, and the statements here ask that each of them is a word.

* `scan_write`: the text of tokens ends outside of quotes.
* `placeholders_write`: it shows one placeholder for each bound value.
* `fill_write`: with the bound values in place of the placeholders it is the text for people.
* `not_shows_separator`, `not_shows_dashes`, `not_shows_stroke_star`: it shows no `;`, `--` or `/*`.
-/

namespace LedgerQuery.Sql

open Text (Region Guarded guarded_of_not_mem)
open Text.Region

/-! ### Mute texts -/

/-- A text that closes its quotes and, seen from outside, holds no placeholder, no separator, no
stroke and no two minus signs in a row. -/
structure Mute (cs : List Char) : Prop where
  ends : scan .outside cs = .outside
  mark : some '?' ∉ bare .outside cs
  separator : some ';' ∉ bare .outside cs
  stroke : some '/' ∉ bare .outside cs
  minus : Guarded (some '-') (some '-') (bare .outside cs)

theorem Mute.append {cs ds : List Char} (hc : Mute cs) (hd : Mute ds) : Mute (cs ++ ds) := by
  have hb : bare .outside (cs ++ ds) = bare .outside cs ++ bare .outside ds := by
    rw [bare_append, hc.ends]
  refine ⟨by rw [scan_append, hc.ends, hd.ends], ?_, ?_, ?_, ?_⟩ <;> rw [hb]
  · exact fun h => (List.mem_append.mp h).elim hc.mark hd.mark
  · exact fun h => (List.mem_append.mp h).elim hc.separator hd.separator
  · exact fun h => (List.mem_append.mp h).elim hc.stroke hd.stroke
  · exact hc.minus.append hd.minus

/-- The characters that say something outside of quotes, but for the minus sign. -/
def noisy : List Char := ['\'', '"', '?', ';', '/']

/-- A character that says nothing outside of quotes, unless it is a minus sign. -/
def isQuiet (c : Char) : Bool :=
  decide (c ∉ noisy)

/-- A class of characters without noisy ones. -/
theorem isQuiet_of {p : Char → Bool} (hp : noisy.any p = false) {c : Char} (h : p c = true) :
    isQuiet c = true := by
  refine decide_eq_true fun hc => ?_
  rw [List.any_eq_true.mpr ⟨c, hc, h⟩] at hp
  exact absurd hp (by decide)

theorem mute_of_quiet {cs : List Char} (h : ∀ c ∈ cs, isQuiet c = true)
    (hm : Guarded '-' '-' cs) : Mute cs := by
  have hq : ∀ c ∈ cs, c ≠ '\'' ∧ c ≠ '"' := by
    intro c hc
    constructor <;> rintro rfl <;> exact absurd (h _ hc) (by decide)
  have hn : ∀ x, isQuiet x = false → some x ∉ cs.map some := by
    intro x hx hmem
    obtain ⟨c, hc, he⟩ := List.mem_map.mp hmem
    rw [← Option.some.inj he, h c hc] at hx
    exact absurd hx (by decide)
  -- without quotes, all of the text is seen
  refine ⟨scan_of_unmarked hq, ?_, ?_, ?_, ?_⟩ <;> rw [bare_of_unmarked hq]
  · exact hn '?' (by decide)
  · exact hn ';' (by decide)
  · exact hn '/' (by decide)
  · exact hm.map_some

theorem mute_of_quiet_not_mem {cs : List Char} (h : cs.all isQuiet = true) (hm : '-' ∉ cs) :
    Mute cs :=
  mute_of_quiet (List.all_eq_true.mp h) (guarded_of_not_mem hm)

theorem mute_chars {q : Char} {r : Region} (h : IsMark q r) (hq : q ∉ ['?', ';', '/', '-'])
    (cs : List Char) : Mute (Text.Quoted.chars q cs) := by
  have hn : ∀ x, x ∈ ['?', ';', '/', '-'] → some x ∉ bare .outside (Text.Quoted.chars q cs) := by
    intro x hx hmem
    rcases bare_chars h cs _ hmem with he | he
    · simp at he
    · rw [Option.some.inj he] at hx
      exact hq hx
  exact ⟨scan_chars h cs, hn '?' (by simp), hn ';' (by simp), hn '/' (by simp),
    guarded_of_not_mem (hn '-' (by simp))⟩

/-! ### Tokens -/

theorem isTail_of_isWord {cs : List Char} (h : Identifier.isWord cs = true) :
    ∀ c ∈ cs, Identifier.isTail c = true := by
  intro c hc
  cases cs with
  | nil => simp at hc
  | cons d r =>
    simp only [Identifier.isWord, Bool.and_eq_true, List.all_eq_true] at h
    rcases List.mem_cons.mp hc with rfl | hc
    · simp [Identifier.isTail, h.1]
    · exact h.2 c hc

theorem mute_of_isWord {cs : List Char} (h : Identifier.isWord cs = true) : Mute cs := by
  have ht := isTail_of_isWord h
  have hm : '-' ∉ cs := fun hm => absurd (ht _ hm) (by decide)
  exact mute_of_quiet (fun c hc => isQuiet_of (by decide) (ht c hc)) (guarded_of_not_mem hm)

theorem mute_render (s : String) : Mute (Identifier.render s).toList := by
  unfold Identifier.render
  split
  · next h => exact mute_of_isWord ((Identifier.isPlain_iff s).mp h).1
  · rw [Identifier.quote, Text.Quoted.toList_quote]
    exact mute_chars isMark_double (by decide) _

theorem mute_intercalate {ps : List (List Char)} (h : ∀ p ∈ ps, Mute p) :
    Mute (List.intercalate ['.'] ps) := by
  induction ps with
  | nil => exact mute_of_quiet_not_mem (by simp) (by simp)
  | cons p ps ih =>
    have hp := h p (by simp)
    have hps := ih fun q hq => h q (by simp [hq])
    cases ps with
    | nil => simpa using hp
    | cons q ps =>
      rw [List.intercalate_cons_cons]
      exact (hp.append (mute_of_quiet_not_mem (by decide) (by decide))).append hps

theorem toList_tableText (d : Dialect) (s : String) :
    (d.tableText s).toList =
      List.intercalate ['.'] ((d.tableParts s).map fun p => (Identifier.render p).toList) := by
  rw [Dialect.tableText, String.toList_intercalate, List.map_map]
  rfl

theorem mute_literal (d : Dialect) (v : Literal) : Mute (v.write d).toList := by
  cases v with
  | null =>
    rw [Literal.write]
    exact mute_of_quiet_not_mem (by decide) (by decide)
  | bool b => cases d <;> cases b <;> exact mute_of_quiet_not_mem (by decide) (by decide)
  | int n =>
    exact mute_of_quiet
      (fun c hc => isQuiet_of (by decide) (Decimal.isNumeral_of_mem_intText n c hc))
      (Decimal.guarded_intText n)
  | float x =>
    rw [Literal.write, floatText]
    split
    · exact mute_of_quiet
        (fun c hc => isQuiet_of (by decide) (Decimal.Layout.isNumeral_of_mem_render _ x c hc))
        (Decimal.Layout.guarded_render _ x)
    · exact mute_of_quiet_not_mem (by decide) (by decide)
  | text s =>
    rw [Literal.write, stringText, Text.Quoted.toList_quote]
    exact mute_chars isMark_single (by decide) _

/-- If the token is a function, its name is written as a word. -/
def Token.isTame : Token → Bool
  | .function f => Identifier.isWord (Text.upper f).toList
  | _ => true

/-- A token is a placeholder, the stroke of a quotient, or mute. -/
theorem mute_or (d : Dialect) (mode : Mode) {t : Token} (ht : t.isTame) :
    (mode = .bound ∧ ∃ v, t = .param v) ∨ t = .operator .over ∨ Mute (t.write d mode).toList := by
  cases t with
  | keyword w =>
    rw [Token.write]
    cases w <;> exact .inr (.inr (mute_of_quiet_not_mem (by decide) (by decide)))
  | operator op =>
    rw [Token.write]
    cases op with
    | «over» => exact .inr (.inl rfl)
    | _ => exact .inr (.inr (mute_of_quiet_not_mem (by decide) (by decide)))
  | star | comma | opening | closing | space | newline =>
    rw [Token.write]
    exact .inr (.inr (mute_of_quiet_not_mem (by decide) (by decide)))
  | indent n =>
    have h : ∀ c ∈ List.replicate (2 * n) ' ', c = ' ' := fun c hc => List.eq_of_mem_replicate hc
    rw [Token.write, String.toList_ofList]
    refine .inr (.inr (mute_of_quiet (fun c hc => ?_) (guarded_of_not_mem fun hm => ?_)))
    · rw [h c hc]
      decide
    · exact absurd (h _ hm) (by decide)
  | name s => exact .inr (.inr (mute_render s))
  | table s =>
    rw [Token.write, toList_tableText]
    refine .inr (.inr (mute_intercalate fun p hp => ?_))
    obtain ⟨s, _, rfl⟩ := List.mem_map.mp hp
    exact mute_render s
  | function f => exact .inr (.inr (mute_of_isWord ht))
  | literal v => exact .inr (.inr (mute_literal d v))
  | param v =>
    cases mode with
    | bound => exact .inl ⟨rfl, v, rfl⟩
    | inline => exact .inr (.inr (mute_literal d v))

/-! ### Lists of tokens -/

variable {ts us : List Token}

theorem toList_write_cons (d : Dialect) (mode : Mode) (t : Token) (ts : List Token) :
    (write d mode (t :: ts)).toList = (t.write d mode).toList ++ (write d mode ts).toList := by
  simp

@[simp] theorem toList_write_param (d : Dialect) (v : Literal) :
    ((Token.param v).write d .bound).toList = ['?'] := by
  simp [Token.write, Dialect.placeholder]

@[simp] theorem toList_write_over (d : Dialect) (mode : Mode) :
    ((Token.operator .over).write d mode).toList = ['/'] := by
  simp [Token.write, Operator.text]

@[simp] theorem toList_write_space (d : Dialect) (mode : Mode) :
    (Token.space.write d mode).toList = [' '] := by
  simp [Token.write]

/-- A placeholder is not mute. -/
theorem param?_eq_none_of_mute {d : Dialect} {t : Token} (h : Mute (t.write d .bound).toList) :
    t.param? = none := by
  cases t with
  | param v => exact absurd (by simp [bare]) h.mark
  | _ => rfl

theorem scan_token (d : Dialect) (mode : Mode) {t : Token} (ht : t.isTame) :
    scan .outside (t.write d mode).toList = .outside := by
  rcases mute_or d mode ht with ⟨rfl, v, rfl⟩ | rfl | h
  · simp [step]
  · simp [step]
  · exact h.ends

theorem bare_write_cons (d : Dialect) (mode : Mode) {t : Token}
    (ht : scan .outside (t.write d mode).toList = .outside) (ts : List Token) :
    bare .outside (write d mode (t :: ts)).toList =
      bare .outside (t.write d mode).toList ++ bare .outside (write d mode ts).toList := by
  rw [toList_write_cons, bare_append, ht]

/-- Tokens that end outside of quotes one by one end there together. -/
theorem scan_write_of_scan (d : Dialect) (mode : Mode)
    (h : ∀ t ∈ ts, scan .outside (t.write d mode).toList = .outside) :
    scan .outside (write d mode ts).toList = .outside := by
  induction ts with
  | nil => rfl
  | cons t ts ih =>
    rw [toList_write_cons, scan_append, h t (by simp)]
    exact ih fun u hu => h u (by simp [hu])

/-- The text of tokens ends outside of quotes. -/
theorem scan_write (d : Dialect) (mode : Mode) (h : ∀ t ∈ ts, t.isTame) :
    scan .outside (write d mode ts).toList = .outside :=
  scan_write_of_scan d mode fun t ht => scan_token d mode (h t ht)

theorem placeholders_token (d : Dialect) {t : Token} (ht : t.isTame) :
    placeholders (t.write d .bound).toList = t.param?.toList.length := by
  rcases mute_or d .bound ht with ⟨_, v, rfl⟩ | rfl | h
  · simp [placeholders, bare, Token.param?]
  · simp [placeholders, bare, Token.param?]
  · rw [param?_eq_none_of_mute h, placeholders, List.count_eq_zero_of_not_mem h.mark]
    rfl

/-- Tokens that end outside of quotes and show a placeholder where they bind a value do so
together. -/
theorem placeholders_write_of_scan (d : Dialect)
    (hscan : ∀ t ∈ ts, scan .outside (t.write d .bound).toList = .outside)
    (hmarks : ∀ t ∈ ts, placeholders (t.write d .bound).toList = t.param?.toList.length) :
    placeholders (write d .bound ts).toList = (params ts).length := by
  induction ts with
  | nil => rfl
  | cons t ts ih =>
    have hp : params (t :: ts) = t.param?.toList ++ params ts := by
      cases hv : t.param? <;> simp [params, hv]
    rw [placeholders, bare_write_cons d .bound (hscan t (by simp)), List.count_append, hp,
      List.length_append, ← hmarks t (by simp),
      ← ih (fun u hu => hscan u (by simp [hu])) fun u hu => hmarks u (by simp [hu])]
    rfl

/-- The executable text shows one placeholder for each bound value. -/
theorem placeholders_write (d : Dialect) (h : ∀ t ∈ ts, t.isTame) :
    placeholders (write d .bound ts).toList = (params ts).length :=
  placeholders_write_of_scan d (fun t ht => scan_token d .bound (h t ht))
    fun t ht => placeholders_token d (h t ht)

/-- With the bound values in place of its placeholders the executable text is the text for people.
-/
theorem fill_write (d : Dialect) (h : ∀ t ∈ ts, t.isTame) :
    fill .outside ((params ts).map fun v => (v.write d).toList) (write d .bound ts).toList =
      (write d .inline ts).toList := by
  induction ts with
  | nil => rfl
  | cons t ts ih =>
    have ht := h t (by simp)
    have ih := ih fun u hu => h u (by simp [hu])
    rw [toList_write_cons, toList_write_cons, ← ih]
    rcases mute_or d .bound ht with ⟨_, v, rfl⟩ | rfl | hm
    · rw [toList_write_param]
      rfl
    · rw [toList_write_over, toList_write_over]
      rfl
    · have hv := param?_eq_none_of_mute hm
      have hp : params (t :: ts) = params ts := by simp [params, hv]
      have hb : t.write d .inline = t.write d .bound := by
        cases t with
        | param v => simp [Token.param?] at hv
        | _ => rfl
      rw [hp, hb, fill_append hm.mark, hm.ends]

/-! ### Separators and comments -/

/-- Every operator is followed by a space. -/
def Spaced : List Token → Prop
  | [] => True
  | t :: ts => (∀ op, t = .operator op → ∃ r, ts = .space :: r) ∧ Spaced ts

theorem Spaced.append (ht : Spaced ts) (hu : Spaced us) : Spaced (ts ++ us) := by
  induction ts with
  | nil => exact hu
  | cons t ts ih =>
    refine ⟨fun op hop => ?_, ih ht.2⟩
    obtain ⟨r, rfl⟩ := ht.1 op hop
    exact ⟨r ++ us, rfl⟩

theorem spaced_of_no_operator (h : ∀ op, .operator op ∉ ts) : Spaced ts := by
  induction ts with
  | nil => trivial
  | cons t ts ih =>
    refine ⟨fun op hop => absurd (by simp [hop]) (h op), ih fun op hop => h op ?_⟩
    exact List.mem_cons_of_mem t hop

theorem spaced_operator (op : Operator) : Spaced [.space, .operator op, .space] :=
  ⟨by simp, fun _ _ => ⟨[], rfl⟩, spaced_of_no_operator (by simp)⟩

/-- No `;` is shown. -/
theorem not_shows_separator (d : Dialect) (mode : Mode) (h : ∀ t ∈ ts, t.isTame) :
    ¬ Shows [';'] (write d mode ts).toList := by
  suffices hs : some ';' ∉ bare .outside (write d mode ts).toList by
    exact fun hi => hs (hi.subset (by simp))
  induction ts with
  | nil => simp [write]
  | cons t ts ih =>
    have ht := h t (by simp)
    rw [bare_write_cons d mode (scan_token d mode ht), List.mem_append, not_or]
    refine ⟨?_, ih fun u hu => h u (by simp [hu])⟩
    rcases mute_or d mode ht with ⟨rfl, v, rfl⟩ | rfl | hm
    · simp [bare]
    · simp [bare]
    · exact hm.separator

/-- No `--` is shown. -/
theorem not_shows_dashes (d : Dialect) (mode : Mode) (h : ∀ t ∈ ts, t.isTame) :
    ¬ Shows ['-', '-'] (write d mode ts).toList := by
  suffices hs : Guarded (some '-') (some '-') (bare .outside (write d mode ts).toList) by
    exact hs.not_infix
  induction ts with
  | nil => trivial
  | cons t ts ih =>
    have ht := h t (by simp)
    rw [bare_write_cons d mode (scan_token d mode ht)]
    refine Guarded.append ?_ (ih fun u hu => h u (by simp [hu]))
    rcases mute_or d mode ht with ⟨rfl, v, rfl⟩ | rfl | hm
    · exact guarded_of_not_mem (by simp [bare])
    · exact guarded_of_not_mem (by simp [bare])
    · exact hm.minus

/-- No `/*` is shown, provided that a space follows each operator. -/
theorem not_shows_stroke_star (d : Dialect) (mode : Mode) (h : ∀ t ∈ ts, t.isTame)
    (hs : Spaced ts) : ¬ Shows ['/', '*'] (write d mode ts).toList := by
  suffices hg : Guarded (some '/') (some '*') (bare .outside (write d mode ts).toList) by
    exact hg.not_infix
  induction ts with
  | nil => trivial
  | cons t ts ih =>
    have ht := h t (by simp)
    have ih := ih (fun u hu => h u (by simp [hu])) hs.2
    rw [bare_write_cons d mode (scan_token d mode ht)]
    rcases mute_or d mode ht with ⟨rfl, v, rfl⟩ | rfl | hm
    · exact Guarded.append (guarded_of_not_mem (by simp [bare])) ih
    · -- the space behind the stroke keeps it from what follows
      obtain ⟨r, rfl⟩ := hs.1 _ rfl
      rw [bare_write_cons d mode (t := .space) (scan_token d mode rfl), toList_write_space] at ih ⊢
      rw [toList_write_over]
      exact ⟨fun _ => by decide, ih⟩
    · exact Guarded.append (guarded_of_not_mem hm.stroke) ih

/-! ### Queries -/

theorem composable_tame : Composable fun ts => ∀ t ∈ ts, t.isTame where
  append {ts us} ht hu t hm := by
    rcases List.mem_append.mp hm with hm | hm
    · exact ht t hm
    · exact hu t hm
  glue {ts} h t hm := by
    have hg := List.all_eq_true.mp h t hm
    cases t with
    | function f => exact absurd hg (by simp [Token.isGlue])
    | _ => rfl

theorem pervasive_spaced : Pervasive Spaced where
  append := Spaced.append
  glue h := spaced_of_no_operator fun op hm => by
    have hg := List.all_eq_true.mp h _ hm
    exact absurd hg (by simp [Token.isGlue])
  operator := spaced_operator
  function _ := spaced_of_no_operator (by simp)
  param _ := spaced_of_no_operator (by simp)

end LedgerQuery.Sql
