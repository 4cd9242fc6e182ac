import LedgerQuery.Proofs.Descriptor.Echo
import LedgerQuery.Proofs.Json.Grammar
import LedgerQuery.Proofs.Json.Objects
import LedgerQuery.Proofs.Text.Trimming

/-!
# How scalars are spelled

The texts that stand for a scalar, by the grammar of words, numbers and strings. A text is read as a
scalar exactly if it spells one, up to blanks around it, and what is written of a scalar is one of
its spellings.

* `Scalar.Spelling`: the texts that stand for a scalar.
* `Scalar.read_iff`: what is read is what is spelled.
* `Scalar.spelling_chars`: what is written of a scalar spells it.
-/

namespace LedgerQuery

open Json (Draft Number NumberText StringText ReadsAs Starts EndsNumber isSpace skipSpaces word
  magnitude stringPiece readValue)

namespace Scalar

/-- The scalar of a number: a whole number beyond the signed range of 64 bits is a float, and a
number out of all range is none. -/
def ofNumber? : Number → Option Scalar
  | .whole n =>
    some (if Json.minSigned ≤ n ∧ n ≤ Json.maxSigned then .int n else .float (Decimal.ofInt n))
  | .float x => some (.float x)
  | .outOfRange => none

/-- The characters stand for the scalar. -/
inductive Spelling : List Char → Scalar → Prop
  | trueWord : Spelling ['t', 'r', 'u', 'e'] (.bool true)
  | falseWord : Spelling ['f', 'a', 'l', 's', 'e'] (.bool false)
  | number {negative : Bool} {cs : List Char} {n : Number} (hn : NumberText negative cs n)
      {v : Scalar} (hv : ofNumber? n = some v) :
      Spelling ((if negative then ['-'] else []) ++ cs) v
  | text {body cs : List Char} (h : StringText body cs) :
      Spelling ('"' :: (body ++ ['"'])) (.text (String.ofList cs))

/-! ### From drafts -/

theorem ofDraft_number (room : Nat) {n : Number} {v : Scalar} :
    ofDraft room (.number n) = .ok v ↔ ofNumber? n = some v := by
  cases n with
  | whole n =>
    simp only [ofDraft, Draft.value, ofJson?, ofNumber?]
    split <;> simp [Draft.required]
  | float x => simp [ofDraft, Draft.value, ofJson?, ofNumber?, Draft.required]
  | outOfRange => simp [ofDraft, Draft.value, ofNumber?]

/-- A draft that is read as a scalar is a truth value, a number or a string. -/
theorem ofDraft_cases {room : Nat} {d : Draft} {v : Scalar} (h : ofDraft room d = .ok v) :
    (∃ b, d = .bool b ∧ v = .bool b) ∨ (∃ n, d = .number n ∧ ofNumber? n = some v) ∨
      ∃ s, d = .text (some s) ∧ v = .text s := by
  obtain ⟨j, hj, hv⟩ := exists_value_of_ofDraft h
  cases d with
  | bool b =>
    obtain rfl := Except.ok.inj hj
    exact .inl ⟨b, rfl, (Option.some.inj hv).symm⟩
  | number n => exact .inr (.inl ⟨n, rfl, (ofDraft_number room).mp h⟩)
  | text s =>
    cases s with
    | some s =>
      obtain rfl := Except.ok.inj hj
      exact .inr (.inr ⟨s, rfl, (Option.some.inj hv).symm⟩)
    | none => cases hj
  | null =>
    obtain rfl := Except.ok.inj hj
    cases hv
  | broken b => cases hj
  -- a list or an object has a value only if there is room for it, and that value is no scalar
  | list items ending =>
    cases room with
    | zero => cases hj
    | succ room =>
      obtain ⟨js, -, rfl⟩ := Json.exists_of_map_eq_ok hj
      cases hv
  | object members ending =>
    cases room with
    | zero => cases hj
    | succ room =>
      obtain ⟨ms, -, rfl⟩ := Json.exists_of_map_eq_ok hj
      cases hv

/-! ### What is spelled is read -/

/-- A spelling is read wherever a value can stand. -/
theorem Spelling.readsAs {cs : List Char} {v : Scalar} (h : Spelling cs v) :
    ∃ d, ReadsAs cs d ∧ ∀ room, ofDraft room d = .ok v := by
  cases h with
  | trueWord => exact ⟨.bool true, Json.readsAs_chars (j := .bool true) trivial, fun _ => rfl⟩
  | falseWord => exact ⟨.bool false, Json.readsAs_chars (j := .bool false) trivial, fun _ => rfl⟩
  | @number negative cs n hn v hv =>
    have hsigned : Json.Signed ((if negative then ['-'] else []) ++ cs) n :=
      ⟨negative, cs, rfl, hn.numeral⟩
    refine ⟨.number n, ⟨hsigned.starts, fun {fuel} hfuel rest hrest => ?_⟩,
      fun room => (ofDraft_number room).mpr hv⟩
    obtain ⟨f, rfl⟩ := Json.exists_succ hsigned.starts hfuel
    exact hsigned.readValue hrest f
  | @text body cs h =>
    have hstarts : Starts ('"' :: (body ++ ['"'])) := ⟨'"', _, rfl, by decide, by decide⟩
    refine ⟨.text (some (String.ofList cs)), ⟨hstarts, fun {fuel} hfuel rest _ => ?_⟩,
      fun room => rfl⟩
    obtain ⟨f, rfl⟩ := Json.exists_succ hstarts hfuel
    have hquote : readValue (f + 1) ('"' :: (body ++ '"' :: rest)) =
      (stringPiece (body ++ '"' :: rest)).draft .text := rfl
    rw [List.cons_append, List.append_assoc, List.singleton_append, hquote, h.stringPiece]
    rfl

/-! ### What is read is spelled -/

/-- What a reader finds at the front of a text and reads as a scalar spells it. -/
def Found (cs : List Char) (result : Draft × Option (List Char)) : Prop :=
  ∀ room v, ofDraft room result.1 = .ok v →
    ∃ token rest, result.2 = some rest ∧ cs = token ++ rest ∧ Spelling token v

/-- Lists, objects and what breaks off are no scalars. -/
theorem found_other {cs : List Char} {d : Draft} {o : Option (List Char)}
    (hbool : ∀ b, d ≠ .bool b) (hnumber : ∀ n, d ≠ .number n) (htext : ∀ s, d ≠ .text s) :
    Found cs (d, o) := by
  intro room v h
  rcases ofDraft_cases h with ⟨b, hd, -⟩ | ⟨n, hd, -⟩ | ⟨s, hd, -⟩
  · exact absurd hd (hbool b)
  · exact absurd hd (hnumber n)
  · exact absurd hd (htext (some s))

theorem found_word {letter : Char} {letters : List Char} {value : Draft}
    (h : ∀ room v, ofDraft room value = .ok v → Spelling (letter :: letters) v) (cs : List Char) :
    Found (letter :: cs) (word letters value cs) := by
  rcases Json.word_cases letters value cs with ⟨b, hb⟩ | ⟨rest, rfl, hrest⟩
  · rw [hb]
    exact found_other (by simp) (by simp) (by simp)
  · rw [hrest]
    exact fun room v hv => ⟨letter :: letters, rest, rfl, rfl, h room v hv⟩

theorem found_text (cs : List Char) : Found ('"' :: cs) ((stringPiece cs).draft .text) := by
  cases hpiece : stringPiece cs with
  | broken b => exact found_other (by simp) (by simp) (by simp)
  | done s rest =>
    intro room v h
    cases s with
    | none => simp [Json.Piece.draft, ofDraft, Draft.value] at h
    | some s =>
      obtain rfl : Scalar.text s = v := Except.ok.inj h
      obtain ⟨body, rfl, hbody⟩ := Json.exists_stringText hpiece
      refine ⟨'"' :: (body ++ ['"']), rest, rfl, by simp, ?_⟩
      have htext := Spelling.text hbody
      rwa [String.ofList_toList] at htext

theorem found_number (negative : Bool) (cs : List Char) :
    Found ((if negative then ['-'] else []) ++ cs) ((magnitude negative cs).draft .number) := by
  cases hpiece : magnitude negative cs with
  | broken b => exact found_other (by simp) (by simp) (by simp)
  | done n rest =>
    intro room v h
    obtain ⟨ds, rfl, hds⟩ := Json.exists_numberText hpiece
    exact ⟨(if negative then ['-'] else []) ++ ds, rest, rfl, by simp,
      .number hds ((ofDraft_number room).mp h)⟩

/-- Whatever is read as a scalar spells it. -/
theorem found_readValue (fuel : Nat) (cs : List Char) :
    Found (skipSpaces cs) (readValue fuel cs) := by
  cases fuel with
  | zero => exact found_other (by simp) (by simp) (by simp)
  | succ fuel =>
    rw [readValue]
    generalize skipSpaces cs = cs
    have hnull : ∀ room v, ofDraft room .null = .ok v → Spelling "null".toList v :=
      fun room v h => by simp [ofDraft, Draft.value, ofJson?, Draft.required] at h
    have htrue : ∀ room v, ofDraft room (.bool true) = .ok v → Spelling "true".toList v :=
      fun room v h => Except.ok.inj h ▸ .trueWord
    have hfalse : ∀ room v, ofDraft room (.bool false) = .ok v → Spelling "false".toList v :=
      fun room v h => Except.ok.inj h ▸ .falseWord
    split
    · exact found_other (by simp) (by simp) (by simp)
    · exact found_word hnull _
    · exact found_word htrue _
    · exact found_word hfalse _
    · exact found_text _
    -- whether or not a list or an object has anything in it, it is no scalar
    · split <;> exact found_other (by simp) (by simp) (by simp)
    · split <;> exact found_other (by simp) (by simp) (by simp)
    · exact found_number true _
    · split
      · exact found_number false _
      · exact found_other (by simp) (by simp) (by simp)

/-! ### Whole texts -/

theorem skipSpaces_append {before : List Char} (h : ∀ c ∈ before, isSpace c = true)
    (cs : List Char) : skipSpaces (before ++ cs) = skipSpaces cs :=
  List.dropWhile_append_of_pos h

theorem skipSpaces_eq_nil_iff {cs : List Char} :
    skipSpaces cs = [] ↔ ∀ c ∈ cs, isSpace c = true :=
  List.dropWhile_eq_nil_iff

theorem endsNumber_spaces {cs : List Char} (h : ∀ c ∈ cs, isSpace c = true) : EndsNumber cs := by
  intro c hc
  have hspace := h c (List.mem_of_mem_head? hc)
  simp only [isSpace, Bool.or_eq_true, decide_eq_true_eq] at hspace
  rcases hspace with ((rfl | rfl) | rfl) | rfl <;> decide

/-- A text is read as a scalar exactly if it spells the scalar, with nothing but spaces around. -/
theorem read_iff {s : String} {room : Nat} {v : Scalar} :
    (Json.document s).finish (ofDraft room) = .ok v ↔
      ∃ before token behind, s.toList = before ++ (token ++ behind) ∧
        (∀ c ∈ before, isSpace c = true) ∧ (∀ c ∈ behind, isSpace c = true) ∧
        Spelling token v := by
  constructor
  · intro h
    have hfound := found_readValue (2 * s.toList.length + 2) s.toList
    have hread := Json.Document.read_of_finish h
    rw [Json.document] at h hread
    split at h
    · next d hnone =>
      rw [hnone] at hfound hread
      obtain ⟨token, rest, hrest, -⟩ := hfound room v hread
      cases hrest
    · next d rest hsome =>
      rw [hsome] at hfound hread
      obtain ⟨token, rest, hrest, hskip, hspelling⟩ := hfound room v hread
      obtain rfl := Option.some.inj hrest
      refine ⟨s.toList.takeWhile isSpace, token, rest, ?_, fun c hc => List.mem_takeWhile_imp hc,
        ?_, hspelling⟩
      · rw [← hskip]
        exact List.takeWhile_append_dropWhile.symm
      · rw [← skipSpaces_eq_nil_iff]
        simpa [Json.Document.finish, hread] using h
  · rintro ⟨before, token, behind, hs, hbefore, hbehind, hspelling⟩
    obtain ⟨d, hreads, hd⟩ := hspelling.readsAs
    have hfuel : 2 * token.length ≤ 2 * s.toList.length + 1 + 1 := by
      rw [hs, List.length_append, List.length_append]
      omega
    have hskip : skipSpaces s.toList = skipSpaces (token ++ behind) := by
      rw [hs, skipSpaces_append hbefore]
    have hread : readValue (2 * s.toList.length + 2) s.toList = (d, some behind) := by
      rw [← hreads.reads hfuel (endsNumber_spaces hbehind), readValue, readValue, hskip]
    rw [Json.document, hread]
    simp [Json.Document.finish, hd, skipSpaces_eq_nil_iff.mpr hbehind]

/-! ### Blanks around spellings -/

/-- Neither end of the text is blank, and there is something between them. -/
structure Bounded (cs : List Char) : Prop where
  head : ∃ c r, cs = c :: r ∧ Text.isBlank c = false
  last : ∃ r c, cs = r ++ [c] ∧ Text.isBlank c = false

theorem isBlank_of_isDigit {c : Char} (h : Decimal.isDigit c = true) : Text.isBlank c = false := by
  rw [Decimal.isDigit, decide_eq_true_eq] at h
  rw [Bool.eq_false_iff, ne_eq, Text.isBlank_iff]
  have hlow : 48 ≤ c.toNat := h.1
  have hhigh : c.toNat ≤ 57 := h.2
  simp only [Text.blankCodes, List.mem_cons, List.not_mem_nil, or_false]
  omega

theorem isBlank_of_isSpace {c : Char} (h : isSpace c = true) : Text.isBlank c = true := by
  simp only [isSpace, Bool.or_eq_true, decide_eq_true_eq] at h
  rcases h with ((rfl | rfl) | rfl) | rfl <;> decide

/-- Digits at an end are not blank. -/
theorem exists_last_digit {ds : List Char} (hne : ds ≠ [])
    (h : ∀ c ∈ ds, Decimal.isDigit c = true) (cs : List Char) :
    ∃ r c, cs ++ ds = r ++ [c] ∧ Text.isBlank c = false := by
  refine ⟨cs ++ ds.dropLast, ds.getLast hne, ?_, isBlank_of_isDigit (h _ (List.getLast_mem hne))⟩
  rw [List.append_assoc, List.dropLast_append_getLast]

theorem bounded_numberText {negative : Bool} {cs : List Char} {n : Number}
    (h : NumberText negative cs n) : Bounded cs where
  head := by
    obtain ⟨c, r, rfl, hc⟩ := h.numeral.digit
    exact ⟨c, r, rfl, isBlank_of_isDigit hc⟩
  last := by
    cases h with
    | whole hwhole =>
      rcases hwhole with rfl | hwhole
      · exact ⟨[], '0', rfl, by decide⟩
      · exact exists_last_digit hwhole.ne_nil hwhole.digit []
    | @point whole fraction _ hne hdigits =>
      have hlast := exists_last_digit hne hdigits (whole ++ ['.'])
      rwa [List.append_assoc, List.singleton_append] at hlast
    | @exponent whole fraction _ _ mark _ minus sign _ power hne hpower =>
      have hlast := exists_last_digit hne hpower (whole ++ (Json.pointChars fraction ++ mark :: sign))
      rwa [List.append_assoc, List.append_assoc, List.cons_append] at hlast

theorem Spelling.bounded {cs : List Char} {v : Scalar} (h : Spelling cs v) : Bounded cs := by
  cases h with
  | trueWord => exact ⟨⟨'t', _, rfl, by decide⟩, ⟨['t', 'r', 'u'], 'e', rfl, by decide⟩⟩
  | falseWord => exact ⟨⟨'f', _, rfl, by decide⟩, ⟨['f', 'a', 'l', 's'], 'e', rfl, by decide⟩⟩
  | @number negative cs n hn v hv =>
    have hcs := bounded_numberText hn
    cases negative with
    | false => exact hcs
    | true =>
      obtain ⟨r, c, hlast, hc⟩ := hcs.last
      exact ⟨⟨'-', cs, rfl, by decide⟩, ⟨'-' :: r, c, by rw [hlast]; rfl, hc⟩⟩
  | @text body cs h =>
    exact ⟨⟨'"', _, rfl, by decide⟩, ⟨'"' :: body, '"', rfl, by decide⟩⟩

/-- Trimming takes the blanks around what is bounded, and nothing else. -/
theorem Bounded.trimChars {cs : List Char} (h : Bounded cs) {before behind : List Char}
    (hbefore : ∀ c ∈ before, Text.isBlank c = true)
    (hbehind : ∀ c ∈ behind, Text.isBlank c = true) :
    Text.trimChars (before ++ (cs ++ behind)) = cs := by
  have hfront : (before ++ (cs ++ behind)).dropWhile Text.isBlank = cs ++ behind := by
    obtain ⟨c, r, rfl, hc⟩ := h.head
    rw [List.dropWhile_append_of_pos hbefore, List.cons_append,
      List.dropWhile_cons_of_neg (by simp [hc])]
  have hback : behind.reverse ++ cs.reverse = (cs ++ behind).reverse := by simp
  obtain ⟨r, c, rfl, hc⟩ := h.last
  rw [Text.trimChars, hfront, ← hback,
    List.dropWhile_append_of_pos fun d hd => hbehind d (List.mem_reverse.mp hd)]
  simp [hc]

/-- A text without blanks at its ends is read as a scalar exactly if it spells the scalar. -/
theorem read_iff_of_trimmed (room : Nat) {cs : List Char} (hcs : Text.trimChars cs = cs)
    {v : Scalar} :
    (Json.document (String.ofList cs)).finish (ofDraft room) = .ok v ↔ Spelling cs v := by
  rw [read_iff, String.toList_ofList]
  constructor
  · rintro ⟨before, token, behind, rfl, hbefore, hbehind, h⟩
    have htrim := h.bounded.trimChars (fun c hc => isBlank_of_isSpace (hbefore c hc))
      fun c hc => isBlank_of_isSpace (hbehind c hc)
    rwa [← hcs, htrim]
  · intro h
    exact ⟨[], cs, [], by simp, by simp, by simp, h⟩

/-- A text for which this can be computed spells the scalar. -/
theorem spelling_of_toOption {cs : List Char} (hcs : Text.trimChars cs = cs) {v : Scalar}
    (h : ((Json.document (String.ofList cs)).finish (ofDraft 0)).toOption = some v) :
    Spelling cs v :=
  (read_iff_of_trimmed 0 hcs).mp (Json.eq_ok_of_toOption h)

/-- There are no blanks around what spells a scalar. -/
theorem Spelling.trimChars {cs : List Char} {v : Scalar} (h : Spelling cs v) :
    Text.trimChars cs = cs := by
  have htrim : Text.trimChars ([] ++ (cs ++ [])) = cs := h.bounded.trimChars (by simp) (by simp)
  rwa [List.nil_append, List.append_nil] at htrim

/-- A text spells one scalar only. -/
theorem Spelling.eq {cs : List Char} {v w : Scalar} (hv : Spelling cs v) (hw : Spelling cs w) :
    v = w := by
  have hread := (read_iff_of_trimmed 0 hv.trimChars).mpr hv
  rw [(read_iff_of_trimmed 0 hv.trimChars).mpr hw] at hread
  exact (Except.ok.inj hread).symm

/-- What is written of a scalar spells it. -/
theorem spelling_chars {v : Scalar} (h : v.Writable) : Spelling (Json.chars v.toJson) v := by
  have hends : EndsNumber [] := fun c hc => absurd hc (by simp)
  have hread := Json.readValue_chars h.toJson (Nat.le_refl _) hends
  have hfound := found_readValue (2 * (Json.chars v.toJson).length) (Json.chars v.toJson ++ [])
  rw [hread] at hfound
  obtain ⟨token, rest, hrest, hskip, hspelling⟩ := hfound 0 v (ofDraft_toDraft 0 h.inRange)
  obtain rfl := Option.some.inj hrest
  rw [List.append_nil, List.append_nil, (Json.starts_chars h.toJson).skipSpaces] at hskip
  rwa [hskip]

/-! ### Texts that spell no scalar -/

/-- Texts that look like a value at their front and spell no scalar. -/
inductive Lookalike : List Char → Prop
  /-- A first character that begins no scalar: that of null, of a list, of an object, of a name. -/
  | front {c : Char} {r : List Char} (hword : c ≠ 't' ∧ c ≠ 'f') (hquote : c ≠ '"')
      (hminus : c ≠ '-') (hdigit : Decimal.isDigit c = false) : Lookalike (c :: r)
  /-- A minus sign without a digit. -/
  | sign {r : List Char} (h : Json.NoDigit r) : Lookalike ('-' :: r)
  /-- A zero in front of another digit. -/
  | zero (negative : Bool) {d : Char} (hd : Decimal.isDigit d = true) (r : List Char) :
      Lookalike ((if negative then ['-'] else []) ++ '0' :: d :: r)
  | outOfRange {negative : Bool} {cs : List Char} (h : NumberText negative cs .outOfRange) :
      Lookalike ((if negative then ['-'] else []) ++ cs)
  /-- A quote that opens no string, or one that does not take the whole text. -/
  | quote {r : List Char} (h : ∀ body cs, StringText body cs → r ≠ body ++ ['"']) :
      Lookalike ('"' :: r)

/-- A number begins with its sign or with a digit. -/
theorem head_signed (negative : Bool) {c : Char} (hc : Decimal.isDigit c = true) (r : List Char) :
    ∀ d ∈ ((if negative then ['-'] else []) ++ c :: r).head?, d = '-' ∨ Decimal.isDigit d = true := by
  intro d hd
  cases negative with
  | true => exact .inl (Option.some.inj hd).symm
  | false => exact .inr (Option.some.inj hd ▸ hc)

/-- The sign of a number can be told from its digits. -/
theorem signed_inj {negative negative' : Bool} {c c' : Char} (hc : Decimal.isDigit c = true)
    (hc' : Decimal.isDigit c' = true) {r r' : List Char}
    (h : (if negative then ['-'] else []) ++ c :: r =
      (if negative' then ['-'] else []) ++ c' :: r') :
    negative = negative' ∧ c :: r = c' :: r' := by
  cases negative <;> cases negative'
  · exact ⟨rfl, h⟩
  · exact absurd ((List.cons.inj h).1 ▸ hc) (by decide)
  · exact absurd ((List.cons.inj h).1 ▸ hc') (by decide)
  · exact ⟨rfl, (List.cons.inj h).2⟩

/-- What begins with a digit behind its sign spells a number or nothing. -/
theorem Spelling.number_inv {negative : Bool} {c : Char} (hc : Decimal.isDigit c = true)
    {r : List Char} {v : Scalar}
    (h : Spelling ((if negative then ['-'] else []) ++ c :: r) v) :
    ∃ n, NumberText negative (c :: r) n ∧ ofNumber? n = some v := by
  have hhead := head_signed negative hc r
  generalize hcs : (if negative then ['-'] else []) ++ c :: r = cs at h
  rw [hcs] at hhead
  cases h with
  | trueWord | falseWord | text _ => exact absurd (hhead _ rfl) (by decide)
  | @number negative' ds n hn v hv =>
    obtain ⟨d, ds, rfl, hd⟩ := hn.numeral.digit
    obtain ⟨rfl, hds⟩ := signed_inj hc hd hcs
    exact ⟨n, hds ▸ hn, hv⟩

theorem Lookalike.not_spelling {cs : List Char} (h : Lookalike cs) (v : Scalar) :
    ¬ Spelling cs v := by
  intro hv
  cases h with
  | @front c r hword hquote hminus hdigit =>
    generalize hcs : c :: r = cs at hv
    cases hv with
    | trueWord => exact hword.1 (List.cons.inj hcs).1
    | falseWord => exact hword.2 (List.cons.inj hcs).1
    | text _ => exact hquote (List.cons.inj hcs).1
    | @number negative ds n hn v hv =>
      obtain ⟨d, ds, rfl, hd⟩ := hn.numeral.digit
      rcases head_signed negative hd ds c (hcs ▸ rfl) with h | h
      · exact hminus h
      · exact Bool.eq_false_iff.mp hdigit h
  | @sign r hr =>
    generalize hcs : '-' :: r = cs at hv
    cases hv with
    | trueWord | falseWord | text _ => exact absurd (List.cons.inj hcs).1 (by decide)
    | @number negative ds n hn v hv =>
      obtain ⟨d, ds, rfl, hd⟩ := hn.numeral.digit
      cases negative with
      | true =>
        obtain rfl := (List.cons.inj hcs).2
        exact Bool.eq_false_iff.mp (hr d rfl) hd
      | false => exact absurd ((List.cons.inj hcs).1 ▸ hd) (by decide)
  | @zero negative d hd r =>
    obtain ⟨n, hn, -⟩ := hv.number_inv (by decide)
    have hread := hn.numeral.reads [] fun c hc => absurd hc (by simp)
    -- the run of digits has a zero in front and does not end behind it
    have hzero : Decimal.isDigit '0' = true := by decide
    have hrun : Decimal.digitRun ('0' :: d :: (r ++ [])) =
        ('0' :: d :: (Decimal.digitRun (r ++ [])).1, (Decimal.digitRun (r ++ [])).2) := by
      simp [Decimal.digitRun, hd, hzero]
    rw [List.cons_append, List.cons_append, magnitude, hrun] at hread
    cases hread
  | @outOfRange negative ds hds =>
    obtain ⟨c, ds, rfl, hc⟩ := hds.numeral.digit
    obtain ⟨n, hn, hv⟩ := hv.number_inv hc
    have hread := hn.numeral.reads [] fun c hc => absurd hc (by simp)
    rw [hds.numeral.reads [] fun c hc => absurd hc (by simp), Json.Piece.done.injEq] at hread
    rw [← hread.1] at hv
    cases hv
  | @quote r hr =>
    generalize hcs : '"' :: r = cs at hv
    cases hv with
    | trueWord | falseWord => exact absurd (List.cons.inj hcs).1 (by decide)
    | @text body cs h => exact hr body cs h (List.cons.inj hcs).2
    | @number negative ds n hn v hv =>
      obtain ⟨d, ds, rfl, hd⟩ := hn.numeral.digit
      exact absurd (head_signed negative hd ds '"' (hcs ▸ rfl)) (by decide)

end Scalar

end LedgerQuery
