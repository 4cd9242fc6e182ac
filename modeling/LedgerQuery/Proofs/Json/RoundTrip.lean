import LedgerQuery.Proofs.Json.Numbers
import LedgerQuery.Proofs.Json.Strings

/-!
# Values read back

The compact text of a value is read as the value, with its members in order and its numbers of the
same kind, provided that the whole numbers in it have 64 bits and that its floats are finite.

* `Writable`: the values that texts can hold.
* `readValue_chars`: such a value is read at the front of a text.
* `document_render`: the text of such a value is read to its end.
-/

namespace LedgerQuery.Json

mutual

/-- Whole numbers have 64 bits and floats are finite, throughout the value. -/
def Writable : Json → Prop
  | .int n => minSigned ≤ n ∧ n ≤ maxUnsigned
  | .float x => Decimal.isFinite x = true
  | .list items => AllWritable items
  | .object members => MembersWritable members
  | _ => True

/-- All items are writable. -/
def AllWritable : List Json → Prop
  | [] => True
  | j :: r => j.Writable ∧ AllWritable r

/-- The values of all members are writable. -/
def MembersWritable : List (String × Json) → Prop
  | [] => True
  | m :: r => m.2.Writable ∧ MembersWritable r

end

theorem writable_list {items : List Json} (h : ∀ j ∈ items, j.Writable) :
    (Json.list items).Writable := by
  rw [Writable]
  induction items with
  | nil => trivial
  | cons j r ih =>
    exact ⟨h j List.mem_cons_self, ih fun k hk => h k (List.mem_cons_of_mem j hk)⟩

theorem writable_object {members : List (String × Json)} (h : ∀ m ∈ members, m.2.Writable) :
    (Json.object members).Writable := by
  rw [Writable]
  induction members with
  | nil => trivial
  | cons m r ih =>
    exact ⟨h m List.mem_cons_self, ih fun n hn => h n (List.mem_cons_of_mem m hn)⟩

/-! ### The first character -/

/-- What stands at the front of a value: no blank and no mark that closes a list. -/
def Starts (cs : List Char) : Prop :=
  ∃ c r, cs = c :: r ∧ isSpace c = false ∧ c ≠ ']'

theorem Starts.append {cs : List Char} (h : Starts cs) (ds : List Char) : Starts (cs ++ ds) := by
  obtain ⟨c, r, rfl, hspace, hclose⟩ := h
  exact ⟨c, r ++ ds, rfl, hspace, hclose⟩

theorem Starts.skipSpaces {cs : List Char} (h : Starts cs) : skipSpaces cs = cs := by
  obtain ⟨c, r, rfl, hspace, -⟩ := h
  simp [Json.skipSpaces, hspace]

theorem Starts.length_pos {cs : List Char} (h : Starts cs) : 0 < cs.length := by
  obtain ⟨c, r, rfl, -⟩ := h
  exact Nat.succ_pos _

/-- A sign and a digit can both stand at the front. -/
theorem Signed.starts {cs : List Char} {n : Number} (h : Signed cs n) : Starts cs := by
  obtain ⟨negative, ds, rfl, hnumeral⟩ := h
  obtain ⟨c, r, rfl, hc⟩ := hnumeral.digit
  cases negative with
  | true => exact ⟨'-', c :: r, rfl, by decide, by decide⟩
  | false =>
    refine ⟨c, r, rfl, isSpace_of_isDigit hc, ?_⟩
    rintro rfl
    exact absurd hc (by decide)

theorem starts_chars {j : Json} (h : j.Writable) : Starts (chars j) := by
  cases j with
  | null => exact ⟨'n', _, rfl, by decide, by decide⟩
  | bool b => cases b <;> exact ⟨_, _, rfl, by decide, by decide⟩
  | int n => exact (signed_intChars h).starts
  | float x => exact (signed_floatChars h).starts
  | text s => exact ⟨'"', _, rfl, by decide, by decide⟩
  | list items => exact ⟨'[', _, rfl, by decide, by decide⟩
  | object members => exact ⟨'{', _, rfl, by decide, by decide⟩

theorem starts_itemChars {j : Json} (h : j.Writable) (r : List Json) :
    Starts (itemChars (j :: r)) := by
  cases r with
  | nil => exact starts_chars h
  | cons k r => exact (starts_chars h).append _

/-- A member begins with the quote of its key. -/
theorem memberChars_quote (m : String × Json) (r : List (String × Json)) :
    ∃ cs, memberChars (m :: r) = '"' :: cs := by
  cases r with
  | nil => exact ⟨_, rfl⟩
  | cons n r => exact ⟨_, rfl⟩

theorem endsNumber_mark {c : Char} (r : List Char) (hdigit : Decimal.isDigit c = false)
    (hmark : c ≠ '.' ∧ c ≠ 'e' ∧ c ≠ 'E') : EndsNumber (c :: r) := by
  intro d hd
  obtain rfl := Option.some.inj hd
  exact ⟨hdigit, hmark⟩

/-! ### Values -/

/-- The steps that a value takes grow with its text. -/
theorem exists_succ {cs : List Char} (h : Starts cs) {fuel : Nat} (hfuel : 2 * cs.length ≤ fuel) :
    ∃ f, fuel = f + 1 :=
  ⟨fuel - 1, by have := h.length_pos; omega⟩

/-- Behind an opening bracket, items are read unless the list is empty. -/
theorem readValue_bracket {r : List Char} (h : Starts r) (fuel : Nat) :
    readValue (fuel + 1) ('[' :: r) =
      (.list (readItems fuel r).1 (readItems fuel r).2.1, (readItems fuel r).2.2) := by
  have hskip := h.skipSpaces
  obtain ⟨c, r, rfl, -, hclose⟩ := h
  have hopen : skipSpaces ('[' :: c :: r) = '[' :: c :: r := rfl
  simp only [readValue, hopen, hskip]
  split
  · next h => exact absurd h (List.cons_ne_nil c r)
  · next h => exact absurd (List.cons.inj h).1 hclose
  · rfl

/-- Behind an opening brace, members are read unless the object is empty. -/
theorem readValue_brace (fuel : Nat) (r : List Char) :
    readValue (fuel + 1) ('{' :: '"' :: r) =
      (.object (readMembers fuel ('"' :: r)).1 (readMembers fuel ('"' :: r)).2.1,
        (readMembers fuel ('"' :: r)).2.2) := rfl

/-- A written key and its value are one member. -/
theorem readMembers_key {fuel : Nat} {key : String} {d : Draft} {cs r : List Char}
    (h : readValue fuel cs = (d, some r)) :
    readMembers (fuel + 1) (textChars key ++ ':' :: cs) = (match skipSpaces r with
      | ',' :: r => ((some key, d) :: (readMembers fuel r).1, (readMembers fuel r).2.1,
          (readMembers fuel r).2.2)
      | '}' :: r => ([(some key, d)], none, some r)
      | [] => ([(some key, d)], some .atEnd, none)
      | _ => ([(some key, d)], some .malformed, none)) := by
  have hchars : textChars key ++ ':' :: cs =
      '"' :: (key.toList.flatMap escapeChar ++ '"' :: ':' :: cs) := by simp [textChars]
  have hquote : ∀ r, skipSpaces ('"' :: r) = '"' :: r := fun r => rfl
  have hcolon : skipSpaces (':' :: cs) = ':' :: cs := rfl
  rw [hchars]
  simp only [readMembers, hquote, stringPiece_flatMap, hcolon]
  generalize readValue fuel cs = read at h
  subst h
  rfl

mutual

/-- A value is read at the front of a text. -/
theorem readValue_chars {j : Json} (h : j.Writable) {fuel : Nat}
    (hfuel : 2 * (chars j).length ≤ fuel) {rest : List Char} (hrest : EndsNumber rest) :
    readValue fuel (chars j ++ rest) = (j.toDraft, some rest) := by
  obtain ⟨f, rfl⟩ := exists_succ (starts_chars h) hfuel
  match j with
  | .null => rfl
  | .bool true => rfl
  | .bool false => rfl
  | .int n => exact (signed_intChars h).readValue hrest f
  | .float x => exact (signed_floatChars h).readValue hrest f
  | .text s => exact readValue_textChars f s rest
  | .list [] => rfl
  | .list (i :: items) =>
    rw [Writable] at h
    have hstarts := (starts_itemChars h.1 items).append (']' :: rest)
    have hlength : 2 * (itemChars (i :: items)).length + 1 ≤ f := by
      rw [chars, List.cons_append, List.length_cons, List.length_append] at hfuel
      omega
    have hitems := readItems_chars h (List.cons_ne_nil i items) hlength rest
    rw [chars, List.append_assoc, List.cons_append, List.singleton_append, readValue_bracket hstarts,
      hitems, toDraft]
  | .object [] => rfl
  | .object (m :: members) =>
    rw [Writable] at h
    have hlength : 2 * (memberChars (m :: members)).length + 1 ≤ f := by
      rw [chars, List.cons_append, List.length_cons, List.length_append] at hfuel
      omega
    have hmembers := readMembers_chars h (List.cons_ne_nil m members) hlength rest
    obtain ⟨cs, hquote⟩ := memberChars_quote m members
    rw [hquote, List.cons_append] at hmembers
    rw [chars, hquote, List.append_assoc, List.cons_append, List.cons_append, List.singleton_append,
      readValue_brace, hmembers, toDraft]

/-- The items of a list are read up to the mark behind them. -/
theorem readItems_chars {items : List Json} (h : AllWritable items) (hne : items ≠ []) {fuel : Nat}
    (hfuel : 2 * (itemChars items).length + 1 ≤ fuel) (rest : List Char) :
    readItems fuel (itemChars items ++ ']' :: rest) = (toDrafts items, none, some rest) := by
  obtain ⟨f, rfl⟩ : ∃ f, fuel = f + 1 := ⟨fuel - 1, by omega⟩
  match items with
  | [j] =>
    rw [AllWritable] at h
    have hlength : 2 * (chars j).length ≤ f := by
      rw [itemChars] at hfuel
      omega
    have hread := readValue_chars h.1 hlength
      (endsNumber_mark (c := ']') rest (by decide) (by decide))
    rw [itemChars, readItems, hread]
    rfl
  | j :: k :: r =>
    rw [AllWritable] at h
    rw [itemChars, List.length_append, List.length_cons] at hfuel
    have hfirst : 2 * (chars j).length ≤ f := by omega
    have hbehind : 2 * (itemChars (k :: r)).length + 1 ≤ f := by omega
    have hread := readValue_chars h.1 hfirst
      (endsNumber_mark (c := ',') (itemChars (k :: r) ++ ']' :: rest) (by decide) (by decide))
    have hrest := readItems_chars h.2 (List.cons_ne_nil k r) hbehind rest
    have hcomma : skipSpaces (',' :: (itemChars (k :: r) ++ ']' :: rest)) =
      ',' :: (itemChars (k :: r) ++ ']' :: rest) := rfl
    rw [itemChars, List.append_assoc, List.cons_append]
    simp only [readItems, hread, hcomma, hrest, toDrafts]

/-- The members of an object are read up to the mark behind them. -/
theorem readMembers_chars {members : List (String × Json)} (h : MembersWritable members)
    (hne : members ≠ []) {fuel : Nat} (hfuel : 2 * (memberChars members).length + 1 ≤ fuel)
    (rest : List Char) :
    readMembers fuel (memberChars members ++ '}' :: rest) =
      (toMemberDrafts members, none, some rest) := by
  obtain ⟨f, rfl⟩ : ∃ f, fuel = f + 1 := ⟨fuel - 1, by omega⟩
  match members with
  | [(key, j)] =>
    rw [MembersWritable] at h
    rw [memberChars, List.length_append, List.length_cons] at hfuel
    have hlength : 2 * (chars j).length ≤ f := by omega
    have hread := readValue_chars h.1 hlength
      (endsNumber_mark (c := '}') rest (by decide) (by decide))
    rw [memberChars, List.append_assoc, List.cons_append, readMembers_key hread]
    rfl
  | (key, j) :: m :: r =>
    rw [MembersWritable] at h
    rw [memberChars, List.length_append, List.length_append, List.length_cons,
      List.length_cons] at hfuel
    have hfirst : 2 * (chars j).length ≤ f := by omega
    have hbehind : 2 * (memberChars (m :: r)).length + 1 ≤ f := by omega
    have hread := readValue_chars h.1 hfirst
      (endsNumber_mark (c := ',') (memberChars (m :: r) ++ '}' :: rest) (by decide) (by decide))
    have hrest := readMembers_chars h.2 (List.cons_ne_nil m r) hbehind rest
    have hcomma : skipSpaces (',' :: (memberChars (m :: r) ++ '}' :: rest)) =
      ',' :: (memberChars (m :: r) ++ '}' :: rest) := rfl
    rw [memberChars, List.append_assoc, List.append_assoc, List.cons_append, List.cons_append,
      readMembers_key hread, hcomma]
    simp only [hrest, toMemberDrafts]

end

/-- The text of a value is read to its end. -/
theorem document_render {j : Json} (h : j.Writable) : document j.render = ⟨j.toDraft, false⟩ := by
  have hends : EndsNumber [] := fun c hc => absurd hc (by simp)
  have hread := readValue_chars h (Nat.le_add_right _ 2) hends
  rw [List.append_nil] at hread
  rw [document, render, String.toList_ofList, hread]
  rfl

end LedgerQuery.Json
