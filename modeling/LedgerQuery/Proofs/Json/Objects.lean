import LedgerQuery.Proofs.Json.RoundTrip

/-!
# Objects of values given as texts

The text of an object is made of its keys and of the texts of its values. Whatever each of these
texts is read as by itself, the object is read as all of its members in order, a key that is given
more than once among them.

* `ReadsAs`: what a text is read as wherever a value can stand.
* `objectChars`: an object whose values are given as texts.
* `ReadsAs.object`: it is read as its members.
-/

namespace LedgerQuery.Json

/-- The characters are read as the draft, in front of any text with which no number goes on. -/
structure ReadsAs (cs : List Char) (d : Draft) : Prop where
  starts : Starts cs
  reads : ∀ {fuel : Nat}, 2 * cs.length ≤ fuel → ∀ {rest : List Char}, EndsNumber rest →
    readValue fuel (cs ++ rest) = (d, some rest)

theorem readsAs_chars {j : Json} (h : j.Writable) : ReadsAs (chars j) j.toDraft :=
  ⟨starts_chars h, fun hfuel _ hrest => readValue_chars h hfuel hrest⟩

/-- As a whole text, the characters are read to their end. -/
theorem ReadsAs.document {cs : List Char} {d : Draft} (h : ReadsAs cs d) :
    document (String.ofList cs) = ⟨d, false⟩ := by
  have hends : EndsNumber [] := fun c hc => absurd hc (by simp)
  have hread := h.reads (Nat.le_add_right _ 2) hends
  rw [List.append_nil] at hread
  rw [Json.document, String.toList_ofList, hread]
  rfl

/-- Members whose values are given as texts, with commas between them. -/
def membersChars : List (String × List Char) → List Char
  | [] => []
  | [(key, cs)] => textChars key ++ ':' :: cs
  | (key, cs) :: m :: r => textChars key ++ ':' :: cs ++ ',' :: membersChars (m :: r)

/-- An object whose values are given as texts. -/
def objectChars (ms : List (String × List Char)) : List Char :=
  '{' :: membersChars ms ++ ['}']

theorem membersChars_chars (ms : List (String × Json)) :
    membersChars (ms.map fun m => (m.1, chars m.2)) = memberChars ms := by
  induction ms with
  | nil => rfl
  | cons m ms ih =>
    cases ms with
    | nil => rfl
    | cons n ms =>
      rw [List.map_cons] at ih
      rw [List.map_cons, List.map_cons, membersChars, ih, memberChars]

/-- The object of the compact texts of its values is its compact text. -/
theorem objectChars_chars (ms : List (String × Json)) :
    objectChars (ms.map fun m => (m.1, chars m.2)) = chars (.object ms) := by
  rw [objectChars, membersChars_chars, chars]

/-- The member is read under its key as what its text is read as. -/
def MemberReadsAs (m : String × List Char) (d : Option String × Draft) : Prop :=
  d.1 = some m.1 ∧ ReadsAs m.2 d.2

theorem membersChars_quote (m : String × List Char) (r : List (String × List Char)) :
    ∃ cs, membersChars (m :: r) = '"' :: cs := by
  cases r with
  | nil => exact ⟨_, rfl⟩
  | cons n r => exact ⟨_, rfl⟩

/-- Compact texts are read as what they are written from. -/
theorem forall₂_memberReadsAs {ms : List (String × Json)} (h : MembersWritable ms) :
    List.Forall₂ MemberReadsAs (ms.map fun m => (m.1, chars m.2)) (toMemberDrafts ms) := by
  induction ms with
  | nil => exact .nil
  | cons m ms ih => exact .cons ⟨rfl, readsAs_chars h.1⟩ (ih h.2)

/-- The members are read up to the mark behind them. -/
theorem readMembers_membersChars {ms : List (String × List Char)}
    {ds : List (Option String × Draft)} (h : List.Forall₂ MemberReadsAs ms ds) (hne : ms ≠ [])
    {fuel : Nat} (hfuel : 2 * (membersChars ms).length + 1 ≤ fuel) (rest : List Char) :
    readMembers fuel (membersChars ms ++ '}' :: rest) = (ds, none, some rest) := by
  induction h generalizing fuel with
  | nil => exact absurd rfl hne
  | @cons m d ms ds hm hms ih =>
    obtain ⟨f, rfl⟩ : ∃ f, fuel = f + 1 := ⟨fuel - 1, by omega⟩
    obtain ⟨key, cs⟩ := m
    obtain ⟨key?, d⟩ := d
    obtain ⟨rfl, hcs⟩ := hm
    cases hms with
    | nil =>
      rw [membersChars, List.length_append, List.length_cons] at hfuel
      have hlength : 2 * cs.length ≤ f := by omega
      have hread := hcs.reads hlength (endsNumber_mark (c := '}') rest (by decide) (by decide))
      rw [membersChars, List.append_assoc, List.cons_append, readMembers_key hread]
      rfl
    | @cons n e ms ds hn hms =>
      rw [membersChars, List.length_append, List.length_append, List.length_cons,
        List.length_cons] at hfuel
      have hlength : 2 * cs.length ≤ f := by omega
      have hbehind : 2 * (membersChars (n :: ms)).length + 1 ≤ f := by omega
      have hread := hcs.reads hlength
        (endsNumber_mark (c := ',') (membersChars (n :: ms) ++ '}' :: rest) (by decide) (by decide))
      have hrest := ih (List.cons_ne_nil n ms) hbehind
      have hcomma : skipSpaces (',' :: (membersChars (n :: ms) ++ '}' :: rest)) =
        ',' :: (membersChars (n :: ms) ++ '}' :: rest) := rfl
      rw [membersChars, List.append_assoc, List.append_assoc, List.cons_append, List.cons_append,
        readMembers_key hread, hcomma]
      simp only [hrest]

/-- An object is read as its members, in order. -/
theorem ReadsAs.object {ms : List (String × List Char)} {ds : List (Option String × Draft)}
    (h : List.Forall₂ MemberReadsAs ms ds) : ReadsAs (objectChars ms) (.object ds none) := by
  refine ⟨⟨'{', _, rfl, by decide, by decide⟩, fun {fuel} hfuel {rest} _ => ?_⟩
  obtain ⟨f, rfl⟩ : ∃ f, fuel = f + 1 := by
    rw [objectChars, List.cons_append, List.length_cons] at hfuel
    exact ⟨fuel - 1, by omega⟩
  cases h with
  | nil => rfl
  | @cons m d ms ds hm hms =>
    have hlength : 2 * (membersChars (m :: ms)).length + 1 ≤ f := by
      rw [objectChars, List.cons_append, List.length_cons, List.length_append] at hfuel
      omega
    have hmembers := readMembers_membersChars (.cons hm hms) (List.cons_ne_nil m ms) hlength rest
    obtain ⟨cs, hquote⟩ := membersChars_quote m ms
    rw [hquote, List.cons_append] at hmembers
    rw [objectChars, hquote, List.append_assoc, List.cons_append, List.cons_append,
      List.singleton_append, readValue_brace, hmembers]

end LedgerQuery.Json
