import LedgerQuery.Proofs.Json.RoundTrip

/-!
# The numbers of a text

Whatever a text says, its whole numbers have 64 bits and its floats are finite: a number of another
size is out of range. So a value that was read can be written.

* `Number.ofDecimal_inRange`, `Number.ofDigits_inRange`: the numbers written by digits.
* `Draft.InRange`: a draft whose numbers are in range.
* `inRange_document`: the draft of any text is one.
* `writable_value`: the value of such a draft can be written.
-/

namespace LedgerQuery.Json

/-! ### Numbers -/

/-- The number has 64 bits if it is whole and is finite if it is a float. -/
def Number.InRange : Number → Prop
  | .whole n => minSigned ≤ n ∧ n ≤ maxUnsigned
  | .float x => Decimal.isFinite x = true
  | .outOfRange => True

theorem Number.ofDecimal_inRange (negative : Bool) (whole fraction : List Char) (e : Int) :
    (Number.ofDecimal negative whole fraction e).InRange := by
  rw [Number.ofDecimal]
  split
  · trivial
  · next h =>
    have hle := Decimal.decimalBits_le (Decimal.digitsValue (whole ++ fraction))
      (e - fraction.length)
    exact Decimal.isFinite_signed negative (Nat.lt_of_le_of_ne hle h)

theorem Number.ofDigits_inRange (negative : Bool) (whole : List Char) :
    (Number.ofDigits negative whole).InRange := by
  rw [Number.ofDigits]
  split
  · split
    · next h => exact ⟨h.2, by rw [maxUnsigned]; omega⟩
    · exact Number.ofDecimal_inRange _ _ _ _
  · split
    · next h => exact ⟨by rw [minSigned]; omega, h⟩
    · exact Number.ofDecimal_inRange _ _ _ _

/-- The number of a piece is in range, if the piece does not break off. -/
def NumberPiece : Piece Number → Prop
  | .done n _ => n.InRange
  | .broken _ => True

theorem numberPiece_exponentPart (negative : Bool) (whole fraction rest : List Char) :
    NumberPiece (exponentPart negative whole fraction rest) := by
  have hnone : ∀ r, NumberPiece (.done (if fraction.isEmpty then Number.ofDigits negative whole
      else Number.ofDecimal negative whole fraction 0) r) := by
    intro r
    show Number.InRange _
    split
    · exact Number.ofDigits_inRange _ _
    · exact Number.ofDecimal_inRange _ _ _ _
  cases rest with
  | nil => exact hnone []
  | cons c r =>
    rw [exponentPart]
    split
    · dsimp only
      split
      · trivial
      · exact Number.ofDecimal_inRange _ _ _ _
    · exact hnone (c :: r)

theorem numberPiece_fractionPart (negative : Bool) (whole rest : List Char) :
    NumberPiece (fractionPart negative whole rest) := by
  unfold fractionPart
  split
  · dsimp only
    split
    · trivial
    · exact numberPiece_exponentPart _ _ _ _
  · exact numberPiece_exponentPart _ _ _ _

theorem numberPiece_magnitude (negative : Bool) (cs : List Char) :
    NumberPiece (magnitude negative cs) := by
  unfold magnitude
  dsimp only
  split
  · trivial
  · trivial
  · exact numberPiece_fractionPart _ _ _

/-! ### Drafts -/

mutual

/-- All numbers of the draft are in range. -/
def Draft.InRange : Draft → Prop
  | .number n => n.InRange
  | .list items _ => DraftsInRange items
  | .object members _ => MembersInRange members
  | _ => True

/-- All numbers of the items are in range. -/
def DraftsInRange : List Draft → Prop
  | [] => True
  | d :: r => d.InRange ∧ DraftsInRange r

/-- All numbers of the members are in range. -/
def MembersInRange : List (Option String × Draft) → Prop
  | [] => True
  | m :: r => m.2.InRange ∧ MembersInRange r

end

theorem inRange_of_mem {members : List (Option String × Draft)} (h : MembersInRange members)
    {m : Option String × Draft} (hm : m ∈ members) : m.2.InRange := by
  induction members with
  | nil => exact absurd hm List.not_mem_nil
  | cons n members ih =>
    rcases List.mem_cons.mp hm with rfl | hm
    · exact h.1
    · exact ih h.2 hm

theorem inRange_draft_magnitude (negative : Bool) (cs : List Char) :
    ((magnitude negative cs).draft .number).1.InRange := by
  have h := numberPiece_magnitude negative cs
  cases hpiece : magnitude negative cs with
  | done n r =>
    rw [hpiece] at h
    exact h
  | broken b => trivial

theorem inRange_draft_text (p : Piece (Option String)) : (p.draft .text).1.InRange := by
  cases p <;> trivial

theorem inRange_word (value : Draft) (h : value.InRange) (letters cs : List Char) :
    (word letters value cs).1.InRange := by
  fun_induction word letters value cs with
  | case1 => exact h
  | case2 => trivial
  | case3 _ _ _ ih => exact ih
  | case4 => trivial

/-- However far it is read, a text yields numbers in range. -/
theorem inRange_read (fuel : Nat) :
    (∀ cs, (readValue fuel cs).1.InRange) ∧ (∀ cs, DraftsInRange (readItems fuel cs).1) ∧
      ∀ cs, MembersInRange (readMembers fuel cs).1 := by
  induction fuel with
  | zero => exact ⟨fun cs => trivial, fun cs => trivial, fun cs => trivial⟩
  | succ fuel ih =>
    obtain ⟨hvalue, hitems, hmembers⟩ := ih
    refine ⟨fun cs => ?_, fun cs => ?_, fun cs => ?_⟩
    · rw [readValue]
      split
      · trivial
      · exact inRange_word .null trivial _ _
      · exact inRange_word (.bool true) trivial _ _
      · exact inRange_word (.bool false) trivial _ _
      · exact inRange_draft_text _
      · split
        · trivial
        · trivial
        · exact hitems _
      · split
        · trivial
        · exact hmembers _
      · exact inRange_draft_magnitude _ _
      · split
        · exact inRange_draft_magnitude _ _
        · trivial
    · have hfirst := hvalue cs
      rw [readItems]
      split
      · next d hread => exact ⟨by rwa [hread] at hfirst, trivial⟩
      · next d r hread =>
        have hfirst : d.InRange := by rwa [hread] at hfirst
        split
        · exact ⟨hfirst, hitems _⟩
        · exact ⟨hfirst, trivial⟩
        · exact ⟨hfirst, trivial⟩
        · exact ⟨hfirst, trivial⟩
    · rw [readMembers]
      split
      · trivial
      · split
        · trivial
        · split
          · exact ⟨trivial, trivial⟩
          · next key r hkey _ r' hskip =>
            have hfirst := hvalue r'
            split
            · next d hread => exact ⟨by rwa [hread] at hfirst, trivial⟩
            · next d r hread =>
              have hfirst : d.InRange := by rwa [hread] at hfirst
              split
              · exact ⟨hfirst, hmembers _⟩
              · exact ⟨hfirst, trivial⟩
              · exact ⟨hfirst, trivial⟩
              · exact ⟨hfirst, trivial⟩
          · exact ⟨trivial, trivial⟩
      · trivial

/-- The draft of any text has its numbers in range. -/
theorem inRange_document (s : String) : (document s).draft.InRange := by
  have h := (inRange_read (2 * s.toList.length + 2)).1 s.toList
  rw [document]
  split
  · next hread => rwa [hread] at h
  · next hread => rwa [hread] at h

/-! ### Values -/

theorem membersWritable_insert {key : String} {j : Json} (hj : j.Writable)
    {ms : List (String × Json)} (hms : MembersWritable ms) :
    MembersWritable (insert key j ms) := by
  induction ms with
  | nil => exact ⟨hj, trivial⟩
  | cons m r ih =>
    obtain ⟨hm, hr⟩ := hms
    rw [insert]
    split
    · exact ⟨hj, hr⟩
    · exact ⟨hm, ih hr⟩

theorem exists_of_map_eq_ok {α β : Type} {f : α → β} {x : Except Fault α} {b : β}
    (h : x.map f = .ok b) : ∃ a, x = .ok a ∧ f a = b := by
  cases x with
  | error e => exact absurd h (by simp [Except.map])
  | ok a => exact ⟨a, rfl, Except.ok.inj h⟩

theorem exists_of_bind_eq_ok {α β : Type} {f : α → Except Fault β} {x : Except Fault α} {b : β}
    (h : x >>= f = .ok b) : ∃ a, x = .ok a ∧ f a = .ok b := by
  cases x with
  | error e => exact absurd h (by simp [bind, Except.bind])
  | ok a => exact ⟨a, rfl, h⟩

theorem eq_ok_of_toOption {α : Type} {x : Except Fault α} {a : α} (h : x.toOption = some a) :
    x = .ok a := by
  cases x with
  | error e => exact absurd h (by simp [Except.toOption])
  | ok b => exact congrArg Except.ok (Option.some.inj h)

theorem eq_of_close {α : Type} {ending : Option Break} {a b : α}
    (h : (Draft.close ending).map (fun _ => a) = .ok b) : a = b := by
  cases ending with
  | none => exact Except.ok.inj h
  | some e => exact absurd h (by simp [Draft.close, Except.map])

mutual

/-- The value of a draft can be written. -/
theorem writable_value {d : Draft} (hd : d.InRange) {room : Nat} {j : Json}
    (h : d.value room = .ok j) : j.Writable := by
  match d with
  | .null | .bool _ | .text (some _) =>
    obtain rfl := Except.ok.inj h
    trivial
  | .number (.whole n) =>
    obtain rfl := Except.ok.inj h
    exact hd
  | .number (.float x) =>
    obtain rfl := Except.ok.inj h
    exact hd
  | .number .outOfRange | .text none | .broken _ => exact absurd h (by simp [Draft.value])
  | .list items ending =>
    cases room with
    | zero => exact absurd h (by simp [Draft.value])
    | succ room =>
      obtain ⟨js, hjs, rfl⟩ := exists_of_map_eq_ok h
      exact writable_valueItems hd hjs
  | .object members ending =>
    cases room with
    | zero => exact absurd h (by simp [Draft.value])
    | succ room =>
      obtain ⟨ms, hms, rfl⟩ := exists_of_map_eq_ok h
      exact writable_valueMembers hd (show MembersWritable [] from trivial) hms

theorem writable_valueItems {items : List Draft} (hitems : DraftsInRange items) {room : Nat}
    {ending : Option Break} {js : List Json} (h : Draft.valueItems room items ending = .ok js) :
    AllWritable js := by
  match items with
  | [] =>
    obtain rfl := eq_of_close h
    trivial
  | d :: r =>
    obtain ⟨hd, hr⟩ := hitems
    rw [Draft.valueItems] at h
    split at h
    · exact absurd h (by simp)
    · next j hj =>
      obtain ⟨ks, hks, rfl⟩ := exists_of_map_eq_ok h
      exact ⟨writable_value hd hj, writable_valueItems hr hks⟩

theorem writable_valueMembers {members : List (Option String × Draft)}
    (hmembers : MembersInRange members) {room : Nat} {ending : Option Break}
    {seen ms : List (String × Json)} (hseen : MembersWritable seen)
    (h : Draft.valueMembers room members ending seen = .ok ms) : MembersWritable ms := by
  match members with
  | [] => exact eq_of_close h ▸ hseen
  | (key?, d) :: r =>
    obtain ⟨hd, hr⟩ := hmembers
    rw [Draft.valueMembers] at h
    dsimp only at h hd
    cases key? with
    | none => exact absurd h (by simp)
    | some key =>
      dsimp only at h
      split at h
      · exact absurd h (by simp)
      · next j hj =>
        exact writable_valueMembers hr (membersWritable_insert (writable_value hd hj) hseen) h

end

/-- What is read from a text is read from its draft. -/
theorem Document.read_of_finish {α : Type} {doc : Document} {read : Draft → Except Fault α} {a : α}
    (h : doc.finish read = .ok a) : read doc.draft = .ok a := by
  unfold Document.finish at h
  split at h
  · exact absurd h (by simp)
  · next b hread =>
    split at h
    · exact absurd h (by simp)
    · rwa [← Except.ok.inj h]

end LedgerQuery.Json
