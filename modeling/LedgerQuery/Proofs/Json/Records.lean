import LedgerQuery.Json.Record
import LedgerQuery.Proofs.Json.Range

/-!
# Records, lists and objects read back

A record is written as an object without its missing parts. Read back part by part, it goes through
the same states as if the missing parts had been passed over; a list gives back its items and an
object its members, in order.

* `record_written`: a record is read part by part.
* `elements_toDraft`, `dictionary_toDraft`: lists and objects whose values are read back.
* `exists_step_of_eachField`, `exists_read_of_eachMember`, `exists_read_of_eachItem`: nothing is read
  unless its members or items are.
* `option_invariant`, `record_invariant`, `dictionary_invariant`, `elements_invariant`: what holds of
  all that is read from numbers in range.
-/

namespace LedgerQuery.Json

/-! ### Members -/

theorem insert_of_not_mem {α : Type} {key : String} {ms : List (String × α)}
    (h : key ∉ ms.map Prod.fst) (a : α) : insert key a ms = ms ++ [(key, a)] := by
  induction ms with
  | nil => rfl
  | cons m r ih =>
    rw [List.map_cons, List.mem_cons, not_or] at h
    rw [insert, if_neg (fun e => h.1 e.symm), ih h.2, List.cons_append]

theorem mem_insert {α : Type} {key : String} {a : α} {ms : List (String × α)} {m : String × α}
    (h : m ∈ insert key a ms) : m = (key, a) ∨ m ∈ ms := by
  induction ms with
  | nil => exact .inl (List.mem_singleton.mp h)
  | cons n r ih =>
    rw [insert] at h
    split at h
    · rcases List.mem_cons.mp h with h | h
      · exact .inl h
      · exact .inr (List.mem_cons_of_mem n h)
    · rcases List.mem_cons.mp h with rfl | h
      · exact .inr List.mem_cons_self
      · exact (ih h).imp_right (List.mem_cons_of_mem n)

theorem nodup_insert {α : Type} (key : String) (a : α) {ms : List (String × α)}
    (h : (ms.map Prod.fst).Nodup) : ((insert key a ms).map Prod.fst).Nodup := by
  rw [insert_keys]
  split
  · exact h
  · next hkey =>
    rw [List.nodup_append]
    refine ⟨h, List.nodup_singleton key, fun b hb c hc => ?_⟩
    obtain rfl := List.mem_singleton.mp hc
    exact ne_of_mem_of_not_mem hb hkey

theorem toDrafts_eq_map (items : List Json) : toDrafts items = items.map toDraft := by
  induction items with
  | nil => rfl
  | cons j r ih => rw [toDrafts, ih, List.map_cons]

theorem toMemberDrafts_eq_map (members : List (String × Json)) :
    toMemberDrafts members = members.map fun m => (some m.1, m.2.toDraft) := by
  induction members with
  | nil => rfl
  | cons m r ih => rw [toMemberDrafts, ih, List.map_cons]

namespace Draft

/-! ### Read back -/

/-- The items of a list are read back. -/
theorem elements_toDraft {α β : Type} {read : Draft → Except Fault β} {f : α → Json} {g : α → β}
    {as : List α} (h : ∀ a ∈ as, read (f a).toDraft = .ok (g a)) :
    (Json.list (as.map f)).toDraft.elements read = .ok (as.map g) := by
  rw [toDraft, elements]
  induction as with
  | nil => rfl
  | cons a as ih =>
    rw [List.map_cons, toDrafts, eachItem, h a List.mem_cons_self]
    dsimp only
    rw [ih fun b hb => h b (List.mem_cons_of_mem a hb)]
    rfl

/-- The members of an object are read back, if no key occurs twice. -/
theorem dictionary_toDraft {α : Type} {read : Draft → Except Fault α} {f : α → Json}
    {ms : List (String × α)} (h : ∀ m ∈ ms, read (f m.2).toDraft = .ok m.2)
    (hkeys : (ms.map Prod.fst).Nodup) :
    (Json.object (ms.map fun m => (m.1, f m.2))).toDraft.dictionary read = .ok ms := by
  have hmembers : ∀ (ms seen : List (String × α)), (∀ m ∈ ms, read (f m.2).toDraft = .ok m.2) →
      ((seen ++ ms).map Prod.fst).Nodup →
      eachMember read none (toMemberDrafts (ms.map fun m => (m.1, f m.2))) seen =
        .ok (seen ++ ms) := by
    intro ms
    induction ms with
    | nil =>
      intro seen _ _
      rw [List.append_nil]
      rfl
    | cons m ms ih =>
      intro seen h hkeys
      have hnew : m.1 ∉ seen.map Prod.fst := by
        rw [List.map_append, List.nodup_append] at hkeys
        exact fun hm => hkeys.2.2 m.1 hm m.1 List.mem_cons_self rfl
      rw [List.map_cons, toMemberDrafts, eachMember]
      dsimp only
      rw [h m List.mem_cons_self]
      dsimp only
      rw [insert_of_not_mem hnew, ih _ fun n hn => h n (List.mem_cons_of_mem m hn)]
      · simp
      · simpa using hkeys
  exact hmembers ms [] h hkeys

/-- A value that may be `null` has what every value has. -/
theorem option_invariant {α : Type} {P : α → Prop} {read : Draft → Except Fault α}
    (hread : ∀ {d a}, d.InRange → read d = .ok a → P a) {d : Draft} (hd : d.InRange)
    {o : Option α} (h : d.option read = .ok o) : ∀ a ∈ o, P a := by
  have hsome : (read d).map some = .ok o → ∀ a ∈ o, P a := by
    intro h a ha
    obtain ⟨b, hb, rfl⟩ := exists_of_map_eq_ok h
    obtain rfl := Option.mem_some.mp ha
    exact hread hd hb
  cases d with
  | null =>
    obtain rfl := Except.ok.inj h
    exact fun a ha => absurd ha (Option.not_mem_none a)
  | _ => exact hsome h

/-! ### Records -/

section Record

variable {σ : Type} {fields : List Field} {step : σ → String → Draft → Except Fault σ}

/-- The members of a record whose missing parts are left out. -/
def written (parts : List (String × Option Json)) : List (String × Json) :=
  parts.filterMap fun p => p.2.map fun j => (p.1, j)

theorem writable_written {parts : List (String × Option Json)}
    (h : ∀ p ∈ parts, ∀ j ∈ p.2, j.Writable) : (Json.object (written parts)).Writable := by
  refine writable_object fun m hm => ?_
  obtain ⟨p, hp, hpart⟩ := List.mem_filterMap.mp hm
  obtain ⟨j, hj, rfl⟩ := Option.map_eq_some_iff.mp hpart
  exact h p hp j hj

/-- One part of a record; a missing one leaves everything as it is. -/
def readPart (step : σ → String → Draft → Except Fault σ) (state : σ) (p : String × Option Json) :
    Except Fault σ :=
  match p.2 with
  | none => .ok state
  | some j => step state p.1 j.toDraft

theorem eachField_written {parts : List (String × Option Json)}
    (hknown : ∀ p ∈ parts, fields.any (·.name == p.1) = true)
    (hkeys : (parts.map Prod.fst).Nodup) {seen : List String}
    (hseen : ∀ p ∈ parts, p.1 ∉ seen) (state : σ) :
    eachField fields step none (toMemberDrafts (written parts)) seen state =
      parts.foldlM (readPart step) state := by
  induction parts generalizing seen state with
  | nil => rfl
  | cons p parts ih =>
    obtain ⟨key, part⟩ := p
    have hknown' := fun q hq => hknown q (List.mem_cons_of_mem _ hq)
    have hseen' := fun q hq => hseen q (List.mem_cons_of_mem _ hq)
    rw [List.map_cons, List.nodup_cons] at hkeys
    cases part with
    | none => exact ih hknown' hkeys.2 hseen' state
    | some j =>
      have hkey := hknown (key, some j) List.mem_cons_self
      have hnew := hseen (key, some j) List.mem_cons_self
      have hwritten : written ((key, some j) :: parts) = (key, j) :: written parts := rfl
      rw [hwritten, toMemberDrafts, eachField, List.foldlM_cons]
      dsimp only at hkey hnew ⊢
      rw [if_pos hkey, if_neg hnew, readPart]
      dsimp only
      cases hstep : step state key j.toDraft with
      | error e => rfl
      | ok state' =>
        refine ih hknown' hkeys.2 (fun q hq => ?_) state'
        rw [List.mem_cons, not_or]
        refine ⟨fun e => hkeys.1 ?_, hseen' q hq⟩
        dsimp only
        rw [← e]
        exact List.mem_map_of_mem hq

/-- A written record is read part by part, whatever is missing. -/
theorem record_written (source : Source) {parts : List (String × Option Json)}
    (hparts : parts.map Prod.fst = fields.map Field.name) (hnames : (fields.map Field.name).Nodup)
    (start : σ) :
    (Json.object (written parts)).toDraft.record source fields step start =
      parts.foldlM (readPart step) start := by
  refine eachField_written (fun p hp => ?_) (hparts ▸ hnames) (fun _ _ => List.not_mem_nil) start
  have hname : p.1 ∈ fields.map Field.name := hparts ▸ List.mem_map_of_mem hp
  obtain ⟨f, hf, heq⟩ := List.mem_map.mp hname
  exact List.any_eq_true.mpr ⟨f, hf, beq_iff_eq.mpr heq⟩

variable {P : σ → Prop}

/-- A member in front of others is a known one and read, or it is skipped. -/
theorem eachField_cons_cases {m : Option String × Draft} {members : List (Option String × Draft)}
    {ending : Option Break} {seen : List String} {state result : σ}
    (h : eachField fields step ending (m :: members) seen state = .ok result) :
    ∃ key, m.1 = some key ∧
      ((∃ after, step state key m.2 = .ok after ∧
          eachField fields step ending members (key :: seen) after = .ok result) ∨
        fields.any (·.name == key) = false ∧
          eachField fields step ending members seen state = .ok result) := by
  obtain ⟨key?, d⟩ := m
  rw [eachField] at h
  dsimp only at h
  cases key? with
  | none => exact absurd h (by simp)
  | some key =>
    refine ⟨key, rfl, ?_⟩
    dsimp only at h
    split at h
    · split at h
      · exact absurd h (by simp)
      · split at h
        · exact absurd h (by simp)
        · next after hread => exact .inl ⟨after, hread, h⟩
    · next hunknown =>
      split at h
      · exact absurd h (by simp)
      · exact .inr ⟨Bool.eq_false_iff.mpr hunknown, h⟩

/-- What the members of an object keep holds of the record that is read. -/
theorem eachField_invariant {members : List (Option String × Draft)}
    (hstep : ∀ {state name d state'}, (some name, d) ∈ members → P state →
      step state name d = .ok state' → P state')
    {ending : Option Break} {seen : List String} {state result : σ} (hstate : P state)
    (h : eachField fields step ending members seen state = .ok result) : P result := by
  induction members generalizing seen state with
  | nil => exact eq_of_close h ▸ hstate
  | cons m members ih =>
    obtain ⟨key?, d⟩ := m
    have ih := @ih fun hm => hstep (List.mem_cons_of_mem _ hm)
    obtain ⟨key, hkey, ⟨after, hread, hrest⟩ | ⟨-, hrest⟩⟩ := eachField_cons_cases h
    · obtain rfl : key? = some key := hkey
      exact ih (hstep List.mem_cons_self hstate hread) hrest
    · exact ih hstate hrest

/-- Of an object that is read as a record, each known member is read. -/
theorem exists_step_of_eachField {members : List (Option String × Draft)} {ending : Option Break}
    {seen : List String} {state result : σ}
    (h : eachField fields step ending members seen state = .ok result) {key : String} {d : Draft}
    (hm : (some key, d) ∈ members) (hknown : fields.any (·.name == key) = true) :
    ∃ before after, step before key d = .ok after := by
  induction members generalizing seen state with
  | nil => exact absurd hm List.not_mem_nil
  | cons m members ih =>
    obtain ⟨key', hkey, hcases⟩ := eachField_cons_cases h
    rcases List.mem_cons.mp hm with rfl | hm
    · obtain rfl := Option.some.inj hkey
      rcases hcases with ⟨after, hread, -⟩ | ⟨hunknown, -⟩
      · exact ⟨state, after, hread⟩
      · exact absurd hknown (Bool.eq_false_iff.mp hunknown)
    · rcases hcases with ⟨after, -, h⟩ | ⟨-, h⟩ <;> exact ih h hm

theorem eachPosition_invariant
    (hstep : ∀ {state name d state'}, d.InRange → P state → step state name d = .ok state' →
      P state')
    {source : Source} {items : List Draft} (hitems : DraftsInRange items)
    {ending : Option Break} {state result : σ} (hstate : P state)
    (h : eachPosition source step ending fields items state = .ok result) : P result := by
  induction fields generalizing items state with
  | nil =>
    cases items with
    | nil => exact eq_of_close h ▸ hstate
    | cons d r => exact absurd h (by simp [eachPosition])
  | cons f fs ih =>
    cases items with
    | nil =>
      rw [eachPosition] at h
      split at h
      · exact absurd h (by simp)
      · split at h
        · exact Except.ok.inj h ▸ hstate
        · exact absurd h (by simp)
    | cons d r =>
      rw [eachPosition] at h
      split at h
      · exact absurd h (by simp)
      · next state' hread => exact ih hitems.2 (hstep hitems.1 hstate hread) h

/-- What every field keeps holds of the record that is read. -/
theorem record_invariant
    (hstep : ∀ {state name d state'}, d.InRange → P state → step state name d = .ok state' →
      P state')
    {source : Source} {start result : σ} {d : Draft} (hd : d.InRange) (hstart : P start)
    (h : d.record source fields step start = .ok result) : P result := by
  cases d with
  | object members ending =>
    exact eachField_invariant (fun hm => hstep (inRange_of_mem hd hm)) hstart h
  | list items ending => exact eachPosition_invariant hstep hd hstart h
  | _ => exact absurd h (by simp [record])

end Record

section Dictionary

variable {α : Type} {read : Draft → Except Fault α}

/-- A member in front of others is read. -/
theorem eachMember_cons_cases {m : Option String × Draft} {members : List (Option String × Draft)}
    {ending : Option Break} {seen ms : List (String × α)}
    (h : eachMember read ending (m :: members) seen = .ok ms) :
    ∃ key a, m.1 = some key ∧ read m.2 = .ok a ∧
      eachMember read ending members (insert key a seen) = .ok ms := by
  obtain ⟨key?, d⟩ := m
  rw [eachMember] at h
  dsimp only at h
  cases key? with
  | none => exact absurd h (by simp)
  | some key =>
    dsimp only at h
    split at h
    · exact absurd h (by simp)
    · next a hread => exact ⟨key, a, rfl, hread, h⟩

/-- Of an object that is read as a dictionary, each member is read. -/
theorem exists_read_of_eachMember {members : List (Option String × Draft)} {ending : Option Break}
    {seen ms : List (String × α)} (h : eachMember read ending members seen = .ok ms)
    {m : Option String × Draft} (hm : m ∈ members) : ∃ a, read m.2 = .ok a := by
  induction members generalizing seen with
  | nil => exact absurd hm List.not_mem_nil
  | cons n members ih =>
    obtain ⟨key, a, -, hread, h⟩ := eachMember_cons_cases h
    rcases List.mem_cons.mp hm with rfl | hm
    · exact ⟨a, hread⟩
    · exact ih h hm

/-- Of a list whose items are all of one kind, each item is read. -/
theorem exists_read_of_eachItem {items : List Draft} {ending : Option Break} {as : List α}
    (h : eachItem read ending items = .ok as) {d : Draft} (hd : d ∈ items) :
    ∃ a, read d = .ok a := by
  induction items generalizing as with
  | nil => exact absurd hd List.not_mem_nil
  | cons e items ih =>
    rw [eachItem] at h
    split at h
    · exact absurd h (by simp)
    · next a hread =>
      obtain ⟨bs, hbs, -⟩ := exists_of_map_eq_ok h
      rcases List.mem_cons.mp hd with rfl | hd
      · exact ⟨a, hread⟩
      · exact ih hbs hd

variable {P : α → Prop} (hread : ∀ {d a}, d.InRange → read d = .ok a → P a)
include hread

theorem eachMember_invariant {members : List (Option String × Draft)}
    (hmembers : MembersInRange members) {ending : Option Break} {seen ms : List (String × α)}
    (hkeys : (seen.map Prod.fst).Nodup) (hseen : ∀ m ∈ seen, P m.2)
    (h : eachMember read ending members seen = .ok ms) :
    (ms.map Prod.fst).Nodup ∧ ∀ m ∈ ms, P m.2 := by
  induction members generalizing seen with
  | nil => exact eq_of_close h ▸ ⟨hkeys, hseen⟩
  | cons m members ih =>
    obtain ⟨hd, hmembers⟩ := hmembers
    obtain ⟨key, a, -, hread', h⟩ := eachMember_cons_cases h
    refine ih hmembers (nodup_insert key a hkeys) (fun m hm => ?_) h
    rcases mem_insert hm with rfl | hm
    · exact hread hd hread'
    · exact hseen m hm

/-- What every value has is had by the values of an object, whose keys are distinct. -/
theorem dictionary_invariant {d : Draft} (hd : d.InRange) {ms : List (String × α)}
    (h : d.dictionary read = .ok ms) : (ms.map Prod.fst).Nodup ∧ ∀ m ∈ ms, P m.2 := by
  cases d with
  | object members ending =>
    have hkeys : (([] : List (String × α)).map Prod.fst).Nodup := List.nodup_nil
    exact eachMember_invariant hread hd hkeys (fun m hm => absurd hm List.not_mem_nil) h
  | _ => exact absurd h (by simp [dictionary])

/-- What every item has is had by the items of a list. -/
theorem elements_invariant {d : Draft} (hd : d.InRange) {as : List α}
    (h : d.elements read = .ok as) : ∀ a ∈ as, P a := by
  have hitems : ∀ {items : List Draft} {ending : Option Break} {as : List α},
      DraftsInRange items → eachItem read ending items = .ok as → ∀ a ∈ as, P a := by
    intro items
    induction items with
    | nil =>
      intro ending as _ h
      obtain rfl := eq_of_close h
      exact fun a ha => absurd ha List.not_mem_nil
    | cons e items ih =>
      intro ending as hin h
      rw [eachItem] at h
      split at h
      · exact absurd h (by simp)
      · next a hread' =>
        obtain ⟨bs, hbs, rfl⟩ := exists_of_map_eq_ok h
        intro b hb
        rcases List.mem_cons.mp hb with rfl | hb
        · exact hread hin.1 hread'
        · exact ih hin.2 hbs b hb
  cases d with
  | list items ending => exact hitems hd h
  | _ => exact absurd h (by simp [elements])

end Dictionary

end Draft

end LedgerQuery.Json
