import LedgerQuery.Proofs.Json.Records

/-!
# Values held in memory

A value that is held in memory has no object with a key twice and no float that is no number: such
a float is stored as `null`. It is read back as it is, and may be nested as deep as it is.

* `stored`: a value as it is held.
* `Distinct`: no object has a key twice.
* `Storable`, `StorableWithin`: a value can be held, with a bound on how deep it is nested.
* `render_stored`: a value is written as it is held.
* `value_toDraft`: a value without repeated keys is read back, if it may be nested so deep.
* `depth_le_of_value`: a value that is nested deeper is not.
* `storable_value`: what is read can be held.
* `parse_render`: so is the text of a value that can be held.
-/

namespace LedgerQuery.Json

mutual

/-- The value as it is held: `null` stands for a float that is no number. -/
def stored : Json → Json
  | .float x => if Decimal.isFinite x then .float x else .null
  | .list items => .list (storedItems items)
  | .object members => .object (storedMembers members)
  | j => j

/-- The items as they are held. -/
def storedItems : List Json → List Json
  | [] => []
  | j :: r => stored j :: storedItems r

/-- The members as they are held. -/
def storedMembers : List (String × Json) → List (String × Json)
  | [] => []
  | m :: r => (m.1, stored m.2) :: storedMembers r

end

mutual

/-- The number of containers inside each other. -/
def depth : Json → Nat
  | .list items => itemsDepth items + 1
  | .object members => membersDepth members + 1
  | _ => 0

/-- The greatest depth of an item. -/
def itemsDepth : List Json → Nat
  | [] => 0
  | j :: r => max (depth j) (itemsDepth r)

/-- The greatest depth of a member. -/
def membersDepth : List (String × Json) → Nat
  | [] => 0
  | m :: r => max (depth m.2) (membersDepth r)

end

mutual

/-- No object in the value has a key twice. -/
def Distinct : Json → Prop
  | .list items => AllDistinct items
  | .object members => (members.map Prod.fst).Nodup ∧ MembersDistinct members
  | _ => True

/-- No object in an item has a key twice. -/
def AllDistinct : List Json → Prop
  | [] => True
  | j :: r => j.Distinct ∧ AllDistinct r

/-- No object in a member has a key twice. -/
def MembersDistinct : List (String × Json) → Prop
  | [] => True
  | m :: r => m.2.Distinct ∧ MembersDistinct r

end

/-- The value can be held: numbers have 64 bits, floats are finite and no key occurs twice. -/
structure Storable (j : Json) : Prop where
  writable : j.Writable
  distinct : j.Distinct

theorem storable_null : Json.null.Storable := ⟨trivial, trivial⟩

theorem storable_bool (b : Bool) : (Json.bool b).Storable := ⟨trivial, trivial⟩

theorem storable_text (s : String) : (Json.text s).Storable := ⟨trivial, trivial⟩

theorem storable_int {n : Int} (hleast : minSigned ≤ n) (hgreatest : n ≤ maxUnsigned) :
    (Json.int n).Storable := ⟨⟨hleast, hgreatest⟩, trivial⟩

theorem storable_count {n : Nat} (h : (n : Int) ≤ maxUnsigned) : (Json.int n).Storable := by
  have hleast : minSigned ≤ 0 := by decide
  exact storable_int (Int.le_trans hleast (Int.natCast_nonneg n)) h

/-! ### Parts of a value -/

theorem distinct_list {items : List Json} (h : ∀ j ∈ items, j.Distinct) :
    (Json.list items).Distinct := by
  rw [Distinct]
  induction items with
  | nil => trivial
  | cons j r ih =>
    exact ⟨h j List.mem_cons_self, ih fun k hk => h k (List.mem_cons_of_mem j hk)⟩

theorem distinct_object {members : List (String × Json)} (hkeys : (members.map Prod.fst).Nodup)
    (h : ∀ m ∈ members, m.2.Distinct) : (Json.object members).Distinct := by
  rw [Distinct]
  refine ⟨hkeys, ?_⟩
  clear hkeys
  induction members with
  | nil => trivial
  | cons m r ih =>
    exact ⟨h m List.mem_cons_self, ih fun n hn => h n (List.mem_cons_of_mem m hn)⟩

theorem nodup_of_distinct {members : List (String × Json)} (h : (Json.object members).Distinct) :
    (members.map Prod.fst).Nodup := by
  rw [Distinct] at h
  exact h.1

theorem distinct_of_mem {members : List (String × Json)} (h : (Json.object members).Distinct)
    {m : String × Json} (hm : m ∈ members) : m.2.Distinct := by
  rw [Distinct] at h
  obtain ⟨-, h⟩ := h
  induction members with
  | nil => exact absurd hm List.not_mem_nil
  | cons n r ih =>
    rcases List.mem_cons.mp hm with rfl | hm
    · exact h.1
    · exact ih hm h.2

theorem storable_list {items : List Json} (h : ∀ j ∈ items, j.Storable) :
    (Json.list items).Storable :=
  ⟨writable_list fun j hj => (h j hj).writable, distinct_list fun j hj => (h j hj).distinct⟩

theorem storable_object {members : List (String × Json)} (hkeys : (members.map Prod.fst).Nodup)
    (h : ∀ m ∈ members, m.2.Storable) : (Json.object members).Storable :=
  ⟨writable_object fun m hm => (h m hm).writable,
    distinct_object hkeys fun m hm => (h m hm).distinct⟩

theorem depth_lt_of_mem_list {items : List Json} {j : Json} (h : j ∈ items) :
    j.depth < (Json.list items).depth := by
  rw [depth.eq_def (.list items)]
  induction items with
  | nil => exact absurd h List.not_mem_nil
  | cons k r ih =>
    show j.depth < max k.depth (itemsDepth r) + 1
    rcases List.mem_cons.mp h with rfl | h
    · omega
    · have hr : j.depth < itemsDepth r + 1 := ih h
      omega

theorem depth_lt_of_mem_object {members : List (String × Json)} {m : String × Json}
    (h : m ∈ members) : m.2.depth < (Json.object members).depth := by
  rw [depth.eq_def (.object members)]
  induction members with
  | nil => exact absurd h List.not_mem_nil
  | cons n r ih =>
    show m.2.depth < max n.2.depth (membersDepth r) + 1
    rcases List.mem_cons.mp h with rfl | h
    · omega
    · have hr : m.2.depth < membersDepth r + 1 := ih h
      omega

theorem depth_list_le {items : List Json} {n : Nat} (h : ∀ j ∈ items, j.depth ≤ n) :
    (Json.list items).depth ≤ n + 1 := by
  rw [depth.eq_def (.list items)]
  refine Nat.succ_le_succ ?_
  induction items with
  | nil => exact Nat.zero_le n
  | cons j r ih =>
    exact Nat.max_le.mpr
      ⟨h j List.mem_cons_self, ih fun k hk => h k (List.mem_cons_of_mem j hk)⟩

theorem depth_object_le {members : List (String × Json)} {n : Nat}
    (h : ∀ m ∈ members, m.2.depth ≤ n) : (Json.object members).depth ≤ n + 1 := by
  rw [depth.eq_def (.object members)]
  refine Nat.succ_le_succ ?_
  induction members with
  | nil => exact Nat.zero_le n
  | cons m r ih =>
    exact Nat.max_le.mpr
      ⟨h m List.mem_cons_self, ih fun k hk => h k (List.mem_cons_of_mem m hk)⟩

/-- The value can be held, and no more than so many containers are inside each other. -/
structure StorableWithin (n : Nat) (j : Json) : Prop where
  storable : j.Storable
  depth_le : j.depth ≤ n

theorem storableWithin_text (n : Nat) (s : String) : (Json.text s).StorableWithin n :=
  ⟨storable_text s, Nat.zero_le n⟩

theorem storableWithin_list {items : List Json} {n : Nat}
    (h : ∀ j ∈ items, j.StorableWithin n) : (Json.list items).StorableWithin (n + 1) :=
  ⟨storable_list fun j hj => (h j hj).storable, depth_list_le fun j hj => (h j hj).depth_le⟩

theorem storableWithin_object {members : List (String × Json)} {n : Nat}
    (hkeys : (members.map Prod.fst).Nodup) (h : ∀ m ∈ members, m.2.StorableWithin n) :
    (Json.object members).StorableWithin (n + 1) :=
  ⟨storable_object hkeys fun m hm => (h m hm).storable,
    depth_object_le fun m hm => (h m hm).depth_le⟩

/-- No key of a record is written twice, whichever parts are left out. -/
theorem distinct_written (fields : List Field) {parts : List (String × Option Json)}
    (hparts : parts.map Prod.fst = fields.map Field.name) (hnames : (fields.map Field.name).Nodup)
    (h : ∀ p ∈ parts, ∀ j ∈ p.2, j.Distinct) : (Json.object (Draft.written parts)).Distinct := by
  have hsublist : ∀ parts : List (String × Option Json),
      ((Draft.written parts).map Prod.fst).Sublist (parts.map Prod.fst) := by
    intro parts
    induction parts with
    | nil => exact List.Sublist.refl []
    | cons p parts ih =>
      obtain ⟨key, part⟩ := p
      cases part with
      | none => exact ih.cons key
      | some j => exact ih.cons_cons key
  refine distinct_object (List.Nodup.sublist (hsublist parts) (hparts ▸ hnames)) ?_
  intro m hm
  obtain ⟨p, hp, hpart⟩ := List.mem_filterMap.mp hm
  obtain ⟨j, hj, rfl⟩ := Option.map_eq_some_iff.mp hpart
  exact h p hp j hj

theorem storable_written (fields : List Field) {parts : List (String × Option Json)}
    (hparts : parts.map Prod.fst = fields.map Field.name) (hnames : (fields.map Field.name).Nodup)
    (h : ∀ p ∈ parts, ∀ j ∈ p.2, j.Storable) : (Json.object (Draft.written parts)).Storable :=
  ⟨Draft.writable_written fun p hp j hj => (h p hp j hj).writable,
    distinct_written fields hparts hnames fun p hp j hj => (h p hp j hj).distinct⟩

/-! ### Values as they are held -/

mutual

/-- A value without floats that are no numbers is held as it is. -/
theorem stored_of_writable {j : Json} (h : j.Writable) : j.stored = j := by
  match j with
  | .null | .bool _ | .int _ | .text _ => rfl
  | .float x =>
    rw [Writable] at h
    rw [stored, if_pos h]
  | .list items =>
    rw [Writable] at h
    rw [stored, storedItems_of_writable h]
  | .object members =>
    rw [Writable] at h
    rw [stored, storedMembers_of_writable h]

theorem storedItems_of_writable {items : List Json} (h : AllWritable items) :
    storedItems items = items := by
  match items with
  | [] => rfl
  | j :: r => rw [storedItems, stored_of_writable h.1, storedItems_of_writable h.2]

theorem storedMembers_of_writable {members : List (String × Json)} (h : MembersWritable members) :
    storedMembers members = members := by
  match members with
  | [] => rfl
  | m :: r => rw [storedMembers, stored_of_writable h.1, storedMembers_of_writable h.2]

end

theorem storedMembers_eq_map (members : List (String × Json)) :
    storedMembers members = members.map fun m => (m.1, m.2.stored) := by
  induction members with
  | nil => rfl
  | cons m r ih => rw [storedMembers, ih, List.map_cons]

theorem writable_stored {j : Json} (h : j.Writable) : j.stored.Writable := by
  rwa [stored_of_writable h]

/-- A float can be written as it is held, whether it is a number or none. -/
theorem writable_stored_float (x : Float) : (Json.float x).stored.Writable := by
  rw [stored]
  split
  · assumption
  · trivial

theorem writable_stored_object {members : List (String × Json)}
    (h : ∀ m ∈ members, m.2.stored.Writable) : (Json.object members).stored.Writable := by
  rw [stored, storedMembers_eq_map]
  refine writable_object ?_
  intro m hm
  obtain ⟨n, hn, rfl⟩ := List.mem_map.mp hm
  exact h n hn

mutual

/-- A value has the text of the value as it is held. -/
theorem chars_stored (j : Json) : chars j.stored = chars j := by
  match j with
  | .null | .bool _ | .int _ | .text _ => rfl
  | .float x =>
    rw [stored]
    split
    · rfl
    · next h => rw [chars, chars, floatChars, if_neg h]
  | .list items => rw [stored, chars, chars, itemChars_stored items]
  | .object members => rw [stored, chars, chars, memberChars_stored members]

theorem itemChars_stored (items : List Json) : itemChars (storedItems items) = itemChars items := by
  match items with
  | [] => rfl
  | [j] => rw [storedItems, storedItems, itemChars, itemChars, chars_stored j]
  | j :: k :: r =>
    have hrest := itemChars_stored (k :: r)
    rw [storedItems] at hrest
    rw [storedItems, storedItems, itemChars, chars_stored j, hrest, itemChars]

theorem memberChars_stored (members : List (String × Json)) :
    memberChars (storedMembers members) = memberChars members := by
  match members with
  | [] => rfl
  | [(key, j)] => rw [storedMembers, storedMembers, memberChars, memberChars, chars_stored j]
  | (key, j) :: m :: r =>
    have hrest := memberChars_stored (m :: r)
    rw [storedMembers] at hrest
    rw [storedMembers, storedMembers, memberChars, chars_stored j, hrest, memberChars]

end

theorem render_stored (j : Json) : j.stored.render = j.render := by
  rw [render, render, chars_stored]

mutual

/-- A value is read back if no key occurs twice and its containers may be opened. -/
theorem value_toDraft {j : Json} (h : j.Distinct) {room : Nat} (hroom : j.depth ≤ room) :
    j.toDraft.value room = .ok j := by
  match j with
  | .null | .bool _ | .int _ | .float _ | .text _ => rfl
  | .list items =>
    rw [Distinct] at h
    rw [depth] at hroom
    obtain ⟨room, rfl⟩ : ∃ r, room = r + 1 := ⟨room - 1, by omega⟩
    rw [toDraft, Draft.value, valueItems_toDrafts h (by omega)]
    rfl
  | .object members =>
    rw [Distinct] at h
    rw [depth] at hroom
    obtain ⟨room, rfl⟩ : ∃ r, room = r + 1 := ⟨room - 1, by omega⟩
    have hinner : membersDepth members ≤ room := by omega
    have hkeys : ((([] : List (String × Json)) ++ members).map Prod.fst).Nodup := h.1
    rw [toDraft, Draft.value, valueMembers_toMemberDrafts h.2 hkeys hinner]
    rfl

theorem valueItems_toDrafts {items : List Json} (h : AllDistinct items) {room : Nat}
    (hroom : itemsDepth items ≤ room) :
    Draft.valueItems room (toDrafts items) none = .ok items := by
  match items with
  | [] => rfl
  | j :: r =>
    rw [itemsDepth] at hroom
    rw [toDrafts, Draft.valueItems, value_toDraft h.1 (by omega)]
    dsimp only
    rw [valueItems_toDrafts h.2 (by omega)]
    rfl

/-- Members with new keys are put behind those that are there. -/
theorem valueMembers_toMemberDrafts {members seen : List (String × Json)}
    (h : MembersDistinct members) (hkeys : ((seen ++ members).map Prod.fst).Nodup) {room : Nat}
    (hroom : membersDepth members ≤ room) :
    Draft.valueMembers room (toMemberDrafts members) none seen = .ok (seen ++ members) := by
  match members with
  | [] =>
    rw [List.append_nil]
    rfl
  | m :: r =>
    rw [membersDepth] at hroom
    have hnew : m.1 ∉ seen.map Prod.fst := by
      intro hm
      rw [List.map_append, List.nodup_append] at hkeys
      exact hkeys.2.2 m.1 hm m.1 List.mem_cons_self rfl
    rw [List.append_cons] at hkeys ⊢
    rw [toMemberDrafts, Draft.valueMembers]
    dsimp only
    rw [value_toDraft h.1 (by omega)]
    dsimp only
    rw [insert_of_not_mem hnew, valueMembers_toMemberDrafts h.2 hkeys (by omega)]

end

mutual

/-- A value is read back only if its containers may be opened. -/
theorem depth_le_of_value {j k : Json} {room : Nat} (h : j.toDraft.value room = .ok k) :
    j.depth ≤ room := by
  match j with
  | .null | .bool _ | .int _ | .float _ | .text _ => exact Nat.zero_le room
  | .list items =>
    cases room with
    | zero => exact absurd h (by simp [toDraft, Draft.value])
    | succ room =>
      obtain ⟨ks, hks, -⟩ := exists_of_map_eq_ok h
      rw [depth]
      exact Nat.succ_le_succ (itemsDepth_le_of_valueItems hks)
  | .object members =>
    cases room with
    | zero => exact absurd h (by simp [toDraft, Draft.value])
    | succ room =>
      obtain ⟨ks, hks, -⟩ := exists_of_map_eq_ok h
      rw [depth]
      exact Nat.succ_le_succ (membersDepth_le_of_valueMembers hks)
termination_by structural j

theorem itemsDepth_le_of_valueItems {items ks : List Json} {room : Nat}
    (h : Draft.valueItems room (toDrafts items) none = .ok ks) : itemsDepth items ≤ room := by
  match items with
  | [] => exact Nat.zero_le room
  | j :: r =>
    rw [toDrafts, Draft.valueItems] at h
    split at h
    · exact absurd h (by simp)
    · next k hk =>
      obtain ⟨ks, hks, -⟩ := exists_of_map_eq_ok h
      rw [itemsDepth]
      exact Nat.max_le.mpr ⟨depth_le_of_value hk, itemsDepth_le_of_valueItems hks⟩
termination_by structural items

theorem membersDepth_le_of_valueMembers {members seen ks : List (String × Json)} {room : Nat}
    (h : Draft.valueMembers room (toMemberDrafts members) none seen = .ok ks) :
    membersDepth members ≤ room := by
  match members with
  | [] => exact Nat.zero_le room
  | m :: r =>
    rw [toMemberDrafts, Draft.valueMembers] at h
    dsimp only at h
    split at h
    · exact absurd h (by simp)
    · next k hk =>
      rw [membersDepth]
      exact Nat.max_le.mpr ⟨depth_le_of_value hk, membersDepth_le_of_valueMembers h⟩
termination_by structural members

end

mutual

/-- A value that is read has no key twice, and its containers could be opened. -/
theorem bounded_value {d : Draft} {room : Nat} {j : Json} (h : d.value room = .ok j) :
    j.Distinct ∧ j.depth ≤ room := by
  match d with
  | .null | .bool _ | .text (some _) | .number (.whole _) | .number (.float _) =>
    obtain rfl := Except.ok.inj h
    exact ⟨trivial, Nat.zero_le room⟩
  | .number .outOfRange | .text none | .broken _ => exact absurd h (by simp [Draft.value])
  | .list items ending =>
    cases room with
    | zero => exact absurd h (by simp [Draft.value])
    | succ room =>
      obtain ⟨js, hjs, rfl⟩ := exists_of_map_eq_ok h
      have hitems := bounded_valueItems hjs
      exact ⟨distinct_list fun j hj => (hitems j hj).1, depth_list_le fun j hj => (hitems j hj).2⟩
  | .object members ending =>
    cases room with
    | zero => exact absurd h (by simp [Draft.value])
    | succ room =>
      obtain ⟨ms, hms, rfl⟩ := exists_of_map_eq_ok h
      have hnone : (([] : List (String × Json)).map Prod.fst).Nodup := List.nodup_nil
      obtain ⟨hkeys, hmembers⟩ :=
        bounded_valueMembers hnone (fun m hm => absurd hm List.not_mem_nil) hms
      exact ⟨distinct_object hkeys fun m hm => (hmembers m hm).1,
        depth_object_le fun m hm => (hmembers m hm).2⟩

theorem bounded_valueItems {items : List Draft} {room : Nat} {ending : Option Break}
    {js : List Json} (h : Draft.valueItems room items ending = .ok js) :
    ∀ j ∈ js, j.Distinct ∧ j.depth ≤ room := by
  match items with
  | [] =>
    obtain rfl := eq_of_close h
    exact fun j hj => absurd hj List.not_mem_nil
  | d :: r =>
    rw [Draft.valueItems] at h
    split at h
    · exact absurd h (by simp)
    · next j hj =>
      obtain ⟨ks, hks, rfl⟩ := exists_of_map_eq_ok h
      intro k hk
      rcases List.mem_cons.mp hk with rfl | hk
      · exact bounded_value hj
      · exact bounded_valueItems hks k hk

theorem bounded_valueMembers {members : List (Option String × Draft)} {room : Nat}
    {ending : Option Break} {seen ms : List (String × Json)} (hkeys : (seen.map Prod.fst).Nodup)
    (hseen : ∀ m ∈ seen, m.2.Distinct ∧ m.2.depth ≤ room)
    (h : Draft.valueMembers room members ending seen = .ok ms) :
    (ms.map Prod.fst).Nodup ∧ ∀ m ∈ ms, m.2.Distinct ∧ m.2.depth ≤ room := by
  match members with
  | [] => exact eq_of_close h ▸ ⟨hkeys, hseen⟩
  | (key?, d) :: r =>
    rw [Draft.valueMembers] at h
    dsimp only at h
    cases key? with
    | none => exact absurd h (by simp)
    | some key =>
      dsimp only at h
      split at h
      · exact absurd h (by simp)
      · next j hj =>
        refine bounded_valueMembers (nodup_insert key j hkeys) (fun m hm => ?_) h
        rcases mem_insert hm with rfl | hm
        · exact bounded_value hj
        · exact hseen m hm

end

/-- A value that is read from numbers in range can be held. -/
theorem storable_value {d : Draft} (hd : d.InRange) {room : Nat} {j : Json}
    (h : d.value room = .ok j) : j.StorableWithin room :=
  ⟨⟨writable_value hd h, (bounded_value h).1⟩, (bounded_value h).2⟩

/-- The text of a value that can be held is read back. -/
theorem parse_render {j : Json} (h : j.Storable) (hdepth : j.depth ≤ maxDepth) :
    parse j.render = .ok j := by
  rw [parse, document_render h.writable, Document.finish]
  dsimp only
  rw [value_toDraft h.distinct hdepth]
  rfl

end LedgerQuery.Json
