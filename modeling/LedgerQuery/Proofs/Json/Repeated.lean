import Mathlib.Data.List.Induction
import LedgerQuery.Proofs.Json.Records

/-!
# Members given more than once

Members that are put into an object one after another leave one member for each key: it stands where
the key was first given and has the value that was given last.

* `collect`: what is left of the given members.
* `Latest`: what is to be left of them.
* `latest_iff`: this and nothing else is left.
* `collect_of_nodup`: where no key is given twice, all members are left as they are.
* `Draft.dictionary_collect`: an object is read as what is left of its members.
-/

namespace LedgerQuery.Json

variable {α : Type}

/-- What is left of members that are put into an empty object one after another. -/
def collect (given : List (String × α)) : List (String × α) :=
  given.foldl (fun ms m => insert m.1 m.2 ms) []

/-- Each key is left once, where it was first given, with the value that was given last. -/
structure Latest (given left : List (String × α)) : Prop where
  keys : left.map Prod.fst = (given.map Prod.fst).eraseDups
  value : ∀ key value, left.lookup key = some value ↔
    ∃ before behind, given = before ++ (key, value) :: behind ∧ key ∉ behind.map Prod.fst

theorem collect_concat (given : List (String × α)) (m : String × α) :
    collect (given ++ [m]) = insert m.1 m.2 (collect given) := by
  rw [collect, List.foldl_append]
  rfl

/-! ### Keys -/

/-- The keys are the distinct ones in the order in which they were first given. -/
theorem keys_collect (given : List (String × α)) :
    (collect given).map Prod.fst = (given.map Prod.fst).eraseDups := by
  -- from the end of the list, since the last member is the last to be put in
  induction given using List.reverseRecOn with
  | nil => rfl
  | append_singleton given m ih =>
    rw [collect_concat, insert_keys, ih, List.map_append, List.map_singleton,
      List.eraseDups_append, List.removeAll]
    by_cases h : m.1 ∈ given.map Prod.fst
    · rw [if_pos (List.mem_eraseDups.mpr h), List.filter_singleton]
      simp [h]
    · rw [if_neg (mt List.mem_eraseDups.mp h), List.filter_singleton]
      simp [h, List.eraseDups_cons]

theorem nodup_keys_collect (given : List (String × α)) :
    ((collect given).map Prod.fst).Nodup := by
  induction given using List.reverseRecOn with
  | nil => exact List.nodup_nil
  | append_singleton given m ih =>
    rw [collect_concat]
    exact nodup_insert m.1 m.2 ih

/-- No key is given twice, so none is put in place of another. -/
theorem collect_of_nodup {given : List (String × α)} (h : (given.map Prod.fst).Nodup) :
    collect given = given := by
  induction given using List.reverseRecOn with
  | nil => rfl
  | append_singleton given m ih =>
    rw [List.map_append, List.nodup_append] at h
    obtain ⟨hgiven, -, hdisjoint⟩ := h
    have hnew : m.1 ∉ given.map Prod.fst :=
      fun hm => hdisjoint m.1 hm m.1 List.mem_cons_self rfl
    rw [collect_concat, ih hgiven, insert_of_not_mem hnew]

/-! ### Values -/

theorem lookup_cons (m : String × α) (ms : List (String × α)) (key : String) :
    (m :: ms).lookup key = if key = m.1 then some m.2 else ms.lookup key := by
  rw [List.lookup_cons]
  by_cases h : key = m.1
  · simp [h]
  · simp [h, beq_false_of_ne h]

theorem lookup_of_not_mem {key : String} {ms : List (String × α)} (h : key ∉ ms.map Prod.fst) :
    ms.lookup key = none := by
  refine List.lookup_eq_none_iff.mpr fun m hm => bne_iff_ne.mpr ?_
  rintro rfl
  exact h (List.mem_map_of_mem hm)

theorem lookup_insert (key : String) (a : α) (ms : List (String × α)) (k : String) :
    (insert key a ms).lookup k = if k = key then some a else ms.lookup k := by
  induction ms with
  | nil => exact lookup_cons (key, a) [] k
  | cons m r ih =>
    rw [insert]
    split
    · next h =>
      -- the new member stands in place of the old one
      rw [lookup_cons, lookup_cons, h]
      by_cases hk : k = key <;> simp [hk]
    · next h =>
      rw [lookup_cons, lookup_cons, ih]
      by_cases hk : k = key
      · obtain rfl := hk
        simp [Ne.symm h]
      · simp [hk]

/-- The value of a key is the first one from the end. -/
theorem lookup_collect (given : List (String × α)) (key : String) :
    (collect given).lookup key = given.reverse.lookup key := by
  induction given using List.reverseRecOn with
  | nil => rfl
  | append_singleton given m ih =>
    rw [collect_concat, lookup_insert, ih, List.reverse_append]
    exact (lookup_cons m given.reverse key).symm

theorem lookup_collect_eq_some_iff (given : List (String × α)) (key : String) (value : α) :
    (collect given).lookup key = some value ↔
      ∃ before behind, given = before ++ (key, value) :: behind ∧ key ∉ behind.map Prod.fst := by
  rw [lookup_collect, List.lookup_eq_some_iff]
  constructor
  · rintro ⟨behind, before, hgiven, hkey⟩
    refine ⟨before.reverse, behind.reverse, ?_, ?_⟩
    · rw [← List.reverse_reverse given, hgiven]
      simp
    · intro hm
      obtain ⟨m, hm, heq⟩ := List.mem_map.mp hm
      exact bne_iff_ne.mp (hkey m (List.mem_reverse.mp hm)) heq.symm
  · rintro ⟨before, behind, rfl, hkey⟩
    refine ⟨behind.reverse, before.reverse, by simp, fun m hm => bne_iff_ne.mpr ?_⟩
    rintro rfl
    exact hkey (List.mem_map_of_mem (List.mem_reverse.mp hm))

/-! ### What is left -/

theorem latest_collect (given : List (String × α)) : Latest given (collect given) where
  keys := keys_collect given
  value := lookup_collect_eq_some_iff given

/-- Members with distinct keys are known by their keys in order and the values of these. -/
theorem eq_of_lookup {ms ns : List (String × α)} (hkeys : ms.map Prod.fst = ns.map Prod.fst)
    (hnodup : (ms.map Prod.fst).Nodup) (h : ∀ key, ms.lookup key = ns.lookup key) : ms = ns := by
  induction ms generalizing ns with
  | nil =>
    rw [List.map_nil, eq_comm, List.map_eq_nil_iff] at hkeys
    exact hkeys.symm
  | cons m ms ih =>
    cases ns with
    | nil => simp at hkeys
    | cons n ns =>
      obtain ⟨hkey, hkeys⟩ := List.cons.inj hkeys
      obtain ⟨hnew, hnodup⟩ := List.nodup_cons.mp hnodup
      have hvalue := h m.1
      rw [lookup_cons, lookup_cons, if_pos rfl, if_pos hkey, Option.some_inj] at hvalue
      rw [Prod.ext hkey hvalue, ih hkeys hnodup]
      intro key
      by_cases hk : key = m.1
      · rw [hk, lookup_of_not_mem hnew, lookup_of_not_mem (hkeys ▸ hnew)]
      · have hrest := h key
        rwa [lookup_cons, lookup_cons, if_neg hk, if_neg (hkey ▸ hk)] at hrest

/-- Each key once, where it was first given, with the value that was given last: this is left, and
nothing else. -/
theorem latest_iff {given left : List (String × α)} : Latest given left ↔ left = collect given := by
  constructor
  · intro h
    refine eq_of_lookup ?_ ?_ fun key => ?_
    · rw [h.keys, keys_collect]
    · rw [h.keys, ← keys_collect]
      exact nodup_keys_collect given
    · refine Option.ext fun value => ?_
      rw [h.value, lookup_collect_eq_some_iff]
  · rintro rfl
    exact latest_collect given

/-! ### Members that are read -/

/-- The members of an object are read and put in one after another. -/
theorem Draft.dictionary_collect {read : Draft → Except Fault α}
    {ds : List (Option String × Draft)} {given : List (String × α)}
    (h : List.Forall₂ (fun d m => d.1 = some m.1 ∧ read d.2 = .ok m.2) ds given) :
    (Draft.object ds none).dictionary read = .ok (collect given) := by
  have hmembers : ∀ seen, eachMember read none ds seen =
      .ok (given.foldl (fun ms m => insert m.1 m.2 ms) seen) := by
    induction h with
    | nil => exact fun seen => rfl
    | @cons d m ds given hm _ ih =>
      intro seen
      rw [eachMember, hm.1]
      dsimp only
      rw [hm.2, List.foldl_cons]
      exact ih _
  exact hmembers []

end LedgerQuery.Json
