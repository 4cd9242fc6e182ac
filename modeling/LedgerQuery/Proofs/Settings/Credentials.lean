import LedgerQuery.Settings.Basic

/-!
# Credentials, key by key

There are credentials exactly if every key has a value, and a key has one exactly if its setting can
be expanded and is not blank then. A setting that refers to nothing is its own expansion.

* `Expansion.expand_of_references_nil`: a text that refers to no variable stands for itself.
* `Settings.credential_eq_some_iff`: when a key has a value.
* `Settings.credentials_eq_ok_iff`, `Settings.credentials_eq_error_iff`: when there are credentials.
-/

namespace LedgerQuery

/-! ### References -/

namespace Expansion

/-- The names that a text refers to. -/
def references (s : String) : List String :=
  (segments s.toList).filterMap Segment.name?

/-- Segments without a name stand for the characters they are written with. -/
theorem values_of_no_name (env : Environment) (ss : List Segment)
    (h : ∀ s ∈ ss, s.name? = none) :
    values env ss = .ok (String.ofList (ss.flatMap Segment.source)) := by
  induction ss with
  | nil => rfl
  | cons s r ih =>
    have hr : values env r = .ok (String.ofList (r.flatMap Segment.source)) := by
      apply ih
      intro t ht
      exact h t (by simp [ht])
    have hs : s.name? = none := h s (by simp)
    cases s with
    | literal c => simp [values, value, hr, Except.map, Segment.source]
    | braced | bare => simp [Segment.name?] at hs

/-- A text that refers to no variable stands for itself. -/
theorem expand_of_references_nil (env : Environment) {s : String} (h : references s = []) :
    expand env s = .ok s := by
  have hnone : ∀ t ∈ segments s.toList, t.name? = none := by
    simpa [references, List.filterMap_eq_nil_iff] using h
  rw [expand, values_of_no_name env _ hnone, source_segments, String.ofList_toList]

theorem segments_cons_of_ne {c : Char} (h : c ≠ '$') (r : List Char) :
    segments (c :: r) = .literal c :: segments r := by
  rw [segments.eq_def]
  simp [h]

/-- Without a dollar sign there is no reference. -/
theorem segments_of_no_dollar {cs : List Char} (h : '$' ∉ cs) :
    segments cs = cs.map .literal := by
  induction cs with
  | nil => simp [segments]
  | cons c r ih =>
    have hc : c ≠ '$' := fun hc => h (by simp [hc])
    have hr : '$' ∉ r := fun hr => h (by simp [hr])
    rw [segments_cons_of_ne hc, ih hr]
    rfl

theorem references_of_no_dollar {s : String} (h : '$' ∉ s.toList) : references s = [] := by
  rw [references, segments_of_no_dollar h, List.filterMap_eq_nil_iff]
  intro t ht
  obtain ⟨c, -, rfl⟩ := List.mem_map.mp ht
  rfl

end Expansion

/-! ### Credentials, key by key -/

namespace Driver.Credentials

/-- The value of a key. -/
def get (c : Credentials) : CredentialKey → String
  | .account => c.account
  | .user => c.user
  | .password => c.password
  | .warehouse => c.warehouse
  | .database => c.database
  | .schema => c.schema

/-- The credentials with the given values. -/
def ofValues (value : CredentialKey → String) : Credentials :=
  ⟨value .account, value .user, value .password, value .warehouse, value .database, value .schema⟩

@[simp] theorem get_ofValues (value : CredentialKey → String) (key : CredentialKey) :
    (ofValues value).get key = value key := by
  cases key <;> rfl

end Driver.Credentials

theorem CredentialKey.mem_all (key : CredentialKey) : key ∈ all := by
  cases key <;> decide

namespace Settings

variable {s : Settings} {env : Environment}

theorem missingCredentials_eq_nil_iff :
    s.missingCredentials env = [] ↔ ∀ key, (s.credential env key).isSome := by
  simp only [missingCredentials, List.filter_eq_nil_iff, Option.isNone_iff_eq_none,
    ← Option.isSome_iff_ne_none]
  constructor
  · intro h key
    exact h key key.mem_all
  · intro h key _
    exact h key

/-- Credentials are had exactly if every key has a value, and are these values. -/
theorem credentials_eq_ok_iff {c : Driver.Credentials} :
    s.credentials env = .ok c ↔ ∀ key, s.credential env key = some (c.get key) := by
  unfold credentials
  constructor
  · intro h
    split at h
    · next ha hu hp hw hd hs =>
      cases h
      rintro (_ | _) <;> assumption
    · cases h
  · intro h
    rw [h .account, h .user, h .password, h .warehouse, h .database, h .schema]
    rfl

/-- The setting of a key is the value from outside, if there is one that is not blank. -/
theorem withOverrides_get (s : Settings) (lookup : String → Option String) (key : CredentialKey) :
    (s.withOverrides lookup).warehouse.get key =
      (override lookup key.name <|> s.warehouse.get key) := by
  cases key <;> rfl

/-- There are no credentials exactly if some key has no value, and then all such keys are told. -/
theorem credentials_eq_error_iff {keys : List CredentialKey} :
    s.credentials env = .error keys ↔ keys ≠ [] ∧ keys = s.missingCredentials env := by
  by_cases h : ∀ key, (s.credential env key).isSome
  · have hok : s.credentials env = .ok (.ofValues fun key => (s.credential env key).get (h key)) :=
      credentials_eq_ok_iff.mpr fun key => by simp
    have hnil : s.missingCredentials env = [] := missingCredentials_eq_nil_iff.mpr h
    simp [hok, hnil]
  · have hne : s.missingCredentials env ≠ [] := fun hn => h (missingCredentials_eq_nil_iff.mp hn)
    have herror : s.credentials env = .error (s.missingCredentials env) := by
      cases hc : s.credentials env with
      | ok c =>
        refine absurd (fun key => ?_) h
        rw [credentials_eq_ok_iff.mp hc key]
        rfl
      | error keys =>
        unfold credentials at hc
        split at hc
        · cases hc
        · rw [hc]
    rw [herror, Except.error.injEq]
    constructor
    · rintro rfl
      exact ⟨hne, rfl⟩
    · rintro ⟨-, rfl⟩
      rfl

/-- Credentials are missing exactly if some key has no value. -/
theorem exists_credentials_error_iff :
    (∃ keys, s.credentials env = .error keys) ↔ ∃ key, s.credential env key = none := by
  constructor
  · rintro ⟨keys, herror⟩
    obtain ⟨hne, hkeys⟩ := credentials_eq_error_iff.mp herror
    obtain ⟨key, hmem⟩ := List.exists_mem_of_ne_nil keys hne
    rw [hkeys, missingCredentials, List.mem_filter, Option.isNone_iff_eq_none] at hmem
    exact ⟨key, hmem.2⟩
  · rintro ⟨key, hnone⟩
    cases hc : s.credentials env with
    | error keys => exact ⟨keys, rfl⟩
    | ok c =>
      rw [credentials_eq_ok_iff.mp hc key] at hnone
      cases hnone

/-- A key has a value exactly if its setting can be expanded and is not blank then. -/
theorem credential_eq_some_iff {key : CredentialKey} {v : String} :
    s.credential env key = some v ↔
      ∃ text, s.warehouse.get key = some text ∧ Expansion.expand env text = .ok v ∧
        Text.isBlankText v = false := by
  have hok : ∀ r : Except Expansion.Missing String, r.toOption = some v ↔ r = .ok v := by
    intro r
    cases r <;> simp [Except.toOption]
  simp only [credential, Option.filter_eq_some_iff, Option.bind_eq_some_iff, hok,
    Bool.not_eq_true']
  constructor
  · rintro ⟨⟨text, ht, he⟩, hb⟩
    exact ⟨text, ht, he, hb⟩
  · rintro ⟨text, ht, he, hb⟩
    exact ⟨⟨text, ht, he⟩, hb⟩

end Settings

end LedgerQuery
