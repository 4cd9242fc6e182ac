import LedgerQuery.Proofs.Settings.Expansion

/-!
# Credentials with values from outside

A value from outside takes the place of a setting unless it is blank. What counts is the setting
that is effective then: it has to be there, to refer to variables that are set only, and not to be
blank once these are replaced. All keys for which one of this fails are told at once, in their fixed
order.

* `Settings.effective`: the setting that counts.
* `Settings.Lacking`: why a setting gives no value.
* `Settings.credential_eq_none_iff`: a key has no value exactly for one of these reasons.
* `Settings.credentials_withOverrides`: what is told, and what the credentials are.
-/

namespace LedgerQuery.Settings

/-- The setting of a key: the value from outside if there is one that is not blank, and else the
setting as it was. -/
def effective (s : Settings) (lookup : String → Option String) (key : CredentialKey) :
    Option String :=
  match lookup key.name with
  | some v => if Text.isBlankText v then s.warehouse.get key else some v
  | none => s.warehouse.get key

/-- A setting gives no value: there is none, it refers to a variable that is not set, or it is blank
with its variables replaced. -/
inductive Lacking (env : Environment) : Option String → Prop where
  | absent : Lacking env none
  | unset {text n : String} :
    n ∈ Expansion.references text → env.get? n = none → Lacking env (some text)
  | blank {text v : String} :
    Expansion.expand env text = .ok v → Text.isBlankText v = true → Lacking env (some text)

variable {s : Settings} {env : Environment}

theorem withOverrides_get_eq_effective (s : Settings) (lookup : String → Option String)
    (key : CredentialKey) :
    (s.withOverrides lookup).warehouse.get key = s.effective lookup key := by
  rw [withOverrides_get, override, effective]
  cases lookup key.name with
  | none => rfl
  | some v => cases hb : Text.isBlankText v <;> simp [Option.filter, hb]

theorem lacking_some_iff {text : String} :
    Lacking env (some text) ↔ ∀ v, Expansion.expand env text = .ok v → Text.isBlankText v = true := by
  constructor
  · intro h v hv
    cases h with
    | unset hn hunset =>
      have hset := Expansion.exists_expand_iff.mp ⟨v, hv⟩ _ hn
      rw [hunset] at hset
      cases hset
    | blank hw hb =>
      rw [hv] at hw
      cases hw
      exact hb
  · intro h
    cases hv : Expansion.expand env text with
    | ok v => exact .blank hv (h v hv)
    | error e =>
      obtain ⟨before, after, hnames, -, hunset⟩ := Expansion.expand_eq_error_iff.mp hv
      exact .unset (by simp [hnames]) hunset

/-- A key has no value exactly if its setting gives none. -/
theorem credential_eq_none_iff {key : CredentialKey} :
    s.credential env key = none ↔ Lacking env (s.warehouse.get key) := by
  rw [Option.eq_none_iff_forall_ne_some]
  simp only [ne_eq, credential_eq_some_iff]
  cases hget : s.warehouse.get key with
  | none => simp [Lacking.absent]
  | some text =>
    rw [lacking_some_iff]
    simp

/-- With values from outside, the keys that are told to be missing are, in their fixed order and
each once, exactly those whose effective setting gives no value. If there are none, then there are
credentials, and each key has its own effective setting with the variables replaced, and nothing
else done to it. -/
theorem credentials_withOverrides (s : Settings) (lookup : String → Option String)
    (env : Environment) :
    ∃ keys : List CredentialKey,
      keys.Sublist [.account, .user, .password, .warehouse, .database, .schema] ∧ keys.Nodup ∧
      (keys.map CredentialKey.name).Sublist ["SNOWFLAKE_ACCOUNT", "SNOWFLAKE_USER",
        "SNOWFLAKE_PASSWORD", "SNOWFLAKE_WAREHOUSE", "SNOWFLAKE_DATABASE", "SNOWFLAKE_SCHEMA"] ∧
      (∀ key, key ∈ keys ↔ Lacking env (s.effective lookup key)) ∧
      (keys ≠ [] → (s.withOverrides lookup).credentials env = .error keys) ∧
      (keys = [] → ∃ c, (s.withOverrides lookup).credentials env = .ok c ∧
        ∀ key, ∃ text, s.effective lookup key = some text ∧
          Expansion.expand env text = .ok (c.get key)) := by
  have hsublist : ((s.withOverrides lookup).missingCredentials env).Sublist CredentialKey.all :=
    List.filter_sublist
  have hmem : ∀ key, key ∈ (s.withOverrides lookup).missingCredentials env ↔
      Lacking env (s.effective lookup key) := by
    intro key
    rw [missingCredentials, List.mem_filter, Option.isNone_iff_eq_none, credential_eq_none_iff,
      withOverrides_get_eq_effective]
    exact and_iff_right key.mem_all
  refine ⟨(s.withOverrides lookup).missingCredentials env, hsublist,
    hsublist.nodup (by decide), hsublist.map CredentialKey.name, hmem, ?_, ?_⟩
  · intro hne
    exact credentials_eq_error_iff.mpr ⟨hne, rfl⟩
  · intro hnil
    cases hc : (s.withOverrides lookup).credentials env with
    | error keys =>
      obtain ⟨hne, rfl⟩ := credentials_eq_error_iff.mp hc
      exact absurd hnil hne
    | ok c =>
      refine ⟨c, rfl, fun key => ?_⟩
      obtain ⟨text, hget, hexpand, -⟩ :=
        credential_eq_some_iff.mp (credentials_eq_ok_iff.mp hc key)
      rw [withOverrides_get_eq_effective] at hget
      exact ⟨text, hget, hexpand⟩

end LedgerQuery.Settings
