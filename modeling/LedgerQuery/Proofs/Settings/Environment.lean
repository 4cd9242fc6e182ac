import LedgerQuery.Proofs.Settings.Selection

/-!
# Credentials given by the environment

A value of the environment replaces a setting as it is, but the settings are looked up once more
when credentials are asked for. So a value reaches the warehouse with its own references replaced:
what is handed over is the value itself exactly if replacing the references changes nothing.

* `Settings.withEnvironment_get`: the settings of the keys with the values of the environment.
* `Settings.credential_withEnvironment`: what becomes of one value.
* `Settings.credentials_of_environment`: what reaches the warehouse when the environment gives a
  value for every key.
-/

namespace LedgerQuery.Settings

/-- The setting of a key is the value of the environment, if there is one that is not blank. -/
theorem withEnvironment_get (s : Settings) (env : Environment) (key : CredentialKey) :
    (s.withEnvironment env).warehouse.get key =
      (override env.get? key.name <|> s.warehouse.get key) :=
  s.withOverrides_get env.get? key

/-- A value of the environment is expanded like any other setting. -/
theorem credential_withEnvironment (s : Settings) {env : Environment} {key : CredentialKey}
    {value : String} (hset : env.get? key.name = some value)
    (hblank : Text.isBlankText value = false) {v : String} :
    (s.withEnvironment env).credential env key = some v ↔
      Expansion.expand env value = .ok v ∧ Text.isBlankText v = false := by
  have hget : (s.withEnvironment env).warehouse.get key = some value := by
    rw [withEnvironment_get, override, hset]
    simp [Option.filter, hblank]
  rw [credential_eq_some_iff, hget]
  simp

/-- Where the environment gives a value that is not blank for every key, the credentials are these
values with their own references replaced; there are none if one of them cannot be expanded or is
blank then. They are the values themselves exactly if the replacement changes none of them. Values
that refer to nothing are handed over as they are, and no request falls back because credentials
are missing. -/
theorem credentials_of_environment (s : Settings) (env : Environment)
    (value : CredentialKey → String) (hset : ∀ key, env.get? key.name = some (value key))
    (hblank : ∀ key, Text.isBlankText (value key) = false) :
    (∀ c, (s.withEnvironment env).credentials env = .ok c ↔
      ∀ key, Expansion.expand env (value key) = .ok (c.get key) ∧
        Text.isBlankText (c.get key) = false) ∧
    ((s.withEnvironment env).credentials env = .ok (.ofValues value) ↔
      ∀ key, Expansion.expand env (value key) = .ok (value key)) ∧
    ((∃ keys, (s.withEnvironment env).credentials env = .error keys) ↔
      ∃ key, ∀ v, Expansion.expand env (value key) = .ok v → Text.isBlankText v = true) ∧
    ((∀ key, Expansion.references (value key) = []) →
      (s.withEnvironment env).credentials env = .ok (.ofValues value) ∧
      ∀ isAvailable asked keys,
        ((s.withEnvironment env).select env isAvailable asked).fallback ≠
          some (.missingCredentials keys)) := by
  have hcredential : ∀ key v, (s.withEnvironment env).credential env key = some v ↔
      Expansion.expand env (value key) = .ok v ∧ Text.isBlankText v = false := by
    intro key v
    exact credential_withEnvironment s (hset key) (hblank key)
  have hexact : ∀ c, (s.withEnvironment env).credentials env = .ok c ↔
      ∀ key, Expansion.expand env (value key) = .ok (c.get key) ∧
        Text.isBlankText (c.get key) = false := by
    intro c
    rw [credentials_eq_ok_iff]
    exact forall_congr' fun key => hcredential key (c.get key)
  have hverbatim : (s.withEnvironment env).credentials env = .ok (.ofValues value) ↔
      ∀ key, Expansion.expand env (value key) = .ok (value key) := by
    rw [hexact]
    constructor
    · intro h key
      simpa using (h key).1
    · intro h key
      simpa using ⟨h key, hblank key⟩
  refine ⟨hexact, hverbatim, ?_, ?_⟩
  · rw [exists_credentials_error_iff]
    refine exists_congr fun key => ?_
    rw [Option.eq_none_iff_forall_ne_some]
    refine forall_congr' fun v => ?_
    rw [ne_eq, hcredential, not_and, Bool.not_eq_false]
  · intro hnone
    have hok := hverbatim.mpr fun key => Expansion.expand_of_references_nil env (hnone key)
    refine ⟨hok, ?_⟩
    intro isAvailable asked keys hf
    -- credentials are told to be missing only where they are
    have h := selects_select (s.withEnvironment env) env isAvailable asked
    exact (h.fallback_eq_missingCredentials_iff.mp hf).2.1 (hasCredentials_iff.mpr ⟨_, hok⟩)

/-- An environment with nothing but a value for every key. -/
def environmentOf (value : CredentialKey → String) : Environment :=
  CredentialKey.all.map fun key => (key.name, value key)

theorem environmentOf_get? (value : CredentialKey → String) (key : CredentialKey) :
    (environmentOf value).get? key.name = some (value key) := by
  cases key <;> rfl

/-- The password, and one value for all other keys. -/
def valuesWith (password : String) (key : CredentialKey) : String :=
  if key = .password then password else "bank"

/-- A dollar sign at the end of a password refers to nothing. -/
theorem credentials_of_environment_dollar_at_end :
    (∀ key, (environmentOf (valuesWith "pa$")).get? key.name = some (valuesWith "pa$" key)) ∧
    (∀ key, Text.isBlankText (valuesWith "pa$" key) = false) ∧
    (({} : Settings).withEnvironment (environmentOf (valuesWith "pa$"))).credentials
      (environmentOf (valuesWith "pa$")) = .ok (.ofValues (valuesWith "pa$")) := by
  have hblank : ∀ key, Text.isBlankText (valuesWith "pa$" key) = false := by
    rintro (_ | _) <;> decide
  have hnone : ∀ key, Expansion.references (valuesWith "pa$" key) = [] := by
    intro key
    by_cases hk : key = .password
    · subst hk
      decide +kernel
    · rw [valuesWith, if_neg hk]
      exact Expansion.references_of_no_dollar (by decide)
  obtain ⟨-, -, -, hverbatim⟩ :=
    credentials_of_environment {} _ _ (environmentOf_get? (valuesWith "pa$")) hblank
  exact ⟨environmentOf_get? _, hblank, (hverbatim hnone).1⟩

/-- A dollar sign within a password does refer to something: the password is taken for missing, and
the embedded store stands in for the warehouse. -/
theorem environment_password_with_reference :
    (∀ key, (environmentOf (valuesWith "pa$word")).get? key.name =
      some (valuesWith "pa$word" key)) ∧
    (∀ key, Text.isBlankText (valuesWith "pa$word" key) = false) ∧
    (({} : Settings).withEnvironment (environmentOf (valuesWith "pa$word"))).credentials
      (environmentOf (valuesWith "pa$word")) = .error [.password] ∧
    (({} : Settings).withEnvironment (environmentOf (valuesWith "pa$word"))).select
      (environmentOf (valuesWith "pa$word")) true (some "snowflake") =
        ⟨"snowflake", .embedded "data/banking.db", some (.missingCredentials [.password])⟩ := by
  refine ⟨environmentOf_get? _, ?_, ?_, ?_⟩
  · rintro (_ | _) <;> decide
  · rw [credentials_eq_error_iff]
    -- `$word` is a reference, and nothing but the six keys has a value
    have hmissing : (({} : Settings).withEnvironment
        (environmentOf (valuesWith "pa$word"))).missingCredentials
          (environmentOf (valuesWith "pa$word")) = [.password] := by
      decide +kernel
    exact ⟨by simp, hmissing.symm⟩
  · decide +kernel

end LedgerQuery.Settings
