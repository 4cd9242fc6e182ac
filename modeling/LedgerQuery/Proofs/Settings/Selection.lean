import LedgerQuery.Backend.Embedded
import LedgerQuery.Selection
import LedgerQuery.Proofs.Settings.Credentials
import LedgerQuery.Proofs.Text.Trimming

/-!
# Which provider is selected

The warehouse is selected exactly if its name is asked for, every credential has a value and there
is a driver. In all other cases it is the embedded store, always the same one, and the reason tells
the first condition that fails.

* `Provider.IsNamed`: a text is a name of a provider.
* `Settings.Selects`: the five outcomes of a request, each with its conditions.
* `Settings.select_policy`: the policy as a whole, for every request.
-/

namespace LedgerQuery

/-! ### Names -/

namespace Provider

/-- The names of a provider. -/
def aliases : Provider → List String
  | .embedded => ["local", "sqlite"]
  | .warehouse => ["snowflake", "warehouse"]

/-- The text is a name of the provider, whatever its case and the blanks around it. -/
def IsNamed (p : Provider) (name : String) : Prop :=
  Text.lower (Text.trim name) ∈ p.aliases

instance (p : Provider) (name : String) : Decidable (p.IsNamed name) :=
  inferInstanceAs (Decidable (_ ∈ _))

/-- No text is a name of both providers. -/
theorem IsNamed.unique {p q : Provider} {name : String} (hp : p.IsNamed name)
    (hq : q.IsNamed name) : p = q := by
  unfold IsNamed at hp hq
  generalize Text.lower (Text.trim name) = small at hp hq
  cases p <;> cases q
  · rfl
  · simp only [aliases, List.mem_cons, List.not_mem_nil, or_false] at hp hq
    rcases hp with rfl | rfl <;> simp at hq
  · simp only [aliases, List.mem_cons, List.not_mem_nil, or_false] at hp hq
    rcases hp with rfl | rfl <;> simp at hq
  · rfl

theorem IsNamed.not_isNamed {p q : Provider} {name : String} (hp : p.IsNamed name) (hne : p ≠ q) :
    ¬q.IsNamed name := by
  intro hq
  exact hne (hp.unique hq)

/-- A name is found exactly if it is one of a provider's. -/
theorem ofName?_eq_ok_iff {name : String} {p : Provider} :
    ofName? name = .ok p ↔ p.IsNamed name := by
  have hfound : ∀ q : Provider, q.IsNamed name → ofName? name = .ok q := by
    intro q hq
    unfold IsNamed at hq
    unfold ofName?
    cases q with
    | embedded =>
      simp only [aliases, List.mem_cons, List.not_mem_nil, or_false] at hq
      simp [hq]
    | warehouse =>
      simp only [aliases, List.mem_cons, List.not_mem_nil, or_false] at hq
      rcases hq with hq | hq <;> simp [hq]
  constructor
  · intro h
    unfold ofName? at h
    unfold IsNamed
    dsimp only at h
    split at h
    · next hn =>
      cases h
      simpa [aliases] using hn
    · split at h
      · next hn =>
        cases h
        simpa [aliases] using hn
      · cases h
  · exact hfound p

theorem ofName?_eq_error_iff {name : String} :
    (∃ e, ofName? name = .error e) ↔ ∀ p : Provider, ¬p.IsNamed name := by
  cases h : ofName? name with
  | ok q =>
    have hq := ofName?_eq_ok_iff.mp h
    constructor
    · rintro ⟨e, he⟩
      cases he
    · intro hnone
      exact absurd hq (hnone q)
  | error e =>
    refine ⟨fun _ p hp => ?_, fun _ => ⟨e, rfl⟩⟩
    rw [ofName?_eq_ok_iff.mpr hp] at h
    cases h

/-- Every provider is found under its own name. -/
theorem isNamed_name (p : Provider) : p.IsNamed p.name := by
  cases p <;> decide

/-- A name that has been trimmed and put in small letters names what it named before. -/
theorem isNamed_lower_trim (p : Provider) (name : String) :
    p.IsNamed (Text.lower (Text.trim name)) ↔ p.IsNamed (Text.lower name) := by
  rw [IsNamed, IsNamed, Text.trim_lower, Text.trim_trim, Text.trim_lower]

end Provider

/-! ### Outcomes -/

namespace Settings

/-- Every key of the credentials has a value. -/
def HasCredentials (s : Settings) (env : Environment) : Prop :=
  ∀ key, (s.credential env key).isSome

variable {s : Settings} {env : Environment}

theorem hasCredentials_iff : s.HasCredentials env ↔ ∃ c, s.credentials env = .ok c := by
  constructor
  · intro h
    cases hc : s.credentials env with
    | ok c => exact ⟨c, rfl⟩
    | error keys =>
      obtain ⟨key, hnone⟩ := exists_credentials_error_iff.mp ⟨keys, hc⟩
      have hsome := h key
      rw [hnone] at hsome
      cases hsome
  · rintro ⟨c, hc⟩ key
    rw [credentials_eq_ok_iff.mp hc key]
    rfl

@[simp] theorem provider_embedded (name : String) (reason : Option Fallback) :
    (Selection.mk name (s.embeddedSource env) reason).provider = .embedded := rfl

@[simp] theorem provider_warehouse (name : String) (c : Driver.Credentials)
    (reason : Option Fallback) : (Selection.mk name (.warehouse c) reason).provider = .warehouse :=
  rfl

/-- What a request for a name may lead to, and when. -/
inductive Selects (s : Settings) (env : Environment) (isAvailable : Bool) (name : String) :
    Selection → Prop where
  | unknown : (∀ p : Provider, ¬p.IsNamed name) →
    Selects s env isAvailable name ⟨name, s.embeddedSource env, some (.unknownProvider name)⟩
  | embedded : Provider.IsNamed .embedded name →
    Selects s env isAvailable name ⟨name, s.embeddedSource env, none⟩
  | missing : Provider.IsNamed .warehouse name → ¬s.HasCredentials env →
    Selects s env isAvailable name
      ⟨name, s.embeddedSource env, some (.missingCredentials (s.missingCredentials env))⟩
  | unavailable : Provider.IsNamed .warehouse name → s.HasCredentials env → isAvailable = false →
    Selects s env isAvailable name ⟨name, s.embeddedSource env, some .driverUnavailable⟩
  | warehouse (c : Driver.Credentials) : Provider.IsNamed .warehouse name →
    s.HasCredentials env → isAvailable = true → s.credentials env = .ok c →
    Selects s env isAvailable name ⟨name, .warehouse c, none⟩

/-- Every request has one of the five outcomes. -/
theorem selects_selectNamed (s : Settings) (env : Environment) (isAvailable : Bool)
    (name : String) : Selects s env isAvailable name (s.selectNamed env isAvailable name) := by
  unfold selectNamed
  cases hname : Provider.ofName? name with
  | error e => exact .unknown (Provider.ofName?_eq_error_iff.mp ⟨e, hname⟩)
  | ok p =>
    have hp := Provider.ofName?_eq_ok_iff.mp hname
    cases p with
    | embedded => exact .embedded hp
    | warehouse =>
      cases hc : s.credentials env with
      | error keys =>
        obtain ⟨hne, rfl⟩ := credentials_eq_error_iff.mp hc
        refine .missing hp fun hall => hne ?_
        exact missingCredentials_eq_nil_iff.mpr hall
      | ok c =>
        have hall : s.HasCredentials env := hasCredentials_iff.mpr ⟨c, hc⟩
        cases isAvailable with
        | false => exact .unavailable hp hall rfl
        | true => exact .warehouse c hp hall rfl hc

namespace Selects

variable {isAvailable : Bool} {name : String} {chosen : Selection}
  (h : Selects s env isAvailable name chosen)

include h

theorem requested_eq : chosen.requested = name := by
  cases h <;> rfl

/-- The warehouse is selected exactly if nothing stands in the way. -/
theorem provider_eq_warehouse_iff :
    chosen.provider = .warehouse ↔
      Provider.IsNamed .warehouse name ∧ s.HasCredentials env ∧ isAvailable = true := by
  cases h with
  | unknown hn => simp [hn]
  | embedded hn =>
    have hw : ¬Provider.IsNamed .warehouse name := hn.not_isNamed (by decide)
    simp [hw]
  | missing hn hall => simp [hall]
  | unavailable hn hall ha => simp [ha]
  | warehouse c hn hall ha => simp [hn, hall, ha]

/-- There is no reason to tell exactly if the name is one of the provider that is selected. -/
theorem fallback_eq_none_iff : chosen.fallback = none ↔ chosen.provider.IsNamed name := by
  cases h with
  | unknown hn => simp [hn]
  | embedded hn => simp [hn]
  | missing hn | unavailable hn =>
    have he : ¬Provider.IsNamed .embedded name := hn.not_isNamed (by decide)
    simp [he]
  | warehouse c hn => simp [hn]

/-- First of all a name may be unknown. -/
theorem fallback_eq_unknownProvider_iff {n : String} :
    chosen.fallback = some (.unknownProvider n) ↔ n = name ∧ ∀ p : Provider, ¬p.IsNamed name := by
  cases h with
  | unknown hn => simp [hn, eq_comm]
  | embedded hn | missing hn | unavailable hn | warehouse c hn =>
    simp only [reduceCtorEq, Option.some.injEq, false_iff, not_and]
    intro _ hnone
    exact hnone _ hn

/-- Then credentials may be missing, and all keys without a value are told. -/
theorem fallback_eq_missingCredentials_iff {keys : List CredentialKey} :
    chosen.fallback = some (.missingCredentials keys) ↔
      Provider.IsNamed .warehouse name ∧ ¬s.HasCredentials env ∧
        keys = CredentialKey.all.filter fun key => (s.credential env key).isNone := by
  cases h with
  | unknown hn => simp [hn]
  | embedded hn =>
    have hw : ¬Provider.IsNamed .warehouse name := hn.not_isNamed (by decide)
    simp [hw]
  | missing hn hall => simp [hn, hall, missingCredentials, eq_comm]
  | unavailable hn hall | warehouse c hn hall => simp [hall]

/-- Last of all there may be no driver. -/
theorem fallback_eq_driverUnavailable_iff :
    chosen.fallback = some .driverUnavailable ↔
      Provider.IsNamed .warehouse name ∧ s.HasCredentials env ∧ isAvailable = false := by
  cases h with
  | unknown hn => simp [hn]
  | embedded hn =>
    have hw : ¬Provider.IsNamed .warehouse name := hn.not_isNamed (by decide)
    simp [hw]
  | missing hn hall => simp [hall]
  | unavailable hn hall ha => simp [hn, hall, ha]
  | warehouse c hn hall ha => simp [ha]

/-- The embedded store is always the same one. -/
theorem source_of_embedded (he : chosen.provider = .embedded) :
    chosen.source = s.embeddedSource env := by
  cases h with
  | warehouse c => cases he
  | _ => rfl

end Selects

/-! ### The policy -/

/-- The name that is looked at, with the two ways to the default in one. -/
theorem requestedName_eq (s : Settings) (asked : Option String) :
    s.requestedName asked =
      Text.lower (((asked.filter fun n => !Text.isBlankText n).map Text.trim).getD
        s.defaultProvider) := by
  cases asked with
  | none => rfl
  | some n =>
    cases hb : Text.isBlankText n with
    | true => simp [requestedName, hb, Option.filter]
    | false => simp [requestedName, hb, Option.filter]

/-- A provider asked for by its own name is looked at under this name. -/
theorem requestedName_name (s : Settings) (p : Provider) : s.requestedName (some p.name) = p.name := by
  have hb : Text.isBlankText p.name = false := by cases p <;> decide
  have hsmall : Text.lower (Text.trim p.name) = p.name := by cases p <;> decide
  simp [requestedName, hb, hsmall]

theorem selects_select (s : Settings) (env : Environment) (isAvailable : Bool)
    (asked : Option String) :
    Selects s env isAvailable (s.requestedName asked) (s.select env isAvailable asked) :=
  selects_selectNamed s env isAvailable _

/-- Only the provider that a name belongs to decides which provider is selected. -/
theorem provider_select_congr (s : Settings) (env : Environment) (isAvailable : Bool)
    {asked asked' : Option String}
    (h : ∀ p : Provider, p.IsNamed (s.requestedName asked) ↔ p.IsNamed (s.requestedName asked')) :
    (s.select env isAvailable asked).provider = (s.select env isAvailable asked').provider := by
  have hsame : (s.select env isAvailable asked).provider = .warehouse ↔
      (s.select env isAvailable asked').provider = .warehouse := by
    rw [(selects_select s env isAvailable asked).provider_eq_warehouse_iff,
      (selects_select s env isAvailable asked').provider_eq_warehouse_iff, h]
  generalize (s.select env isAvailable asked).provider = p at hsame
  generalize (s.select env isAvailable asked').provider = q at hsame
  cases p <;> cases q <;> simp_all

end Settings

/-- The backend of a source, with the states that it works on. -/
def DataSource.backend {σ κ : Type} (k : Connector σ κ) : DataSource → (τ : Type) × Backend τ
  | .embedded path => ⟨Held OpenStore Workspace, Embedded.backend path⟩
  | .warehouse c => ⟨Held κ σ, Warehouse.backend k c⟩

namespace Settings

variable {s : Settings} {env : Environment}

theorem mem_availableProviders_iff {q : Provider} {isAvailable : Bool} :
    q ∈ s.availableProviders env isAvailable ↔
      q = .embedded ∨ s.HasCredentials env ∧ isAvailable = true := by
  have hok : (s.credentials env).isOk = true ↔ s.HasCredentials env := by
    rw [hasCredentials_iff]
    cases s.credentials env <;> simp [Except.isOk, Except.toBool]
  rw [availableProviders, ← hok]
  cases q <;> cases isAvailable <;> simp

/-- The name of the embedded store leads to it. -/
theorem provider_select_embedded (s : Settings) (env : Environment) (isAvailable : Bool) :
    (s.select env isAvailable (some Provider.embedded.name)).provider = .embedded := by
  have h := selects_select s env isAvailable (some Provider.embedded.name)
  rw [requestedName_name] at h
  cases hp : (s.select env isAvailable (some Provider.embedded.name)).provider with
  | embedded => rfl
  | warehouse =>
    have hw := (h.provider_eq_warehouse_iff.mp hp).1
    cases (Provider.isNamed_name .embedded).unique hw

/-- The available providers are those that are selected under their own names. -/
theorem mem_availableProviders_iff_select {q : Provider} {isAvailable : Bool} :
    q ∈ s.availableProviders env isAvailable ↔
      (s.select env isAvailable (some q.name)).fallback = none ∧
        (s.select env isAvailable (some q.name)).provider = q := by
  have h := selects_select s env isAvailable (some q.name)
  rw [requestedName_name] at h
  rw [mem_availableProviders_iff, h.fallback_eq_none_iff]
  cases q with
  | embedded =>
    rw [provider_select_embedded]
    simpa using Provider.isNamed_name .embedded
  | warehouse =>
    have hn := Provider.isNamed_name .warehouse
    constructor
    · rintro (he | ⟨hall, ha⟩)
      · cases he
      · have hp := h.provider_eq_warehouse_iff.mpr ⟨hn, hall, ha⟩
        rw [hp]
        exact ⟨hn, rfl⟩
    · rintro ⟨-, hp⟩
      exact .inr (h.provider_eq_warehouse_iff.mp hp).2

/-- The name that leads to a provider is the one asked for, trimmed and in small letters, unless it
is blank, and else the default in small letters. The warehouse is selected exactly if the name is
one of its own, every credential has a value and there is a driver, and else the embedded store,
always the same one. No reason is given exactly if the name is one of the selected provider, and
else the first condition that fails. The backend is one of the selected provider. The providers
that count as available are those that are selected under their own names, the embedded store among
them. A default that is not blank may as well be asked for. -/
theorem select_policy {σ κ : Type} (k : Connector σ κ) (s : Settings) (env : Environment)
    (isAvailable : Bool) (asked : Option String) :
    (s.select env isAvailable asked).requested =
      Text.lower (((asked.filter fun n => !Text.isBlankText n).map Text.trim).getD
        s.defaultProvider) ∧
    ((s.select env isAvailable asked).provider = .warehouse ↔
      Provider.IsNamed .warehouse (s.select env isAvailable asked).requested ∧
        (∀ key, (s.credential env key).isSome) ∧ isAvailable = true) ∧
    ((s.select env isAvailable asked).fallback = none ↔
      (s.select env isAvailable asked).provider.IsNamed
        (s.select env isAvailable asked).requested) ∧
    (∀ n, (s.select env isAvailable asked).fallback = some (.unknownProvider n) ↔
      n = (s.select env isAvailable asked).requested ∧
        ∀ p : Provider, ¬p.IsNamed (s.select env isAvailable asked).requested) ∧
    (∀ keys, (s.select env isAvailable asked).fallback = some (.missingCredentials keys) ↔
      Provider.IsNamed .warehouse (s.select env isAvailable asked).requested ∧
        (¬∀ key, (s.credential env key).isSome) ∧
        keys = CredentialKey.all.filter fun key => (s.credential env key).isNone) ∧
    ((s.select env isAvailable asked).fallback = some .driverUnavailable ↔
      Provider.IsNamed .warehouse (s.select env isAvailable asked).requested ∧
        (∀ key, (s.credential env key).isSome) ∧ isAvailable = false) ∧
    ((s.select env isAvailable asked).source.backend k).2.provider =
      (s.select env isAvailable asked).provider ∧
    ((s.select env isAvailable asked).provider = .embedded →
      (s.select env isAvailable asked).source =
        (s.select env isAvailable (some "local")).source) ∧
    .embedded ∈ s.availableProviders env isAvailable ∧
    (∀ q : Provider, q ∈ s.availableProviders env isAvailable ↔
      (s.select env isAvailable (some q.name)).fallback = none ∧
        (s.select env isAvailable (some q.name)).provider = q) ∧
    (Text.isBlankText s.defaultProvider = false →
      (s.select env isAvailable none).provider =
        (s.select env isAvailable (some s.defaultProvider)).provider) := by
  have h := selects_select s env isAvailable asked
  rw [h.requested_eq]
  refine ⟨requestedName_eq s asked, h.provider_eq_warehouse_iff, h.fallback_eq_none_iff,
    fun _ => h.fallback_eq_unknownProvider_iff, fun _ => h.fallback_eq_missingCredentials_iff,
    h.fallback_eq_driverUnavailable_iff, ?backend, ?same, ?always, ?available, ?default⟩
  case backend =>
    rw [Selection.provider]
    cases (s.select env isAvailable asked).source <;> rfl
  case same =>
    intro he
    have hlocal := selects_select s env isAvailable (some "local")
    rw [h.source_of_embedded he,
      hlocal.source_of_embedded (provider_select_embedded s env isAvailable)]
  case always =>
    rw [mem_availableProviders_iff]
    exact .inl rfl
  case available =>
    intro q
    exact mem_availableProviders_iff_select
  case default =>
    intro hb
    refine provider_select_congr s env isAvailable fun p => ?_
    simp only [requestedName, hb, Bool.false_eq_true, if_false]
    exact (p.isNamed_lower_trim s.defaultProvider).symm

/-- Settings with a default that has blanks around it, and with a value for every key. -/
def paddedDefault : Settings where
  defaultProvider := " Snowflake "
  warehouse := {
    account := some "acct", user := some "analyst", password := some "alpha"
    warehouse := some "WH", database := some "BANK", schema := some "PUBLIC" }

/-- With a driver these settings lead to the warehouse, whether the default is asked for or not. -/
theorem select_policy_paddedDefault :
    Text.isBlankText paddedDefault.defaultProvider = false ∧
    (paddedDefault.select [] true none).provider = .warehouse ∧
    (paddedDefault.select [] true (some " Snowflake ")).provider = .warehouse := by
  obtain ⟨hname, hwarehouse, -, -, -, -, -, -, -, -, hdefault⟩ :=
    select_policy (Connector.ofDriver none) paddedDefault [] true none
  have hb : Text.isBlankText paddedDefault.defaultProvider = false := by decide
  have hselected : (paddedDefault.select [] true none).provider = .warehouse := by
    rw [hwarehouse, hname]
    refine ⟨by decide, ?_, rfl⟩
    rintro (_ | _) <;> decide +kernel
  exact ⟨hb, hselected, (hdefault hb).symm.trans hselected⟩

end Settings

end LedgerQuery
