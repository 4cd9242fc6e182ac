import LedgerQuery.Proofs.Driver.Alike
import LedgerQuery.Proofs.Settings.Selection

/-!
# Where a password goes

Settings are compared with the same settings under another password. Nothing that is shown of them
differs. If both passwords can be used, the same is selected, and whoever connects with the
credentials is answered the same. The password itself is sent to a driver when a connection is
opened, as one parameter of that request, and nowhere else.

* `Settings.credentials_withPassword`, `Settings.select_withPassword`: another password changes the
  password of what comes out, and nothing else.
* `Driver.Host.alike_fresh`: drivers that react alike can be told apart by nobody.
* `Settings.password_unobservable`: the two runs compared, from the settings to the answers.
-/

namespace LedgerQuery

/-! ### Another password -/

namespace Driver.Credentials

/-- The credentials with another password. -/
def withPassword (c : Credentials) (p : String) : Credentials := { c with password := p }

/-- What is shown of credentials does not depend on the password. -/
theorem viewAs_withPassword (c : Credentials) (name p : String) :
    (c.withPassword p).viewAs name = c.viewAs name := rfl

theorem view_withPassword (c : Credentials) (p : String) : (c.withPassword p).view = c.view :=
  c.viewAs_withPassword _ p

theorem openingView_withPassword (c : Credentials) (p : String) :
    (c.withPassword p).openingView = c.openingView :=
  c.viewAs_withPassword _ p

theorem toJson_withPassword (c : Credentials) (p : String) :
    (c.withPassword p).toJson = c.toJson := rfl

/-- The password is one parameter of the request that opens a connection. -/
theorem openConnection_withPassword (c : Credentials) (id : String) :
    ∃ front back, ∀ p, (Request.openConnection (c.withPassword p)).toJson id =
      .object [("id", .text id), ("method", .text "connection.open"),
        ("params", .object (front ++ ("password", .text p) :: back))] :=
  ⟨[("account", .text c.account), ("user", .text c.user)],
    [("warehouse", .text c.warehouse), ("database", .text c.database), ("schema", .text c.schema)],
    fun _ => rfl⟩

end Driver.Credentials

/-- The source with another password, if it has one. -/
def DataSource.withPassword (p : String) : DataSource → DataSource
  | .embedded path => .embedded path
  | .warehouse c => .warehouse (c.withPassword p)

namespace Settings

/-- The settings with another password. -/
def withPassword (s : Settings) (p : String) : Settings :=
  { s with warehouse := { s.warehouse with password := some p } }

variable (s : Settings) {env : Environment} {p q p' q' : String}

theorem view_withPassword (p q : String) : (s.withPassword p).view = (s.withPassword q).view :=
  view_password s p q

theorem toJson_withPassword (p q : String) :
    (s.withPassword p).toJson = (s.withPassword q).toJson := rfl

theorem credential_withPassword (hp : Expansion.expand env p = .ok p')
    (hb : Text.isBlankText p' = false) (key : CredentialKey) :
    (s.withPassword p).credential env key =
      if key = .password then some p' else s.credential env key := by
  by_cases hk : key = .password
  · subst hk
    rw [if_pos rfl, credential_eq_some_iff]
    exact ⟨p, rfl, hp, hb⟩
  · rw [if_neg hk]
    -- every other key has the setting that it had
    have hget : (s.withPassword p).warehouse.get key = s.warehouse.get key := by
      cases key with
      | password => exact absurd rfl hk
      | _ => rfl
    rw [credential, credential, hget]

/-- Another password that can be used changes the password of the credentials, and nothing else. -/
theorem credentials_withPassword (hp : Expansion.expand env p = .ok p')
    (hpb : Text.isBlankText p' = false) (hq : Expansion.expand env q = .ok q')
    (hqb : Text.isBlankText q' = false) :
    (s.withPassword q).credentials env =
      ((s.withPassword p).credentials env).map (·.withPassword q') := by
  have hp := credential_withPassword s hp hpb
  have hq := credential_withPassword s hq hqb
  cases hc : (s.withPassword p).credentials env with
  | ok c =>
    rw [credentials_eq_ok_iff] at hc
    refine credentials_eq_ok_iff.mpr fun key => ?_
    have hkey := hc key
    rw [hp] at hkey
    rw [hq]
    cases key with
    | password => rfl
    | _ => exact hkey
  | error keys =>
    rw [credentials_eq_error_iff] at hc
    -- neither password is missing, and no other key has changed
    refine credentials_eq_error_iff.mpr ⟨hc.1, ?_⟩
    rw [hc.2, missingCredentials, missingCredentials]
    refine List.filter_congr fun key _ => ?_
    rw [hp, hq]
    split <;> rfl

/-- Another password that can be used changes the password of what is selected, and nothing else. -/
theorem select_withPassword (hp : Expansion.expand env p = .ok p')
    (hpb : Text.isBlankText p' = false) (hq : Expansion.expand env q = .ok q')
    (hqb : Text.isBlankText q' = false) (isAvailable : Bool) (asked : Option String) :
    (s.withPassword q).select env isAvailable asked =
      { (s.withPassword p).select env isAvailable asked with
        source := ((s.withPassword p).select env isAvailable asked).source.withPassword q' } := by
  have hc := credentials_withPassword s hp hpb hq hqb
  -- neither the name nor the path of the database is part of the credentials
  have hname : (s.withPassword q).requestedName asked = (s.withPassword p).requestedName asked :=
    rfl
  have hembedded : (s.withPassword q).embeddedSource env = (s.withPassword p).embeddedSource env :=
    rfl
  unfold select selectNamed
  rw [hc, hname, hembedded]
  cases Provider.ofName? ((s.withPassword p).requestedName asked) with
  | error e => rfl
  | ok provider =>
    cases provider with
    | embedded => rfl
    | warehouse =>
      cases (s.withPassword p).credentials env with
      | error keys => rfl
      | ok c => cases isAvailable <;> rfl

/-! ### Two runs -/

/-- Warehouses over alike connectors answer alike, whatever the password. -/
theorem converse_withPassword {σ σ' κ κ' : Type} {W : σ → σ' → Prop} {L : κ → κ' → Prop}
    {k : Connector σ κ} {k' : Connector σ' κ'} {c : Driver.Credentials} {r : String}
    (h : k.Alike W L c k' (c.withPassword r)) {world : σ} {world' : σ'} (hw : W world world')
    (calls : List Backend.Call) :
    ((Warehouse.backend k c).converse calls { world := world }).1 =
        ((Warehouse.backend k' (c.withPassword r)).converse calls { world := world' }).1 ∧
      W ((Warehouse.backend k c).converse calls { world := world }).2.world
        ((Warehouse.backend k' (c.withPassword r)).converse calls { world := world' }).2.world := by
  have hbackend := h.backend (q := r) rfl
  obtain ⟨hreplies, hbehind⟩ := hbackend.converse calls { world := world } { world := world' } ⟨.none, hw⟩
  exact ⟨hreplies, hbehind.world⟩

/-- The settings are shown in the same way with any password. If both passwords can be used, every
request selects the same, and the credentials differ in the password alone and are shown in the
same way. The warehouse is then answered by alike connectors in the same way, whatever is asked of
it and in whatever order. Over drivers that do not look at the password, also what is done to the
drivers is the same, but for the lines that open a connection; and there the password is one
parameter. -/
theorem password_unobservable (s : Settings) (p q : String) :
    (s.withPassword p).toJson = (s.withPassword q).toJson ∧
    (s.withPassword p).view = (s.withPassword q).view ∧
    ∀ (env : Environment) (p' q' : String),
      Expansion.expand env p = .ok p' → Text.isBlankText p' = false →
      Expansion.expand env q = .ok q' → Text.isBlankText q' = false →
      (∀ isAvailable asked,
        ((s.withPassword q).select env isAvailable asked).requested =
          ((s.withPassword p).select env isAvailable asked).requested ∧
        ((s.withPassword q).select env isAvailable asked).provider =
          ((s.withPassword p).select env isAvailable asked).provider ∧
        ((s.withPassword q).select env isAvailable asked).fallback =
          ((s.withPassword p).select env isAvailable asked).fallback ∧
        ((s.withPassword q).select env isAvailable asked).source =
          ((s.withPassword p).select env isAvailable asked).source.withPassword q') ∧
      (s.withPassword q).credentials env =
        ((s.withPassword p).credentials env).map (·.withPassword q') ∧
      ∀ c, (s.withPassword p).credentials env = .ok c →
        (c.withPassword q').toJson = c.toJson ∧ (c.withPassword q').view = c.view ∧
        (c.withPassword q').openingView = c.openingView ∧
        (∀ (σ σ' κ κ' : Type) (W : σ → σ' → Prop) (L : κ → κ' → Prop) (k : Connector σ κ)
          (k' : Connector σ' κ'), k.Alike W L c k' (c.withPassword q') →
          ∀ world world', W world world' → ∀ calls,
            ((Warehouse.backend k c).converse calls { world := world }).1 =
              ((Warehouse.backend k' (c.withPassword q')).converse calls { world := world' }).1) ∧
        (∀ path host host', Driver.Host.Alike c (c.withPassword q') host host' → ∀ calls,
          ((Warehouse.backend (.ofDriver path) c).converse calls { world := host }).1 =
            ((Warehouse.backend (.ofDriver path) (c.withPassword q')).converse calls
              { world := host' }).1 ∧
          List.Forall₂ (Driver.Event.Alike c (c.withPassword q'))
            ((Warehouse.backend (.ofDriver path) c).converse calls { world := host }).2.world.log
            ((Warehouse.backend (.ofDriver path) (c.withPassword q')).converse calls
              { world := host' }).2.world.log) ∧
        ∀ id, ∃ front back, ∀ r, (Driver.Request.openConnection (c.withPassword r)).toJson id =
          .object [("id", .text id), ("method", .text "connection.open"),
            ("params", .object (front ++ ("password", .text r) :: back))] := by
  refine ⟨s.toJson_withPassword p q, s.view_withPassword p q, ?_⟩
  intro env p' q' hp hpb hq hqb
  refine ⟨?_, credentials_withPassword s hp hpb hq hqb, ?_⟩
  · intro isAvailable asked
    rw [select_withPassword s hp hpb hq hqb]
    generalize (s.withPassword p).select env isAvailable asked = chosen
    refine ⟨rfl, ?_, rfl, rfl⟩
    show (chosen.source.withPassword q').provider = chosen.source.provider
    cases chosen.source <;> rfl
  · intro c hc
    refine ⟨c.toJson_withPassword q', c.view_withPassword q', c.openingView_withPassword q', ?_, ?_,
      c.openConnection_withPassword⟩
    · intro σ σ' κ κ' W L k k' hk world world' hw calls
      exact (converse_withPassword hk hw calls).1
    · intro path host host' hhost calls
      have hk := Connector.ofDriver_alike c (c.withPassword q') path
      obtain ⟨hreplies, hbehind⟩ := converse_withPassword hk hhost calls
      exact ⟨hreplies, hbehind.log⟩

/-- A driver that answers every request in the same way, as if it opened a session and ran a
statement. -/
def obliging : Driver.Program where
  react _ requests :=
    { lines := [.text ("\x7b\"id\":\"" ++ Driver.Request.identifier (requests.length - 1) ++
        "\",\"success\":true,\"result\":\x7b\"session_id\":\"s\"," ++
          "\"columns\":[\x7b\"name\":\"N\"\x7d],\"rows\":[[\"LOANS\"]]\x7d\x7d")] }

theorem obliging_alike (c c' : Driver.Credentials) : obliging.Alike c c' obliging := by
  intro run requests requests' h
  show Driver.Reaction.mk _ _ = Driver.Reaction.mk _ _
  rw [h.length_eq]

/-- Settings with all that it takes to connect but a password. -/
def withoutPassword : Settings where
  warehouse := {
    account := some "acct", user := some "analyst", warehouse := some "WH"
    database := some "BANK", schema := some "PUBLIC" }

/-- Two passwords and a driver that opens a session with both. -/
theorem password_unobservable_obliging :
    let host : Driver.Host := { workspace := { entries := [(["driver"], .program [] obliging)] } }
    ∃ c, (withoutPassword.withPassword "alpha").credentials [] = .ok c ∧
      ((Warehouse.backend (.ofDriver (some "./driver")) c).converse
          [.openSession, .operation .tables] { world := host }).1 =
        ((Warehouse.backend (.ofDriver (some "./driver")) (c.withPassword "beta")).converse
          [.openSession, .operation .tables] { world := host }).1 := by
  intro host
  have hexpand : ∀ p, '$' ∉ p.toList → Expansion.expand [] p = .ok p := by
    intro p hp
    exact Expansion.expand_of_references_nil [] (Expansion.references_of_no_dollar hp)
  have hc : (withoutPassword.withPassword "alpha").credentials [] =
      .ok ⟨"acct", "analyst", "alpha", "WH", "BANK", "PUBLIC"⟩ := by
    rw [credentials_eq_ok_iff]
    rintro (_ | _) <;> decide +kernel
  have hhost : ∀ c c', Driver.Host.Alike c c' host host := by
    intro c c'
    refine Driver.Host.alike_fresh ?_
    intro place bytes p hm
    simp only [List.mem_singleton, Prod.mk.injEq, Entry.program.injEq] at hm
    obtain ⟨-, -, rfl⟩ := hm
    exact obliging_alike c c'
  obtain ⟨-, -, htwo⟩ := password_unobservable withoutPassword "alpha" "beta"
  obtain ⟨-, -, hanswers⟩ := htwo [] "alpha" "beta" (hexpand _ (by decide)) (by decide)
    (hexpand _ (by decide)) (by decide)
  obtain ⟨-, -, -, -, hdriver, -⟩ := hanswers _ hc
  exact ⟨_, hc, (hdriver _ host host (hhost _ _) _).1⟩

end Settings

end LedgerQuery
