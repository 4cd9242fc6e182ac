import LedgerQuery.Proofs.Sql.Containment

/-!
# Names of functions in statements

Columns, aliases, tables and strings are put between quotes where that is needed. The name of a
function is not: it is written in capital letters as it is. So what a statement shows outside of
quotes is up to the names of its functions, and to nothing else that it is given.

* `Closed`: a text that ends outside of quotes and shows no placeholder.
* `Query.functions`: the functions that a query calls.
* `Query.contained_iff_closed`: the names that are safe in all queries.
* `Query.swallowed_placeholder`: a name with a quote in it takes a placeholder out of the statement.
-/

namespace LedgerQuery.Sql

open Text (Region)
open Text.Region

/-! ### Names -/

/-- A text that ends outside of quotes and shows no placeholder. -/
structure Closed (cs : List Char) : Prop where
  ends : scan .outside cs = .outside
  mute : placeholders cs = 0

/-- The function that a token names. -/
def Token.function? : Token → Option String
  | .function f => some f
  | _ => none

/-- The names of the functions that a query calls, in the order in which they are written. -/
def Query.functions (q : Query) : List String :=
  q.tokens.filterMap Token.function?

theorem Query.mem_functions {q : Query} {f : String} : f ∈ q.functions ↔ .function f ∈ q.tokens := by
  simp only [functions, List.mem_filterMap]
  constructor
  · rintro ⟨t, ht, hf⟩
    cases t with
    | function g => rwa [← Option.some.inj hf]
    | _ => cases hf
  · intro hf
    exact ⟨_, hf, rfl⟩

/-- Whatever a token is given, it ends outside of quotes and shows a placeholder just where it binds
a value, unless it is a function whose name does not. -/
theorem Token.contained (d : Dialect) {t : Token}
    (h : ∀ f, t = .function f → Closed (Text.upper f).toList) :
    scan .outside (t.write d .bound).toList = .outside ∧
      placeholders (t.write d .bound).toList = t.param?.toList.length := by
  cases t with
  | function f =>
    obtain ⟨hends, hmute⟩ := h f rfl
    exact ⟨hends, hmute⟩
  | _ => exact ⟨scan_token d .bound rfl, placeholders_token d rfl⟩

/-! ### Queries -/

namespace Query

/-- The statement of a query ends outside of quotes and shows as many placeholders as values are
bound to it. -/
def Contained (q : Query) (d : Dialect) : Prop :=
  scan .outside (q.sql d).toList = .outside ∧ placeholders (q.sql d).toList = q.params.length

theorem contained_of_closed {q : Query} (h : ∀ f ∈ q.functions, Closed (Text.upper f).toList)
    (d : Dialect) : q.Contained d := by
  have htokens : ∀ t ∈ q.tokens, scan .outside (t.write d .bound).toList = .outside ∧
      placeholders (t.write d .bound).toList = t.param?.toList.length := by
    intro t ht
    refine Token.contained d fun f hf => h f ?_
    rw [mem_functions, ← hf]
    exact ht
  exact ⟨scan_write_of_scan d .bound fun t ht => (htokens t ht).1,
    placeholders_write_of_scan d (fun t ht => (htokens t ht).1) fun t ht => (htokens t ht).2⟩

/-- The query for the value of a function without arguments. -/
def calling (f : String) : Query :=
  { items := [{ expr := .call f [] }] }

theorem tokens_calling (f : String) :
    (calling f).tokens =
      [.keyword .select, .newline, .indent 1, .function f, .opening, .closing] := rfl

theorem functions_calling (f : String) : (calling f).functions = [f] := rfl

/-- The statement of that query is contained exactly if the name of the function is closed. -/
theorem contained_calling_iff (f : String) (d : Dialect) :
    (calling f).Contained d ↔ Closed (Text.upper f).toList := by
  constructor
  · rintro ⟨hends, hmarks⟩
    have hsql : ((calling f).sql d).toList =
        "SELECT\n  ".toList ++ ((Text.upper f).toList ++ ['(', ')']) := by
      rw [sql, tokens_calling, toList_write]
      simp [Token.write, Keyword.text, List.replicate]
    -- what stands around the name leads neither into a quoted text nor out of one
    have hstart : scan .outside "SELECT\n  ".toList = .outside := by decide
    have hbehind : ∀ r, scan r ['(', ')'] = r := by rintro (_ | _) <;> rfl
    have hnone : ∀ r, (bare r ['(', ')']).count (some '?') = 0 := by rintro (_ | _) <;> rfl
    rw [hsql, scan_append, scan_append, hstart, hbehind] at hends
    have hname : (bare .outside (Text.upper f).toList).count (some '?') = 0 := by
      have hparams : (calling f).params = [] := rfl
      rw [hparams, hsql, placeholders, bare_append, bare_append, hstart, List.count_append,
        List.count_append, hnone] at hmarks
      simp only [List.length_nil] at hmarks
      omega
    exact ⟨hends, hname⟩
  · intro h
    refine contained_of_closed (fun g hg => ?_) d
    rw [functions_calling, List.mem_singleton] at hg
    rwa [hg]

/-- Of the names of functions that a query may be given, exactly those are safe that are closed as
they are written: if all names of a class are closed, then every query that calls no other
functions ends outside of quotes and shows one placeholder for each bound value, whatever else it is
given, and if one of them is not, then some query does not. -/
theorem contained_iff_closed (names : String → Prop) :
    (∀ q : Query, (∀ f ∈ q.functions, names f) → ∀ d : Dialect,
      scan .outside (q.sql d).toList = .outside ∧
        placeholders (q.sql d).toList = q.params.length) ↔
      ∀ f, names f → Closed (Text.upper f).toList := by
  constructor
  · intro h f hf
    refine (contained_calling_iff f .sqlite).mp (h (calling f) (fun g hg => ?_) .sqlite)
    rw [functions_calling, List.mem_singleton] at hg
    rwa [hg]
  · intro h q hq d
    exact contained_of_closed (fun f hf => h f (hq f hf)) d

/-- A quote in the name of a function opens a quoted text that nothing closes: the statement ends in
it, and the placeholder of the argument is lost in it, though its value is bound. -/
theorem swallowed_placeholder :
    let q := ({} : Query).fromTable "loans" |>.filter (.call "f'" [.param (.text "x")])
    ∀ d : Dialect, scan .outside (q.sql d).toList = .single ∧
      placeholders (q.sql d).toList = 0 ∧ q.params.length = 1 := by
  intro q d
  cases d <;> decide +kernel

end Query

end LedgerQuery.Sql
