import LedgerQuery.Proofs.Sql.Conditions

/-!
# What the dialects agree on

The dialects differ in the case of table names and in the spelling of truth values. Only the part of
a statement that names its table holds a table name, and a bound truth value is written as a
placeholder. So the statements of a query in both dialects have the same text in front of the table
name and the same text behind it, unless a truth value is written out in one of its expressions.

* `Expr.Neutral`: no truth value is written out in an expression.
* `Expr.shared_tokens`: what such an expression is written with is written alike in all dialects.
* `Query.Neutral.sql_eq`: the statement of such a query around the name of its table.
-/

namespace LedgerQuery.Sql

/-! ### Tokens -/

/-- All dialects write the token alike when values are bound: it is neither a table name nor a truth
value. -/
def Token.isShared : Token → Bool
  | .table _ | .literal (.bool _) => false
  | _ => true

theorem Token.write_of_isShared {t : Token} (h : t.isShared = true) (d d' : Dialect) :
    t.write d .bound = t.write d' .bound := by
  cases t with
  | table s => cases h
  | literal v =>
    cases v with
    | bool b => cases h
    | _ => rfl
  | _ => rfl

theorem write_of_shared {ts : List Token} (h : ts.all Token.isShared = true) (d d' : Dialect) :
    write d .bound ts = write d' .bound ts := by
  rw [write, write]
  congr 1
  exact List.map_congr_left fun t ht => Token.write_of_isShared (List.all_eq_true.mp h t ht) d d'

/-! ### Expressions -/

namespace Expr

mutual

/-- No truth value is written out in the expression. -/
def Neutral : Expr → Prop
  | .literal (.bool _) => False
  | .binary l _ r => l.Neutral ∧ r.Neutral
  | .call _ args => AllNeutral args
  | .choice branches otherwise => BranchesNeutral branches ∧ OtherwiseNeutral otherwise
  | _ => True

/-- No truth value is written out in any of the expressions. -/
def AllNeutral : List Expr → Prop
  | [] => True
  | e :: r => e.Neutral ∧ AllNeutral r

/-- No truth value is written out in the branches. -/
def BranchesNeutral : List (Expr × Expr) → Prop
  | [] => True
  | b :: r => b.1.Neutral ∧ b.2.Neutral ∧ BranchesNeutral r

/-- No truth value is written out in the last part. -/
def OtherwiseNeutral : Option Expr → Prop
  | none => True
  | some e => e.Neutral

end

theorem allNeutral_iff {es : List Expr} : AllNeutral es ↔ ∀ e ∈ es, e.Neutral := by
  induction es with
  | nil => simp [AllNeutral]
  | cons e es ih => simp [AllNeutral, ih]

mutual

/-- An expression names no table, and it writes out no truth value if it is neutral. -/
theorem shared_tokens {e : Expr} (h : e.Neutral) : e.tokens.all Token.isShared = true := by
  match e with
  | .column _ | .param _ | .star => rfl
  | .literal .null | .literal (.int _) | .literal (.float _) | .literal (.text _) => rfl
  | .literal (.bool _) => exact absurd h (by simp [Neutral])
  | .binary l op r =>
    rw [Neutral] at h
    rw [tokens, List.all_append, List.all_append, shared_tokens h.1, shared_tokens h.2]
    rfl
  | .call f args =>
    rw [Neutral] at h
    rw [tokens, List.all_append, List.all_append, shared_listTokens h]
    rfl
  | .choice branches otherwise =>
    rw [Neutral] at h
    rw [tokens, List.all_append, List.all_append, List.all_append, shared_branchTokens h.1,
      shared_otherwiseTokens h.2]
    rfl

theorem shared_listTokens {es : List Expr} (h : AllNeutral es) :
    (listTokens es).all Token.isShared = true := by
  match es with
  | [] => rfl
  | [e] =>
    rw [AllNeutral] at h
    exact shared_tokens h.1
  | e :: f :: r =>
    rw [AllNeutral] at h
    rw [listTokens, List.all_append, List.all_append, shared_tokens h.1, shared_listTokens h.2]
    rfl

theorem shared_branchTokens {bs : List (Expr × Expr)} (h : BranchesNeutral bs) :
    (branchTokens bs).all Token.isShared = true := by
  match bs with
  | [] => rfl
  | (g, e) :: r =>
    rw [BranchesNeutral] at h
    obtain ⟨hg, he, hr⟩ := h
    rw [branchTokens, List.all_append, List.all_append, List.all_append, List.all_append,
      shared_tokens hg, shared_tokens he, shared_branchTokens hr]
    rfl

theorem shared_otherwiseTokens {o : Option Expr} (h : OtherwiseNeutral o) :
    (otherwiseTokens o).all Token.isShared = true := by
  match o with
  | none => rfl
  | some e =>
    rw [OtherwiseNeutral] at h
    rw [otherwiseTokens, List.all_append, shared_tokens h]
    rfl

end

end Expr

theorem neutral_conjunction {es : List Expr} (h : ∀ e ∈ es, e.Neutral) :
    ∀ c ∈ conjunction es, c.Neutral := by
  have hand : ∀ (es : List Expr) (c : Expr), c.Neutral → (∀ e ∈ es, e.Neutral) →
      (es.foldl Expr.and c).Neutral := by
    intro es
    induction es with
    | nil => exact fun c hc _ => hc
    | cons e es ih =>
      intro c hc hes
      refine ih _ ?_ fun f hf => hes f (by simp [hf])
      rw [Expr.and, Expr.Neutral]
      exact ⟨hc, hes e (by simp)⟩
  cases es with
  | nil => simp
  | cons e es =>
    rw [conjunction_cons]
    rintro c ⟨⟩
    exact hand es e (h e (by simp)) fun f hf => h f (by simp [hf])

/-! ### Queries -/

namespace Query

/-- No truth value is written out in the items, the conditions and the groups of the query. -/
structure Neutral (q : Query) : Prop where
  items : ∀ i ∈ q.items, i.expr.Neutral
  condition : ∀ e ∈ q.condition, e.Neutral
  groups : ∀ e ∈ q.groups, e.Neutral
  having : ∀ e ∈ q.having, e.Neutral

theorem shared_item {i : SelectItem} (h : i.expr.Neutral) : i.tokens.all Token.isShared = true := by
  rw [SelectItem.tokens, List.all_append, Expr.shared_tokens h]
  cases i.naming <;> rfl

theorem shared_itemTokens {items : List SelectItem} (h : ∀ i ∈ items, i.expr.Neutral) :
    (itemTokens items).all Token.isShared = true := by
  have hmore : ∀ items : List SelectItem, (∀ i ∈ items, i.expr.Neutral) →
      (moreItemTokens items).all Token.isShared = true := by
    intro items h
    induction items with
    | nil => rfl
    | cons i r ih =>
      rw [moreItemTokens, List.all_append, List.all_append, shared_item (h i List.mem_cons_self),
        ih fun j hj => h j (List.mem_cons_of_mem i hj)]
      rfl
  cases items with
  | nil => rfl
  | cons i r =>
    rw [itemTokens, List.all_append, List.all_append, shared_item (h i List.mem_cons_self),
      hmore r fun j hj => h j (List.mem_cons_of_mem i hj)]
    rfl

theorem shared_condition {word : Keyword} {o : Option Expr} (h : ∀ e ∈ o, e.Neutral) :
    (partTokens word Expr.tokens o).all Token.isShared = true := by
  cases o with
  | none => rfl
  | some e =>
    rw [partTokens, List.all_append, Expr.shared_tokens (h e rfl)]
    rfl

theorem shared_groupTokens {es : List Expr} (h : ∀ e ∈ es, e.Neutral) :
    (groupTokens es).all Token.isShared = true := by
  cases es with
  | nil => rfl
  | cons e r =>
    rw [groupTokens, List.all_append, Expr.shared_listTokens (Expr.allNeutral_iff.mpr h)]
    rfl

/-- The part of a statement that names its table, in a dialect. -/
def sourceText (q : Query) (d : Dialect) : String :=
  match q.source with
  | none => ""
  | some t => "\nFROM " ++ d.tableText t

theorem write_source (q : Query) (d : Dialect) :
    write d .bound (partTokens .source (fun t => [.table t]) q.source) = q.sourceText d := by
  rw [sourceText]
  cases q.source with
  | none => rfl
  | some t =>
    rw [← String.toList_inj]
    simp [partTokens, Token.write, Keyword.text]

/-- The tokens in front of the table. -/
def frontTokens (q : Query) : List Token :=
  [.keyword .select] ++ itemTokens q.items

/-- The tokens behind the table. -/
def behindTokens (q : Query) : List Token :=
  partTokens .condition Expr.tokens q.condition ++ groupTokens q.groups ++
    partTokens .having Expr.tokens q.having ++
    match q.limit with
    | none => []
    | some n => .newline :: limitTokens n

theorem Neutral.shared_frontTokens {q : Query} (h : q.Neutral) :
    q.frontTokens.all Token.isShared = true := by
  rw [frontTokens, List.all_append, shared_itemTokens h.items]
  rfl

theorem Neutral.shared_behindTokens {q : Query} (h : q.Neutral) :
    q.behindTokens.all Token.isShared = true := by
  rw [behindTokens, List.all_append, List.all_append, List.all_append,
    shared_condition h.condition, shared_groupTokens h.groups, shared_condition h.having]
  cases q.limit <;> rfl

theorem sql_eq_write (q : Query) (d : Dialect) :
    q.sql d = write d .bound q.frontTokens ++ q.sourceText d ++ write d .bound q.behindTokens := by
  cases hlimit : q.limit <;>
    simp only [sql, tokens, frontTokens, behindTokens, hlimit, write_append, write_source,
      String.append_assoc]

/-- The statement of a neutral query in any dialect: the part that names its table, if it has one,
stands between two texts that all dialects share. -/
theorem Neutral.sql_eq {q : Query} (h : q.Neutral) :
    ∃ front behind, ∀ d : Dialect, q.sql d = front ++ q.sourceText d ++ behind := by
  refine ⟨write .sqlite .bound q.frontTokens, write .sqlite .bound q.behindTokens, fun d => ?_⟩
  rw [sql_eq_write, write_of_shared h.shared_frontTokens d .sqlite,
    write_of_shared h.shared_behindTokens d .sqlite]

/-- A truth value that is written out has a spelling of its own in each dialect. -/
example :
    let q : Query := { items := [⟨.literal (.bool true), none⟩] }
    q.sql .sqlite = "SELECT\n  1" ∧ q.sql .snowflake = "SELECT\n  true" := by
  decide +kernel

/-- The statement of a neutral query over a table: the dialects share all but the name. -/
theorem Neutral.sql_eq_of_source {q : Query} (h : q.Neutral) {t : String}
    (ht : q.source = some t) :
    ∃ front behind, ∀ d : Dialect, q.sql d = front ++ d.tableText t ++ behind := by
  obtain ⟨front, behind, hq⟩ := h.sql_eq
  refine ⟨front ++ "\nFROM ", behind, fun d => ?_⟩
  rw [hq, sourceText, ht]
  simp only [String.append_assoc]

end Query

end LedgerQuery.Sql
