import LedgerQuery.Proofs.Sql.Conditions

/-!
# Clauses

A statement is a list of clauses, one below the other. Each starts with a word of its own, and no
expression holds such a word. So the clauses of a statement can be told from its tokens.

* `Query.tokens_eq_clauses`: the tokens of a query, clause by clause.
* `Query.clauseWords_tokens`: the words that start a clause, as they stand among its tokens.
* `Query.word_clauses_sublist`: each clause stands at most once, and all in one order.
* `Query.params_eq`: the bound values of a query, clause by clause.
-/

namespace LedgerQuery.Sql

/-- The words that start a clause, in the order of the clauses. -/
def clauseWords : List Keyword :=
  [.select, .source, .condition, .grouping, .having, .limit]

/-- The word of the clause that starts with a token. -/
def Token.clauseWord? : Token → Option Keyword
  | .keyword w => if w ∈ clauseWords then some w else none
  | _ => none

/-- A clause: a word and what stands behind it. -/
structure Clause where
  word : Keyword
  body : List Token
  deriving DecidableEq

/-- The tokens of a clause. -/
def Clause.tokens (c : Clause) : List Token :=
  .keyword c.word :: c.body

/-- The clause of a part that may be missing. -/
def partClause {α : Type} (word : Keyword) (tokens : α → List Token) (o : Option α) : List Clause :=
  o.toList.map fun a => ⟨word, .space :: tokens a⟩

/-- A list that is not empty. -/
def nonempty {α : Type} (l : List α) : Option (List α) :=
  Option.guard (fun l => !l.isEmpty) l

@[simp] theorem nonempty_nil {α : Type} : nonempty ([] : List α) = none := rfl

@[simp] theorem nonempty_cons {α : Type} (a : α) (l : List α) : nonempty (a :: l) = some (a :: l) :=
  rfl

/-- Lists with a separator between them: the first one, and each other one behind a separator. -/
theorem intercalate_cons {α : Type} (sep l : List α) (ls : List (List α)) :
    List.intercalate sep (l :: ls) = l ++ ls.flatMap (sep ++ ·) := by
  induction ls generalizing l with
  | nil => simp
  | cons m ls ih => rw [List.intercalate_cons_cons, ih, List.flatMap_cons, List.append_assoc,
      List.append_assoc]

/-! ### Expressions hold no clause -/

namespace Expr

mutual

/-- No token of an expression starts a clause. -/
theorem clauseWord_tokens (e : Expr) : ∀ t ∈ e.tokens, t.clauseWord? = none := by
  cases e with
  | column _ | literal _ | param _ | star => simp [tokens, Token.clauseWord?]
  | binary l op r =>
    simp only [tokens, List.forall_mem_append]
    exact ⟨⟨clauseWord_tokens l, by simp [Token.clauseWord?]⟩, clauseWord_tokens r⟩
  | call f args =>
    simp only [tokens, List.forall_mem_append]
    exact ⟨⟨by simp [Token.clauseWord?], clauseWord_listTokens args⟩, by decide⟩
  | choice branches otherwise =>
    simp only [tokens, List.forall_mem_append]
    exact ⟨⟨⟨by decide, clauseWord_branchTokens branches⟩, clauseWord_otherwiseTokens otherwise⟩,
      by decide⟩

theorem clauseWord_listTokens (es : List Expr) : ∀ t ∈ listTokens es, t.clauseWord? = none := by
  match es with
  | [] => simp [listTokens]
  | [e] => exact clauseWord_tokens e
  | e :: f :: r =>
    simp only [listTokens, List.forall_mem_append]
    exact ⟨⟨clauseWord_tokens e, by decide⟩, clauseWord_listTokens (f :: r)⟩

theorem clauseWord_branchTokens (bs : List (Expr × Expr)) :
    ∀ t ∈ branchTokens bs, t.clauseWord? = none := by
  match bs with
  | [] => simp [branchTokens]
  | (g, e) :: r =>
    simp only [branchTokens, List.forall_mem_append]
    exact ⟨⟨⟨⟨by decide, clauseWord_tokens g⟩, by decide⟩, clauseWord_tokens e⟩,
      clauseWord_branchTokens r⟩

theorem clauseWord_otherwiseTokens (o : Option Expr) :
    ∀ t ∈ otherwiseTokens o, t.clauseWord? = none := by
  match o with
  | none => simp [otherwiseTokens]
  | some e =>
    simp only [otherwiseTokens, List.forall_mem_append]
    exact ⟨by decide, clauseWord_tokens e⟩

end

end Expr

theorem clauseWord_item (i : SelectItem) : ∀ t ∈ i.tokens, t.clauseWord? = none := by
  rw [SelectItem.tokens, List.forall_mem_append]
  refine ⟨i.expr.clauseWord_tokens, ?_⟩
  cases i.naming <;> simp [Token.clauseWord?, clauseWords]

theorem clauseWord_itemTokens (is : List SelectItem) :
    ∀ t ∈ Query.itemTokens is, t.clauseWord? = none := by
  have hmore : ∀ is : List SelectItem, ∀ t ∈ Query.moreItemTokens is, t.clauseWord? = none := by
    intro is
    induction is with
    | nil => simp [Query.moreItemTokens]
    | cons i is ih =>
      simp only [Query.moreItemTokens, List.forall_mem_append]
      exact ⟨⟨by decide, clauseWord_item i⟩, ih⟩
  cases is with
  | nil => decide
  | cons i is =>
    simp only [Query.itemTokens, List.forall_mem_append]
    exact ⟨⟨by decide, clauseWord_item i⟩, hmore is⟩

/-! ### Clause by clause -/

/-- A clause that starts with one of the words and holds no other. -/
structure Clause.Single (c : Clause) : Prop where
  word : c.word ∈ clauseWords
  body : ∀ t ∈ c.body, t.clauseWord? = none

theorem Clause.Single.clauseWords_tokens {c : Clause} (h : c.Single) :
    c.tokens.filterMap Token.clauseWord? = [c.word] := by
  have hword : Token.clauseWord? (.keyword c.word) = some c.word := if_pos h.word
  rw [Clause.tokens, List.filterMap_cons_some hword, List.filterMap_eq_nil_iff.mpr h.body]

theorem clauseWords_intercalate {cs : List Clause} (h : ∀ c ∈ cs, c.Single) :
    (List.intercalate [.newline] (cs.map Clause.tokens)).filterMap Token.clauseWord? =
      cs.map Clause.word := by
  cases cs with
  | nil => rfl
  | cons c cs =>
    have hrest : (cs.map Clause.tokens).flatMap (fun ts =>
        ([.newline] ++ ts).filterMap Token.clauseWord?) = cs.map Clause.word := by
      rw [List.flatMap_map, List.map_eq_flatMap]
      refine congrArg List.flatten (List.map_congr_left fun d hd => ?_)
      rw [List.filterMap_append, (h d (List.mem_cons_of_mem c hd)).clauseWords_tokens]
      rfl
    rw [List.map_cons, intercalate_cons, List.filterMap_append, List.filterMap_flatMap, hrest,
      (h c List.mem_cons_self).clauseWords_tokens]
    rfl

theorem single_partClause {α : Type} {word : Keyword} {tokens : α → List Token}
    (hw : word ∈ clauseWords) (ht : ∀ a, ∀ t ∈ tokens a, t.clauseWord? = none) (o : Option α) :
    ∀ c ∈ partClause word tokens o, c.Single := by
  rw [partClause, List.forall_mem_map]
  intro a _
  refine ⟨hw, ?_⟩
  rw [List.forall_mem_cons]
  exact ⟨rfl, ht a⟩

theorem partTokens_eq_partClause {α : Type} (word : Keyword) (tokens : α → List Token)
    (o : Option α) : Query.partTokens word tokens o =
      ((partClause word tokens o).map Clause.tokens).flatMap ([.newline] ++ ·) := by
  cases o <;> simp [Query.partTokens, partClause, Clause.tokens]

theorem word_partClause {α : Type} (word : Keyword) (tokens : α → List Token) (o : Option α) :
    ((partClause word tokens o).map Clause.word).Sublist [word] := by
  cases o <;> simp [partClause]

namespace Query

/-- The clauses of a query. -/
def clauses (q : Query) : List Clause :=
  ⟨.select, itemTokens q.items⟩ ::
    (partClause .source (fun t => [.table t]) q.source ++
      partClause .condition Expr.tokens q.condition ++
      partClause .grouping Expr.listTokens (nonempty q.groups) ++
      partClause .having Expr.tokens q.having ++
      partClause .limit (fun n => [.literal (.int n.toInt64.toInt)]) q.limit)

/-- The tokens of a query are its clauses, one below the other. -/
theorem tokens_eq_clauses (q : Query) :
    q.tokens = List.intercalate [.newline] (q.clauses.map Clause.tokens) := by
  have hgroups : groupTokens q.groups =
      partTokens .grouping Expr.listTokens (nonempty q.groups) := by
    cases q.groups <;> rfl
  rw [clauses, List.map_cons, intercalate_cons, tokens, hgroups]
  simp only [partTokens_eq_partClause, List.map_append, List.flatMap_append, Clause.tokens,
    List.append_assoc, List.cons_append, List.nil_append]
  cases q.limit <;> rfl

theorem single_clauses (q : Query) : ∀ c ∈ q.clauses, c.Single := by
  have hitems : Clause.Single ⟨.select, itemTokens q.items⟩ :=
    ⟨List.mem_cons_self, clauseWord_itemTokens q.items⟩
  simp only [clauses, List.forall_mem_cons, List.forall_mem_append]
  exact ⟨hitems, ⟨⟨⟨single_partClause (by decide) (by simp [Token.clauseWord?]) _,
    single_partClause (by decide) Expr.clauseWord_tokens _⟩,
    single_partClause (by decide) Expr.clauseWord_listTokens _⟩,
    single_partClause (by decide) Expr.clauseWord_tokens _⟩,
    single_partClause (by decide) (by simp [Token.clauseWord?]) _⟩

/-- The words that start a clause, as they stand among the tokens, are those of the clauses. -/
theorem clauseWords_tokens (q : Query) :
    q.tokens.filterMap Token.clauseWord? = q.clauses.map Clause.word := by
  rw [tokens_eq_clauses, clauseWords_intercalate q.single_clauses]

/-- A word that starts a clause stands among the tokens exactly if its clause does. -/
theorem keyword_mem_tokens_iff (q : Query) {w : Keyword} (hw : w ∈ clauseWords) :
    .keyword w ∈ q.tokens ↔ w ∈ q.clauses.map Clause.word := by
  rw [← clauseWords_tokens, List.mem_filterMap]
  constructor
  · intro h
    exact ⟨_, h, if_pos hw⟩
  · rintro ⟨t, ht, hword⟩
    cases t with
    | keyword v =>
      obtain ⟨-, hv⟩ := Option.ite_none_right_eq_some.mp hword
      rw [Option.some_inj] at hv
      rwa [← hv]
    | _ => cases hword

/-- Each clause stands at most once, and all of them in one order. -/
theorem word_clauses_sublist (q : Query) : (q.clauses.map Clause.word).Sublist clauseWords := by
  simp only [clauses, List.map_cons, List.map_append, List.append_assoc]
  refine List.Sublist.cons_cons Keyword.select ?_
  show List.Sublist _
    ([Keyword.source] ++ ([.condition] ++ ([.grouping] ++ ([.having] ++ [.limit]))))
  exact (word_partClause ..).append <| (word_partClause ..).append <| (word_partClause ..).append <|
    (word_partClause ..).append (word_partClause ..)

end Query

/-! ### Bound values -/

theorem params_listTokens (es : List Expr) :
    params (Expr.listTokens es) = es.flatMap fun e => params e.tokens := by
  induction es with
  | nil => rfl
  | cons e es ih =>
    cases es with
    | nil => simp [Expr.listTokens]
    | cons f es =>
      rw [Expr.listTokens, params_append, params_append, ih, List.flatMap_cons]
      simp [params, Token.param?]

theorem params_item (i : SelectItem) : params i.tokens = params i.expr.tokens := by
  rw [SelectItem.tokens, params_append]
  cases i.naming <;> simp [params, Token.param?]

theorem params_itemTokens (is : List SelectItem) :
    params (Query.itemTokens is) = is.flatMap fun i => params i.expr.tokens := by
  have hmore : ∀ is : List SelectItem,
      params (Query.moreItemTokens is) = is.flatMap fun i => params i.expr.tokens := by
    intro is
    induction is with
    | nil => rfl
    | cons i is ih =>
      rw [Query.moreItemTokens, params_append, params_append, params_item, ih, List.flatMap_cons]
      simp [params, Token.param?]
  cases is with
  | nil => rfl
  | cons i is =>
    rw [Query.itemTokens, params_append, params_append, params_item, hmore, List.flatMap_cons]
    simp [params, Token.param?]

/-- The values bound to a query, clause by clause. -/
theorem Query.params_eq (q : Query) :
    q.params = (q.items.flatMap fun i => Sql.params i.expr.tokens) ++
      Sql.params (partTokens .condition Expr.tokens q.condition) ++
      (q.groups.flatMap fun e => Sql.params e.tokens) ++
      q.having.toList.flatMap fun e => Sql.params e.tokens := by
  have hsource : Sql.params (partTokens .source (fun t => [Token.table t]) q.source) = [] := by
    cases q.source <;> rfl
  have hgroups : Sql.params (groupTokens q.groups) =
      q.groups.flatMap fun e => Sql.params e.tokens := by
    rw [← params_listTokens]
    cases q.groups <;> rfl
  have hhaving : Sql.params (partTokens .having Expr.tokens q.having) =
      q.having.toList.flatMap fun e => Sql.params e.tokens := by
    cases q.having with
    | none => rfl
    | some e => exact (List.append_nil _).symm
  simp only [params, tokens, params_append, params_itemTokens, hsource, hgroups, hhaving,
    List.append_nil]
  -- a limit binds no value
  cases q.limit <;> exact List.append_nil _

end LedgerQuery.Sql
