import LedgerQuery.Proofs.Sql.Reading

/-!
# What an expression is read as

A rendered expression is always read as one whole expression, though not always as itself: an
operand that binds too loosely for its place is torn apart. The expressions that are read as
themselves are those in which every operand binds tightly enough; every other one has the tokens of
one of these.

* `Expr.Normal`: every operand binds tightly enough for its place.
* `Reading.parse_of_normal`: such an expression is read as itself.
* `Expr.regroup`: the expression of this kind with the same tokens.
* `Reading.parse_tokens`: an expression is read as its regrouping.
-/

namespace LedgerQuery.Sql

namespace Expr

/-- How tightly an expression holds together: as its outermost operator, more than any operator if
it has none. -/
def rank : Expr → Nat
  | .binary _ op _ => op.level
  | _ => 4

mutual

/-- In every operator of the expression, the left operand binds at least as tightly as the operator
and the right operand binds more tightly. -/
def Normal : Expr → Prop
  | .binary l op r => l.Normal ∧ r.Normal ∧ op.level ≤ l.rank ∧ op.level < r.rank
  | .call _ args => AllNormal args
  | .choice branches otherwise => BranchesNormal branches ∧ OtherwiseNormal otherwise
  | _ => True

/-- All expressions of a list are normal. -/
def AllNormal : List Expr → Prop
  | [] => True
  | e :: es => e.Normal ∧ AllNormal es

/-- All guards and outcomes are normal. -/
def BranchesNormal : List (Expr × Expr) → Prop
  | [] => True
  | b :: bs => b.1.Normal ∧ b.2.Normal ∧ BranchesNormal bs

/-- The last part of a choice is normal, if there is one. -/
def OtherwiseNormal : Option Expr → Prop
  | none => True
  | some e => e.Normal

end

/-- Without an operator of its own, an expression binds more tightly than any operator. -/
theorem level_lt_rank (op : Operator) {e : Expr} (he : ∀ l o r, e ≠ .binary l o r) :
    op.level < e.rank := by
  have hop : op.level < 4 := by cases op <;> decide
  cases e with
  | binary l o r => exact absurd rfl (he l o r)
  | _ => exact hop

end Expr

/-- The token is neither a space nor an operator. -/
def Token.isMark : Token → Bool
  | .space | .operator _ => false
  | _ => true

namespace Reading

/-! ### Reading lists behind each other -/

/-- The tokens lead from one state to another. -/
def Reads (a : State) (ts : List Token) (b : State) : Prop :=
  ts.foldlM step a = some b

variable {a b c : State}

theorem reads_nil (a : State) : Reads a [] a := rfl

theorem Reads.append {ts us : List Token} (h : Reads a ts b) (h' : Reads b us c) :
    Reads a (ts ++ us) c := by
  rw [Reads, List.foldlM_append, h]
  exact h'

theorem reads_one {t : Token} (h : step a t = some b) : Reads a [t] b := by
  rw [Reads, List.foldlM_cons, h]
  rfl

theorem reads_space (a : State) : Reads a [.space] a := rfl

/-- A token with a space on either side. -/
theorem reads_spaced {t : Token} (h : step a t = some b) : Reads a [.space, t, .space] b :=
  ((reads_space a).append (reads_one h)).append (reads_space b)

/-! ### Reading a normal expression -/

/-- The operator that waits on top of the frames, if one does, binds less tightly than a level. -/
def Below (level : Nat) : List Frame → Prop
  | .left _ op :: _ => op.level < level
  | _ => True

theorem Below.mono {m n : Nat} (h : m ≤ n) {s : List Frame} (hs : Below m s) : Below n s := by
  cases s with
  | nil => trivial
  | cons f s =>
    cases f with
    | left l op => exact Nat.lt_of_lt_of_le hs h
    | _ => trivial

/-- Operators that bind less tightly keep waiting. -/
theorem settle_of_below {level : Nat} {s : List Frame} (hs : Below level s) (e : Expr) :
    settle level s e = (s, e) := by
  cases s with
  | nil => rfl
  | cons f s =>
    cases f with
    | left l op => exact if_neg (Nat.not_le.mpr hs)
    | _ => rfl

/-- The operators on the right edge of an expression, the innermost first. -/
def spine : Expr → List Frame
  | .binary l op r => spine r ++ [.left l op]
  | _ => []

/-- The operand at the right end of an expression. -/
def tip : Expr → Expr
  | .binary _ _ r => tip r
  | e => e

/-- Behind its last token, an expression is put together as soon as its level is asked for. -/
theorem settle_spine {e : Expr} (he : e.Normal) {level : Nat} (hl : level ≤ e.rank)
    (s : List Frame) : settle level (spine e ++ s) (tip e) = settle level s e := by
  match e with
  | .binary l op r =>
    rw [Expr.Normal] at he
    obtain ⟨-, hr, -, hlt⟩ := he
    have hop : level ≤ op.level := hl
    -- first the right side, whose operators all bind more tightly
    rw [spine, tip, List.append_assoc, settle_spine hr (Nat.le_trans hop (Nat.le_of_lt hlt))]
    exact if_pos hop
  | .column _ | .literal _ | .param _ | .call .. | .choice .. | .star => rfl

/-- A choice is about to go on: it has some branches, perhaps the last one yet to be put together,
and waits for the next word. -/
def AtBranch (st : State) (s : List Frame) (done : List (Expr × Expr)) : Prop :=
  ∀ w, step st (.keyword w) = branches s done (.keyword w)

/-- The end of an expression is the end of what has been read of it. -/
theorem step_whole {e : Expr} (he : e.Normal) (s : List Frame) (hs : Below 0 s) {t : Token}
    (ht : t.isMark = true) : step ⟨spine e ++ s, .whole (tip e)⟩ t = closes s e t := by
  have hsettle : settle 0 (spine e ++ s) (tip e) = (s, e) := by
    rw [settle_spine he (Nat.zero_le _), settle_of_below hs]
  cases t with
  | space | operator _ => exact absurd ht Bool.false_ne_true
  | _ => simp only [step, hsettle]

/-- An operator takes the expression before it as its left side. -/
theorem step_operator {l : Expr} {op : Operator} (hl : l.Normal) (hle : op.level ≤ l.rank)
    {s : List Frame} (hs : Below op.level s) :
    step ⟨spine l ++ s, .whole (tip l)⟩ (.operator op) = some ⟨.left l op :: s, .nothing⟩ := by
  have hsettle : settle op.level (spine l ++ s) (tip l) = (s, l) := by
    rw [settle_spine hl hle, settle_of_below hs]
  simp only [step, hsettle]

mutual

/-- A normal expression is read up to its right end, and with its operators on the frames. -/
theorem read_tokens {e : Expr} (he : e.Normal) (s : List Frame) (hs : Below e.rank s) :
    Reads ⟨s, .nothing⟩ e.tokens ⟨spine e ++ s, .whole (tip e)⟩ := by
  match e with
  | .column _ | .literal _ | .param _ | .star => rfl
  | .binary l op r =>
    rw [Expr.Normal] at he
    obtain ⟨hl, hr, hle, hlt⟩ := he
    have hleft := read_tokens hl s (hs.mono hle)
    have hop := reads_spaced (step_operator hl hle hs)
    have hright := read_tokens hr (.left l op :: s) hlt
    rw [Expr.tokens, spine, tip, List.append_assoc (spine r)]
    exact (hleft.append hop).append hright
  | .call f args =>
    rw [Expr.Normal] at he
    have hname : Reads ⟨s, .nothing⟩ [.function f, .opening] ⟨.args f [] :: s, .nothing⟩ := rfl
    rw [Expr.tokens, List.append_assoc]
    exact hname.append (read_listTokens he f (fun _ => rfl) s)
  | .choice bs o =>
    rw [Expr.Normal] at he
    have hword : Reads ⟨s, .nothing⟩ [.keyword .choice] ⟨s, .between []⟩ := rfl
    have hstart : AtBranch ⟨s, .between []⟩ s [] := fun w => rfl
    obtain ⟨st, hbs, hst⟩ := read_branchTokens he.1 hstart
    have ho := read_otherwiseTokens he.2 hst
    rw [Expr.tokens, List.append_assoc]
    exact (hword.append hbs).append ho

/-- The rest of the arguments, up to the parenthesis behind them. -/
theorem read_listTokens {es : List Expr} (hes : Expr.AllNormal es) (f : String)
    {done : List Expr} (hdone : es = [] → done = []) (s : List Frame) :
    Reads ⟨.args f done :: s, .nothing⟩ (Expr.listTokens es ++ [.closing])
      ⟨s, .whole (.call f (done ++ es))⟩ := by
  match es with
  | [] =>
    rw [hdone rfl]
    rfl
  | [e] =>
    rw [Expr.AllNormal] at hes
    have he := read_tokens hes.1 (.args f done :: s) trivial
    exact he.append (reads_one (step_whole hes.1 (.args f done :: s) trivial rfl))
  | e :: e' :: es =>
    rw [Expr.AllNormal] at hes
    have he := read_tokens hes.1 (.args f done :: s) trivial
    have hcomma : Reads ⟨spine e ++ .args f done :: s, .whole (tip e)⟩ [.comma]
        ⟨.args f (done ++ [e]) :: s, .nothing⟩ :=
      reads_one (step_whole hes.1 (.args f done :: s) trivial rfl)
    have hdone' : e' :: es = [] → done ++ [e] = [] := fun h => absurd h (List.cons_ne_nil e' es)
    have hrest := read_listTokens hes.2 f hdone' s
    rw [Expr.listTokens, List.append_assoc]
    rw [List.append_assoc] at hrest
    exact (he.append (hcomma.append (reads_space _))).append hrest

/-- The rest of the branches. -/
theorem read_branchTokens {bs : List (Expr × Expr)} (hbs : Expr.BranchesNormal bs) {st : State}
    {s : List Frame} {done : List (Expr × Expr)} (hst : AtBranch st s done) :
    ∃ st', Reads st (Expr.branchTokens bs) st' ∧ AtBranch st' s (done ++ bs) := by
  match bs with
  | [] => exact ⟨st, reads_nil st, by rwa [List.append_nil]⟩
  | (g, e) :: bs =>
    rw [Expr.BranchesNormal] at hbs
    obtain ⟨hg, he, hbs⟩ := hbs
    have hwhen := reads_spaced (hst .guard)
    have hguard := read_tokens hg (.guard done :: s) trivial
    have hthen : Reads ⟨spine g ++ .guard done :: s, .whole (tip g)⟩
        [.space, .keyword .outcome, .space] ⟨.outcome done g :: s, .nothing⟩ :=
      reads_spaced (step_whole hg (.guard done :: s) trivial rfl)
    have houtcome := read_tokens he (.outcome done g :: s) trivial
    -- behind the outcome the choice stands between two branches again
    have hnext : AtBranch ⟨spine e ++ .outcome done g :: s, .whole (tip e)⟩ s
        (done ++ [(g, e)]) := fun w =>
      step_whole he (.outcome done g :: s) trivial rfl
    obtain ⟨st', hrest, hst'⟩ := read_branchTokens hbs hnext
    rw [List.append_assoc] at hst'
    exact ⟨st', (((hwhen.append hguard).append hthen).append houtcome).append hrest, hst'⟩

/-- The last part of a choice, up to the word behind it. -/
theorem read_otherwiseTokens {o : Option Expr} (ho : Expr.OtherwiseNormal o) {st : State}
    {s : List Frame} {done : List (Expr × Expr)} (hst : AtBranch st s done) :
    Reads st (Expr.otherwiseTokens o ++ [.space, .keyword .closing])
      ⟨s, .whole (.choice done o)⟩ := by
  match o with
  | none => exact (reads_space st).append (reads_one (hst .closing))
  | some e =>
    have he : e.Normal := ho
    have helse := reads_spaced (hst .otherwise)
    have hlast := read_tokens he (.otherwise done :: s) trivial
    have hend : Reads ⟨spine e ++ .otherwise done :: s, .whole (tip e)⟩ [.keyword .closing]
        ⟨s, .whole (.choice done (some e))⟩ :=
      reads_one (step_whole he (.otherwise done :: s) trivial rfl)
    exact (helse.append hlast).append ((reads_space _).append hend)

end

/-- A normal expression is read as itself. -/
theorem parse_of_normal {e : Expr} (he : e.Normal) : parse e.tokens = some e := by
  have hread : Reads ⟨[], .nothing⟩ e.tokens ⟨spine e ++ [], .whole (tip e)⟩ :=
    read_tokens he [] trivial
  have hend : settle 0 (spine e ++ []) (tip e) = ([], e) := settle_spine he (Nat.zero_le _) []
  rw [parse, hread, Option.bind_some]
  simp only [finish, hend]

end Reading

namespace Expr

/-! ### Regrouping -/

/-- Puts an operator and its right side behind an expression: around it if it binds tightly enough,
else around its right side. -/
def push : Expr → Operator → Expr → Expr
  | .binary l o m, op, r =>
    if op.level ≤ o.level then .binary (.binary l o m) op r else .binary l o (push m op r)
  | l, op, r => .binary l op r

/-- Puts one expression behind another with an operator between them, operator by operator. -/
def join (l : Expr) (op : Operator) : Expr → Expr
  | .binary m o r => push (join l op m) o r
  | r => push l op r

mutual

/-- The expression with the same tokens in which every operand binds tightly enough. -/
def regroup : Expr → Expr
  | .binary l op r => join l.regroup op r.regroup
  | .call f args => .call f (regroupAll args)
  | .choice branches otherwise => .choice (regroupBranches branches) (regroupOtherwise otherwise)
  | e => e

/-- All expressions of a list. -/
def regroupAll : List Expr → List Expr
  | [] => []
  | e :: es => e.regroup :: regroupAll es

/-- All guards and outcomes. -/
def regroupBranches : List (Expr × Expr) → List (Expr × Expr)
  | [] => []
  | b :: bs => (b.1.regroup, b.2.regroup) :: regroupBranches bs

/-- The last part of a choice, if there is one. -/
def regroupOtherwise : Option Expr → Option Expr
  | none => none
  | some e => some e.regroup

end

theorem tokens_push (l : Expr) (op : Operator) (r : Expr) :
    (push l op r).tokens = (binary l op r).tokens := by
  fun_induction push l op r with
  | case1 => rfl
  | case2 l o m op r h ih => simp only [tokens, ih, List.append_assoc]
  | case3 => rfl

theorem tokens_join (l : Expr) (op : Operator) (r : Expr) :
    (join l op r).tokens = (binary l op r).tokens := by
  fun_induction join l op r with
  | case1 m o r ih => simp only [tokens_push, tokens, ih, List.append_assoc]
  | case2 r h => exact tokens_push l op r

/-- What is put behind an expression lowers its rank to its own at most. -/
theorem le_rank_push {k : Nat} {l : Expr} {op : Operator} (r : Expr) (hl : k ≤ l.rank)
    (hop : k ≤ op.level) : k ≤ (push l op r).rank := by
  fun_cases push l op r with
  | case1 => exact hop
  | case2 => exact hl
  | case3 => exact hop

theorem normal_push {l : Expr} {op : Operator} {r : Expr} (hl : l.Normal) (hr : r.Normal)
    (hlt : op.level < r.rank) : (push l op r).Normal := by
  fun_induction push l op r with
  | case1 l o m op r h => exact ⟨hl, hr, h, hlt⟩
  | case2 l o m op r h ih =>
    rw [Normal] at hl
    obtain ⟨hl, hm, hle, hom⟩ := hl
    -- the inner operator stays outermost, as the new one binds more tightly
    exact ⟨hl, ih hm hr hlt, hle, le_rank_push r hom (Nat.lt_of_not_le h)⟩
  | case3 l op r h => exact ⟨hl, hr, Nat.le_of_lt (level_lt_rank op h), hlt⟩

theorem normal_join {l : Expr} {r : Expr} (op : Operator) (hl : l.Normal) (hr : r.Normal) :
    (join l op r).Normal := by
  fun_induction join l op r with
  | case1 m o r ih =>
    rw [Normal] at hr
    obtain ⟨hm, hr, -, hlt⟩ := hr
    exact normal_push (ih hm) hr hlt
  | case2 r h => exact normal_push hl hr (level_lt_rank op h)

mutual

theorem tokens_regroup (e : Expr) : e.regroup.tokens = e.tokens := by
  match e with
  | .binary l op r =>
    rw [regroup, tokens_join, tokens, tokens, tokens_regroup l, tokens_regroup r]
  | .call f args => rw [regroup, tokens, tokens, listTokens_regroupAll args]
  | .choice bs o =>
    rw [regroup, tokens, tokens, branchTokens_regroupBranches bs,
      otherwiseTokens_regroupOtherwise o]
  | .column _ | .literal _ | .param _ | .star => rfl

theorem listTokens_regroupAll (es : List Expr) : listTokens (regroupAll es) = listTokens es := by
  match es with
  | [] => rfl
  | [e] => exact tokens_regroup e
  | e :: e' :: es =>
    have hrest := listTokens_regroupAll (e' :: es)
    rw [regroupAll] at hrest
    rw [regroupAll, regroupAll, listTokens, listTokens, hrest, tokens_regroup e]

theorem branchTokens_regroupBranches (bs : List (Expr × Expr)) :
    branchTokens (regroupBranches bs) = branchTokens bs := by
  match bs with
  | [] => rfl
  | (g, e) :: bs =>
    rw [regroupBranches, branchTokens, branchTokens, tokens_regroup g, tokens_regroup e,
      branchTokens_regroupBranches bs]

theorem otherwiseTokens_regroupOtherwise (o : Option Expr) :
    otherwiseTokens (regroupOtherwise o) = otherwiseTokens o := by
  match o with
  | none => rfl
  | some e => rw [regroupOtherwise, otherwiseTokens, otherwiseTokens, tokens_regroup e]

end

mutual

theorem normal_regroup (e : Expr) : e.regroup.Normal := by
  match e with
  | .binary l op r => exact normal_join op (normal_regroup l) (normal_regroup r)
  | .call f args => exact allNormal_regroupAll args
  | .choice bs o => exact ⟨branchesNormal_regroupBranches bs, otherwiseNormal_regroupOtherwise o⟩
  | .column _ | .literal _ | .param _ | .star => trivial

theorem allNormal_regroupAll (es : List Expr) : AllNormal (regroupAll es) := by
  match es with
  | [] => trivial
  | e :: es => exact ⟨normal_regroup e, allNormal_regroupAll es⟩

theorem branchesNormal_regroupBranches (bs : List (Expr × Expr)) :
    BranchesNormal (regroupBranches bs) := by
  match bs with
  | [] => trivial
  | (g, e) :: bs =>
    exact ⟨normal_regroup g, normal_regroup e, branchesNormal_regroupBranches bs⟩

theorem otherwiseNormal_regroupOtherwise (o : Option Expr) :
    OtherwiseNormal (regroupOtherwise o) := by
  match o with
  | none => trivial
  | some e => exact normal_regroup e

end

end Expr

namespace Reading

/-- An expression is read as its regrouping. -/
theorem parse_tokens (e : Expr) : parse e.tokens = some e.regroup := by
  rw [← e.tokens_regroup]
  exact parse_of_normal e.normal_regroup

example : parse ((Expr.column "a").mul ((Expr.column "b").gt (.column "c"))).tokens =
    some (((Expr.column "a").mul (.column "b")).gt (.column "c")) := rfl

/-- Normal expressions and no others are read as themselves. -/
theorem parse_tokens_eq_self {e : Expr} : parse e.tokens = some e ↔ e.Normal := by
  refine ⟨fun h => ?_, parse_of_normal⟩
  rw [parse_tokens, Option.some_inj] at h
  rw [← h]
  exact e.normal_regroup

/-- Regrouping changes nothing exactly where nothing is torn apart. -/
theorem regroup_eq_self {e : Expr} : e.regroup = e ↔ e.Normal := by
  rw [← parse_tokens_eq_self, parse_tokens, Option.some_inj]

end Reading

end LedgerQuery.Sql
