import Mathlib.Algebra.Order.Ring.Int
import LedgerQuery.Compile
import LedgerQuery.Proofs.Decimal.Numerals
import LedgerQuery.Store.Execute

/-!
# How many rows are asked for

A limit is a number without sign of 64 bits that is written as one with a sign. In the lower half of
the range the number that is written is the one that was given; in the upper half it is negative.
A store treats a negative limit as none, so there the rows are not limited at all.

* `Sql.Query.write_withLimit`, `Descriptor.sample_sql`: where the limit of a query is written.
* `Store.Plan.run_of_limitedTo`: what a limit does to the answer of the store.
* `Sql.limit_caps_iff`: the limit that is written, and for which numbers it limits the rows.
-/

namespace LedgerQuery

/-! ### The number that is written -/

namespace Sql

/-- The number that a limit is written as: in the upper half of its range it is negative. -/
def limitNumber (n : UInt64) : Int :=
  if n.toNat < 2 ^ 63 then n.toNat else n.toNat - 2 ^ 64

theorem toInt_toInt64 (n : UInt64) : n.toInt64.toInt = limitNumber n := by
  have hn : n.toNat < 2 ^ 64 := n.toNat_lt
  rw [← Int64.toInt_toBitVec, UInt64.toBitVec_toInt64, BitVec.toInt_eq_toNat_cond,
    UInt64.toNat_toBitVec, limitNumber]
  split <;> split <;> omega

theorem limitNumber_neg_iff (n : UInt64) : limitNumber n < 0 ↔ 2 ^ 63 ≤ n.toNat := by
  have hn : n.toNat < 2 ^ 64 := n.toNat_lt
  rw [limitNumber]
  split <;> omega

theorem limitNumber_eq_iff (n : UInt64) : limitNumber n = n.toNat ↔ n.toNat < 2 ^ 63 := by
  rw [limitNumber]
  split <;> omega

/-- The query without a limit. -/
def Query.unlimited (q : Query) : Query := { q with limit := none }

/-- A limit is written behind everything else. -/
theorem Query.write_withLimit (q : Query) (n : UInt64) (dialect : Dialect) (mode : Mode) :
    write dialect mode (q.withLimit n).tokens =
      write dialect mode q.unlimited.tokens ++ "\nLIMIT " ++ Decimal.intText (limitNumber n) := by
  have htokens : (q.withLimit n).tokens = q.unlimited.tokens ++ (.newline :: limitTokens n) := by
    simp only [tokens, withLimit, unlimited, List.append_nil]
  have hlimit : write dialect mode (.newline :: limitTokens n) =
      "\nLIMIT " ++ Decimal.intText (limitNumber n) := by
    rw [← toInt_toInt64, ← String.toList_inj]
    simp [limitTokens, Token.write, Keyword.text, Literal.write]
  rw [htokens, write_append, hlimit, String.append_assoc]

end Sql

/-- The statement of the sample rows, written out. -/
theorem Descriptor.sample_sql (d : Descriptor) (dialect : Sql.Dialect) (n : UInt64) :
    (d.sample dialect n).sql = "SELECT *\nFROM " ++ dialect.tableText d.table.name ++ "\nLIMIT " ++
      Decimal.intText (Sql.limitNumber n) := by
  have hall : Sql.write dialect .bound (({} : Sql.Query).fromTable d.table.name).unlimited.tokens =
      "SELECT *\nFROM " ++ dialect.tableText d.table.name := by
    rw [← String.toList_inj]
    simp [Sql.Query.tokens, Sql.Query.unlimited, Sql.Query.fromTable, Sql.Query.itemTokens,
      Sql.Query.partTokens, Sql.Query.groupTokens, Sql.Token.write, Sql.Keyword.text]
  rw [Statement.sql, sample, Sql.Query.sql, Sql.Query.write_withLimit, hall]

/-- A whole number is written as a natural number is exactly if it is that number: a negative one is
written with a sign in front, which is no digit. -/
theorem Decimal.intText_eq_toString_iff (k : Int) (n : Nat) : intText k = toString n ↔ k = n := by
  have hnat : ∀ n : Nat, intText n = toString n := by
    intro n
    rw [← String.toList_inj, toList_intText]
    simp
  constructor
  · intro h
    have hchars : (if decide (k < 0) then ['-'] else []) ++ Nat.toDigits 10 k.natAbs =
        Nat.toDigits 10 n := by
      rw [← toList_intText, h]
      simp
    by_cases hk : k < 0
    · have hmark : '-' ∈ Nat.toDigits 10 n := by
        rw [← hchars]
        simp [hk]
      exact absurd (isDigit_of_mem_toDigits hmark) (by decide)
    · have hdigits : Nat.toDigits 10 k.natAbs = Nat.toDigits 10 n := by
        simpa [hk] using hchars
      have hvalue := congrArg (fun ds => Nat.ofDigitChars 10 ds 0) hdigits
      simp only [Nat.ofDigitChars_ten_toDigits] at hvalue
      omega
  · rintro rfl
    exact hnat n

/-! ### The rows that are left -/

/-- The rows that a limit lets through. A negative limit is none. -/
def limited {α : Type} (k : Int) (rows : List α) : List α :=
  if k < 0 then rows else rows.take k.toNat

theorem map_limited {α β : Type} (f : α → β) (k : Int) (rows : List α) :
    (limited k rows).map f = limited k (rows.map f) := by
  rw [limited, limited]
  split
  · rfl
  · rw [List.map_take]

theorem limited_limitNumber {α : Type} (n : UInt64) (rows : List α) :
    limited (Sql.limitNumber n) rows =
      if n.toNat < 2 ^ 63 then rows.take n.toNat else rows := by
  have hneg := Sql.limitNumber_neg_iff n
  rw [limited]
  by_cases hn : n.toNat < 2 ^ 63
  · rw [if_pos hn, if_neg (by omega), (Sql.limitNumber_eq_iff n).mpr hn, Int.toNat_natCast]
  · rw [if_neg hn, if_pos (by omega)]

namespace Store.Plan

/-- The plan without a limit. -/
def unlimited (p : Plan) : Plan := { p with limit := none }

/-- The limit of the plan is worth a whole number. -/
def LimitedTo (p : Plan) (params : List Value) (k : Int) : Prop :=
  ∃ t v, p.limit = some t ∧ t.eval params [] [] = .ok v ∧ v.toNumeric.floatToWhole = .int k

theorem wanted_of_limitedTo {p : Plan} {params : List Value} {k : Int}
    (h : p.LimitedTo params k) : p.wanted params = .ok (if k < 0 then none else some k.toNat) := by
  obtain ⟨t, v, hlimit, hvalue, hk⟩ := h
  simp only [wanted, hlimit, hvalue, bind, Except.bind, hk]
  split <;> rfl

/-- The rows of the answer in their order, before the limit is looked at, each with its keys. -/
def ordered (p : Plan) (params : List Value) : Except Fault (List (List Value × List Value)) := do
  let rows ← p.kept params
  let units ← p.units params rows
  let answers ← units.mapM fun u => do
    let keys ← p.order.mapM fun o => o.1.eval params u.1 u.2
    return (keys, ← p.items.mapM fun i => i.2.eval params u.1 u.2)
  return if p.order.isEmpty then answers else sortByKeys (p.order.map Prod.snd) answers

theorem run_eq (p : Plan) (params : List Value) :
    p.run params = do
      let rows ← p.ordered params
      let cut := match ← p.wanted params with
        | none => rows
        | some n => rows.take n
      return ⟨p.items.map Prod.fst, cut.map fun r => r.2.map Value.toJson⟩ := by
  simp only [ordered, bind_assoc, pure_bind]
  rfl

/-- A limit leaves the answer of a plan as it is, but for the rows that it does not let through. -/
theorem run_of_limitedTo {p : Plan} {params : List Value} {k : Int} (h : p.LimitedTo params k) :
    p.run params =
      (p.unlimited.run params).map fun a => { a with rows := limited k a.rows } := by
  have hwanted := wanted_of_limitedTo h
  have hnone : p.unlimited.wanted params = .ok none := rfl
  have hordered : p.unlimited.ordered params = p.ordered params := rfl
  rw [run_eq, run_eq, hwanted, hnone, hordered]
  cases p.ordered params with
  | error e => rfl
  | ok rows =>
    show Except.ok (RowSet.mk _ _) =
      Except.ok (RowSet.mk _ (limited k (rows.map fun r => r.2.map Value.toJson)))
    rw [← map_limited, limited]
    by_cases hk : k < 0
    · rw [if_pos hk, if_pos hk]
      rfl
    · rw [if_neg hk, if_neg hk]
      rfl

end Store.Plan

/-! ### For which numbers the rows are limited -/

/-- A limit is written behind everything else, in any query as in the one for sample rows, and it is
the number that was given exactly if that lies in the lower half of its range. Then the rows are cut
off at it. In the upper half a negative number is written, which a store takes for no limit, so that
it gives all rows it has. Either way a greater number never lets fewer rows through. -/
theorem limit_caps_iff (n : UInt64) :
    (∀ (q : Sql.Query) (dialect : Sql.Dialect) (mode : Sql.Mode),
        Sql.write dialect mode (q.withLimit n).tokens =
          Sql.write dialect mode q.unlimited.tokens ++ "\nLIMIT " ++
            Decimal.intText (Sql.limitNumber n)) ∧
      (∀ (d : Descriptor) (dialect : Sql.Dialect),
        (d.sample dialect n).sql = "SELECT *\nFROM " ++ dialect.tableText d.table.name ++
          "\nLIMIT " ++ Decimal.intText (Sql.limitNumber n)) ∧
      (Decimal.intText (Sql.limitNumber n) = toString n.toNat ↔ n.toNat < 2 ^ 63) ∧
      (∀ (p : Store.Plan) (params : List Store.Value), p.LimitedTo params (Sql.limitNumber n) →
        p.run params = (p.unlimited.run params).map fun a =>
          { a with rows := if n.toNat < 2 ^ 63 then a.rows.take n.toNat else a.rows }) ∧
      ((∀ rows : List (List Json), (limited (Sql.limitNumber n) rows).length ≤ n.toNat) ↔
        n.toNat < 2 ^ 63) ∧
      ∀ m, n ≤ m → ∀ rows : List (List Json),
        limited (Sql.limitNumber n) rows <+: limited (Sql.limitNumber m) rows := by
  refine ⟨fun q => q.write_withLimit n, fun d dialect => d.sample_sql dialect n, ?_, ?_, ?_, ?_⟩
  · rw [Decimal.intText_eq_toString_iff, Sql.limitNumber_eq_iff]
  · intro p params hp
    rw [Store.Plan.run_of_limitedTo hp]
    simp only [limited_limitNumber]
  · constructor
    · intro h
      -- one row more than the number tells the two halves apart
      have hrows := h (List.replicate (n.toNat + 1) [])
      rw [limited_limitNumber] at hrows
      refine Nat.lt_of_not_le fun hn => ?_
      rw [if_neg (Nat.not_lt.mpr hn), List.length_replicate] at hrows
      omega
    · intro hn rows
      rw [limited_limitNumber, if_pos hn]
      exact List.length_take_le n.toNat rows
  · intro m hm rows
    have hle : n.toNat ≤ m.toNat := UInt64.le_iff_toNat_le.mp hm
    rw [limited_limitNumber, limited_limitNumber]
    by_cases hsmall : m.toNat < 2 ^ 63
    · rw [if_pos hsmall, if_pos (by omega)]
      exact List.take_prefix_take_left hle
    · rw [if_neg hsmall]
      split
      · exact List.take_prefix n.toNat rows
      · exact List.prefix_rfl

/-- Two of three rows. -/
theorem limit_caps_iff_two_of_three :
    ∃ p : Store.Plan, p.LimitedTo [] (Sql.limitNumber 2) ∧
      p.run [] = .ok ⟨["id"], [[.int 5], [.int 6]]⟩ ∧
      p.unlimited.run [] = .ok ⟨["id"], [[.int 5], [.int 6], [.int 7]]⟩ := by
  let p : Store.Plan :=
    { scope := {}
      rows := fun _ => .ok [[.int 5], [.int 6], [.int 7]]
      items := [("id", .name ⟨0, .integer⟩)]
      condition := none
      isGrouped := false
      groups := []
      groupCondition := none
      order := []
      limit := some (.value (.int 2)) }
  have hp : p.LimitedTo [] (Sql.limitNumber 2) := ⟨_, _, rfl, rfl, rfl⟩
  have hall : p.unlimited.run [] = .ok ⟨["id"], [[.int 5], [.int 6], [.int 7]]⟩ := rfl
  have hrun := (limit_caps_iff 2).2.2.2.1 p [] hp
  rw [hall] at hrun
  exact ⟨p, hp, hrun, hall⟩

/-- The first number of the upper half is written with a sign, in a query as in the one for sample
rows. -/
theorem limit_of_upper_half :
    (({} : Sql.Query).fromTable "loans" |>.withLimit 9223372036854775808).sql .sqlite =
        "SELECT *\nFROM loans\nLIMIT -9223372036854775808" ∧
      (Descriptor.sample { entity := "loans" } .snowflake 9223372036854775808).sql =
        "SELECT *\nFROM LOANS\nLIMIT -9223372036854775808" ∧
      ¬ ∀ (q : Sql.Query) (dialect : Sql.Dialect) (n : UInt64), (q.withLimit n).sql dialect =
        q.unlimited.sql dialect ++ "\nLIMIT " ++ toString n.toNat := by
  refine ⟨by decide +kernel, by decide +kernel, fun h => ?_⟩
  have hloans := h (({} : Sql.Query).fromTable "loans") .sqlite 9223372036854775808
  exact absurd hloans (by decide +kernel)

end LedgerQuery
