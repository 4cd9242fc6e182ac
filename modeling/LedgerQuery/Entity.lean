import LedgerQuery.Text.Case

/-!
# Entities and their tables

* `Table.ofEntity`: the table that an entity stands for. The three known entities may be written in
  any case and in the singular; every other name stands for the table of that name.
-/

namespace LedgerQuery

/-- The table of an entity. -/
inductive Table where
  | loans
  | deposits
  | customers
  | other (name : String)
  deriving DecidableEq, Inhabited

namespace Table

/-- The table that an entity stands for. -/
def ofEntity (entity : String) : Table :=
  let small := Text.lower entity
  if small = "loan" ∨ small = "loans" then .loans
  else if small = "deposit" ∨ small = "deposits" then .deposits
  else if small = "customer" ∨ small = "customers" then .customers
  else .other entity

/-- The name of a table. -/
def name : Table → String
  | .loans => "loans"
  | .deposits => "deposits"
  | .customers => "customers"
  | .other s => s

end Table

end LedgerQuery
