import LedgerQuery.Descriptor.Basic
import LedgerQuery.Text.Blank

/-!
# Filters in arguments

A filter is given as a column, an equals sign and a value. The value is a scalar in JSON if it can be
read as one, and else the text that it is.

* `Scalar.ofText`: the scalar that a text stands for.
* `Filter.parse`: the filter of an argument.
-/

namespace LedgerQuery

/-- The scalar that a text stands for. -/
def Scalar.ofText (s : String) : Scalar :=
  match (Json.document s).finish (Scalar.ofDraft Json.maxDepth) with
  | .ok v => v
  | .error _ => .text s

namespace Filter

/-- Why an argument is no filter. -/
inductive Fault where
  | noSign
  | noColumn
  deriving DecidableEq, Repr

/-- The filter of an argument. The first equals sign ends the column; blanks around the column and
around the value do not count. -/
def parse (s : String) : Except Fault (String × Scalar) :=
  let column := Text.trimChars (s.toList.takeWhile (· ≠ '='))
  match s.toList.dropWhile (· ≠ '=') with
  | [] => .error .noSign
  | _ :: value =>
    if column = [] then .error .noColumn
    else .ok (String.ofList column, Scalar.ofText (String.ofList (Text.trimChars value)))

end Filter

end LedgerQuery
