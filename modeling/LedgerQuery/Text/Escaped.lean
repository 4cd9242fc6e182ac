import LedgerQuery.Text.Hidden

/-!
# A quoted view of a text

The view that records are shown with: the text between double quotes, with its quotes,
backslashes and line breaks escaped and the characters that show nothing by themselves written by
their number.
-/

namespace LedgerQuery.Text.Escaped

/-- The hexadecimal digits of a number, small letters, no leading zero. -/
def hexDigits (n : Nat) : List Char :=
  Nat.toDigits 16 n

/-- One character of the view. -/
def char (c : Char) : List Char :=
  if c = '"' then ['\\', '"']
  else if c = '\\' then ['\\', '\\']
  else if c = '\n' then ['\\', 'n']
  else if c = '\r' then ['\\', 'r']
  else if c = '\t' then ['\\', 't']
  else if c = '\x00' then ['\\', '0']
  else if isHidden c then ['\\', 'u', '\x7b'] ++ hexDigits c.toNat ++ ['\x7d']
  else [c]

/-- The quoted view of a text. -/
def quote (s : String) : String :=
  String.ofList ('"' :: s.toList.flatMap char ++ ['"'])

/-- The view of a text that may be missing. -/
def option : Option String → String
  | none => "None"
  | some s => "Some(" ++ quote s ++ ")"

end LedgerQuery.Text.Escaped
