import LedgerQuery.Json.Basic
import LedgerQuery.Decimal.Layout

/-!
# JSON texts

The two written forms of a value: the compact one without any space, and the indented one with two
spaces for each level. Both keep the order of members and leave characters from U+0080 on as they
are; a float that is no number is written `null`.
-/

namespace LedgerQuery.Json

/-- The escape of one character of a string. -/
def escapeChar (c : Char) : List Char :=
  if c = '"' then ['\\', '"']
  else if c = '\\' then ['\\', '\\']
  else if c = '\x08' then ['\\', 'b']
  else if c = '\x0c' then ['\\', 'f']
  else if c = '\n' then ['\\', 'n']
  else if c = '\r' then ['\\', 'r']
  else if c = '\t' then ['\\', 't']
  else if c.toNat < 32 then
    ['\\', 'u', '0', '0', if c.toNat < 16 then '0' else '1', Nat.digitChar (c.toNat % 16)]
  else [c]

/-- A string between double quotes. -/
def textChars (s : String) : List Char :=
  '"' :: s.toList.flatMap escapeChar ++ ['"']

/-- A whole number in decimal. -/
def intChars (n : Int) : List Char :=
  (if n < 0 then ['-'] else []) ++ Nat.toDigits 10 n.natAbs

/-- A float with the shortest digits that read back, or `null`. -/
def floatChars (x : Float) : List Char :=
  if Decimal.isFinite x then (Decimal.Layout.json.render x).toList else "null".toList

mutual

/-- The compact form of a value. -/
def chars : Json → List Char
  | .null => "null".toList
  | .bool b => (if b then "true" else "false").toList
  | .int n => intChars n
  | .float x => floatChars x
  | .text s => textChars s
  | .list items => '[' :: itemChars items ++ [']']
  | .object members => '{' :: memberChars members ++ ['}']

/-- The compact forms of the items, with commas between them. -/
def itemChars : List Json → List Char
  | [] => []
  | [j] => chars j
  | j :: k :: r => chars j ++ ',' :: itemChars (k :: r)

/-- The compact forms of the members, with commas between them. -/
def memberChars : List (String × Json) → List Char
  | [] => []
  | [(key, j)] => textChars key ++ ':' :: chars j
  | (key, j) :: m :: r => textChars key ++ ':' :: chars j ++ ',' :: memberChars (m :: r)

end

/-- The compact text of a value. -/
def render (j : Json) : String :=
  String.ofList (chars j)

/-- A line break and the indentation of a level. -/
def breakLine (level : Nat) : List Char :=
  '\n' :: List.replicate (2 * level) ' '

mutual

/-- The indented form of a value that stands on the given level. -/
def prettyChars (level : Nat) : Json → List Char
  | .list (j :: r) =>
    '[' :: breakLine (level + 1) ++ prettyItems (level + 1) (j :: r) ++ breakLine level ++ [']']
  | .object (m :: r) =>
    '{' :: breakLine (level + 1) ++ prettyMembers (level + 1) (m :: r) ++ breakLine level ++ ['}']
  | .null => "null".toList
  | .bool b => (if b then "true" else "false").toList
  | .int n => intChars n
  | .float x => floatChars x
  | .text s => textChars s
  | .list [] => "[]".toList
  | .object [] => ['{', '}']

/-- The indented forms of the items, each on lines of its own. -/
def prettyItems (level : Nat) : List Json → List Char
  | [] => []
  | [j] => prettyChars level j
  | j :: k :: r => prettyChars level j ++ ',' :: breakLine level ++ prettyItems level (k :: r)

/-- The indented forms of the members, each on lines of its own. -/
def prettyMembers (level : Nat) : List (String × Json) → List Char
  | [] => []
  | [(key, j)] => textChars key ++ ':' :: ' ' :: prettyChars level j
  | (key, j) :: m :: r =>
    textChars key ++ ':' :: ' ' :: prettyChars level j ++ ',' :: breakLine level ++
      prettyMembers level (m :: r)

end

/-- The indented text of a value. -/
def pretty (j : Json) : String :=
  String.ofList (prettyChars 0 j)

end LedgerQuery.Json
