import LedgerQuery.Store.Value
import LedgerQuery.Text.Quoted

/-!
# Words and marks of statements

The text of a statement cut into lexemes. Each one keeps its place in bytes, which messages about
malformed statements give.

* `lexemes`: the lexemes of a text, blanks and comments left out.
-/

namespace LedgerQuery.Store

/-- What a lexeme is. -/
inductive Lexeme.Kind where
  /-- A keyword or a name without quotes. -/
  | word
  /-- A name in quotes. One in double quotes can also be meant as a string. -/
  | name (text : String) (isDouble : Bool)
  | string (text : String)
  | number (value : Value)
  | blob (bytes : List UInt8)
  /-- A parameter, perhaps with a number. -/
  | param (number : Option Nat)
  /-- An operator or a separator. -/
  | symbol
  /-- Characters that form no lexeme. -/
  | broken
  deriving BEq, Inhabited

/-- A lexeme: what it is, how it is written, and the places where it begins and ends. -/
structure Lexeme where
  kind : Lexeme.Kind
  source : String
  start : Nat
  stop : Nat
  deriving BEq, Inhabited

/-- The number of bytes of characters. -/
def byteSize : List Char → Nat
  | [] => 0
  | c :: r => c.utf8Size + byteSize r

/-- The characters between two places in bytes. -/
def sourceBetween (start stop : Nat) : List Char → List Char
  | [] => []
  | c :: r =>
    let n := c.utf8Size
    if stop < n then []
    else if 0 < start then sourceBetween (start - n) (stop - n) r
    else c :: sourceBetween 0 (stop - n) r

namespace Lexeme

/-- A character of a word. -/
def isWordChar (c : Char) : Bool :=
  c == '_' || c == '$' || c.isAlphanum || decide (128 ≤ c.toNat)

/-- A character that a word begins with. -/
def isWordHead (c : Char) : Bool :=
  c == '_' || c.isAlpha || decide (128 ≤ c.toNat)

/-- The text behind the comment that ends a line. -/
def skipLine (cs : List Char) : List Char := cs.dropWhile (· != '\n')

/-- The text behind a comment that its end mark closes. -/
def skipBlock : List Char → List Char
  | '*' :: '/' :: r => r
  | _ :: r => skipBlock r
  | [] => []

/-- The text behind the blanks and comments at its front. The number bounds the steps. -/
def skipBlanks : Nat → List Char → List Char
  | 0, cs => cs
  | fuel + 1, cs =>
    match cs.dropWhile isSpace with
    | '-' :: '-' :: r => skipBlanks fuel (skipLine r)
    | '/' :: '*' :: r => skipBlanks fuel (skipBlock r)
    | r => r

/-- The value of a hexadecimal digit. -/
def hexValue? (c : Char) : Option Nat :=
  if c.isDigit then some (c.toNat - 48)
  else if 'a' ≤ c ∧ c ≤ 'f' then some (c.toNat - 87)
  else if 'A' ≤ c ∧ c ≤ 'F' then some (c.toNat - 55)
  else none

/-- The bytes that pairs of hexadecimal digits stand for. -/
def hexBytes? : List Char → Option (List UInt8)
  | [] => some []
  | [_] => none
  | a :: b :: r => do
    let high ← hexValue? a
    let low ← hexValue? b
    return UInt8.ofNat (16 * high + low) :: (← hexBytes? r)

/-- Bytes in hexadecimal digits, behind the opening quote. -/
def blobRun (cs : List Char) : Kind × List Char :=
  let ds := cs.takeWhile fun c => (hexValue? c).isSome
  match cs.drop ds.length with
  | '\'' :: r => match hexBytes? ds with
    | some bytes => (.blob bytes, r)
    | none => (.broken, r)
  | r => (.broken, (r.dropWhile (· != '\'')).drop 1)

/-- A number, unless characters of a word follow it. -/
def numberLexeme (cs : List Char) : Kind × List Char :=
  match numberRun? cs with
  | some (v, r) =>
    if r.head?.any isWordChar then (.broken, r.dropWhile isWordChar) else (.number v, r)
  | none => (.broken, cs.drop 1)

/-- The marks of two characters. -/
def doubleMarks : List String := ["==", "<>", "!=", "<=", ">=", "||"]

/-- The marks of one character. -/
def singleMarks : List Char :=
  ['(', ')', ',', ';', '.', '+', '-', '*', '/', '%', '<', '>', '=', '~', '&', '|']

/-- An operator or a separator. -/
def symbolRun (cs : List Char) : Kind × List Char :=
  if doubleMarks.contains (String.ofList (cs.take 2)) then (.symbol, cs.drop 2)
  else if cs.head?.any singleMarks.contains then (.symbol, cs.drop 1)
  else (.broken, cs.drop 1)

/-- The lexeme at the front, and the rest. -/
def first (cs : List Char) : Kind × List Char :=
  match cs with
  | [] => (.broken, [])
  | c :: r =>
    if c = '\'' then match Text.Quoted.undouble c r with
      | some (s, t) => (.string (String.ofList s), t)
      | none => (.broken, [])
    else if c = '"' ∨ c = '\x60' then match Text.Quoted.undouble c r with
      | some (s, t) => (.name (String.ofList s) (c == '"'), t)
      | none => (.broken, [])
    else if c = '[' then match r.dropWhile (· != ']') with
      | _ :: t => (.name (String.ofList (r.takeWhile (· != ']'))) false, t)
      | [] => (.broken, [])
    else if c = '?' then
      let ds := r.takeWhile Char.isDigit
      (.param (if ds.isEmpty then none else some (Decimal.digitsValue ds)), r.drop ds.length)
    else if (c = 'x' ∨ c = 'X') ∧ r.head? = some '\'' then blobRun (r.drop 1)
    else if isWordHead c then (.word, r.dropWhile isWordChar)
    else if c.isDigit ∨ (c = '.' ∧ r.head?.any Char.isDigit) then numberLexeme cs
    else symbolRun cs

/-- The lexemes of a text that begins at a place. The number bounds the lexemes. -/
def scan : Nat → Nat → List Char → List Lexeme
  | 0, _, _ => []
  | fuel + 1, place, cs =>
    let r := skipBlanks (cs.length + 1) cs
    if r.isEmpty then []
    else
      let start := place + byteSize (cs.take (cs.length - r.length))
      let (kind, rest) := first r
      let written := r.take (r.length - rest.length)
      let stop := start + byteSize written
      ⟨kind, String.ofList written, start, stop⟩ :: scan fuel stop rest

end Lexeme

/-- The lexemes of a text. -/
def lexemes (sql : String) : List Lexeme :=
  let cs := sql.toList
  Lexeme.scan (cs.length + 1) 0 cs

end LedgerQuery.Store
