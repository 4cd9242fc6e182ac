import LedgerQuery.Json.Draft
import LedgerQuery.Decimal.Reader

/-!
# Reading JSON texts

A text is read from the left into a draft that keeps its first fault in place.

* `document`: the draft of a text.
* `parse`: the value of a text that is one value and nothing else.
-/

namespace LedgerQuery.Json

open Decimal (isDigit digitRun digitsValue)

/-- Space, tab, line feed and carriage return may stand between the marks of a text. -/
def isSpace (c : Char) : Bool :=
  c = ' ' || c = '\t' || c = '\n' || c = '\r'

/-- The text from its first mark on. -/
def skipSpaces (cs : List Char) : List Char :=
  cs.dropWhile isSpace

/-! ### Numbers -/

/-- The number written with the given sign, digits before and after the point, and exponent. It is
rounded correctly, to the nearest float; a reader that trades this for speed may be off by one unit
in the last place where sixteen or seventeen digits are given. What is said of floats that are read
back from a text rests on correct rounding. -/
def Number.ofDecimal (negative : Bool) (whole fraction : List Char) (exponent : Int) : Number :=
  let digits := digitsValue (whole ++ fraction)
  let bits := Decimal.decimalBits digits (exponent - fraction.length)
  if bits = Decimal.infinityBits then .outOfRange else .float (Decimal.signed negative bits)

/-- The number written by a sign and digits alone. -/
def Number.ofDigits (negative : Bool) (whole : List Char) : Number :=
  let n : Int := digitsValue whole
  if negative then
    if 0 < n ∧ minSigned ≤ -n then .whole (-n) else Number.ofDecimal true whole [] 0
  else if n ≤ maxUnsigned then .whole n
  else Number.ofDecimal false whole [] 0

/-- A piece of a text that was read, and the text behind it; or the place where it breaks off. -/
inductive Piece (α : Type) where
  | done (value : α) (rest : List Char)
  | broken (place : Break)

/-- Where digits have to follow and do not. Whoever skips the value tells nothing of the end. -/
def missingDigit : List Char → Break
  | [] => .inside .ended .malformed
  | _ => .malformed

/-- The exponent of a number whose other parts are read. -/
def exponentPart (negative : Bool) (whole fraction rest : List Char) : Piece Number :=
  match rest with
  | [] => .done (if fraction.isEmpty then Number.ofDigits negative whole
      else Number.ofDecimal negative whole fraction 0) []
  | c :: r =>
    if c = 'e' ∨ c = 'E' then
      let (minus, r) := Decimal.signRun r
      let (ds, r) := digitRun r
      if ds.isEmpty then .broken (missingDigit r)
      else
        let e : Int := digitsValue ds
        .done (Number.ofDecimal negative whole fraction (if minus then -e else e)) r
    else .done (if fraction.isEmpty then Number.ofDigits negative whole
      else Number.ofDecimal negative whole fraction 0) (c :: r)

/-- What follows the digits before the point. -/
def fractionPart (negative : Bool) (whole rest : List Char) : Piece Number :=
  match rest with
  | '.' :: r =>
    let (ds, r) := digitRun r
    if ds.isEmpty then .broken (missingDigit r) else exponentPart negative whole ds r
  | r => exponentPart negative whole [] r

/-- A number without its sign. A zero in front is followed by no digit. -/
def magnitude (negative : Bool) (cs : List Char) : Piece Number :=
  let (whole, r) := digitRun cs
  match whole with
  | [] => .broken (missingDigit r)
  | '0' :: _ :: _ => .broken .malformed
  | _ => fractionPart negative whole r

/-! ### Strings -/

/-- A piece of a string: a character, or a 16-bit unit written by number. -/
inductive Unit16 where
  | char (c : Char)
  | code (n : Nat)

/-- The units of a string joined to characters. -/
inductive Joined where
  | text (cs : List Char)
  /-- The last unit opens a surrogate pair. -/
  | opening
  /-- Half a surrogate pair stands alone. -/
  | torn

/-- Puts a character in front. -/
def Joined.cons (c : Char) : Joined → Joined
  | .text cs => .text (c :: cs)
  | j => j

/-- The unit opens a surrogate pair. -/
def isHighUnit (n : Nat) : Bool := decide (0xD800 ≤ n ∧ n < 0xDC00)

/-- The unit closes a surrogate pair. -/
def isLowUnit (n : Nat) : Bool := decide (0xDC00 ≤ n ∧ n < 0xE000)

/-- The character of a surrogate pair. -/
def pairChar (high low : Nat) : Char :=
  Char.ofNat (0x10000 + (high - 0xD800) * 0x400 + (low - 0xDC00))

/-- Joins units to characters. -/
def joinUnits : List Unit16 → Joined
  | [] => .text []
  | .char c :: r => (joinUnits r).cons c
  | [.code n] =>
    if isHighUnit n then .opening else if isLowUnit n then .torn else .text [Char.ofNat n]
  | .code n :: .char c :: r =>
    if isHighUnit n ∨ isLowUnit n then .torn
    else (joinUnits (.char c :: r)).cons (Char.ofNat n)
  | .code n :: .code m :: r =>
    if isHighUnit n then
      if isLowUnit m then (joinUnits r).cons (pairChar n m) else .torn
    else if isLowUnit n then .torn
    else (joinUnits (.code m :: r)).cons (Char.ofNat n)

/-- The value of a hexadecimal digit. -/
def hexValue? (c : Char) : Option Nat :=
  if '0' ≤ c ∧ c ≤ '9' then some (c.toNat - 48)
  else if 'a' ≤ c ∧ c ≤ 'f' then some (c.toNat - 87)
  else if 'A' ≤ c ∧ c ≤ 'F' then some (c.toNat - 55)
  else none

/-- The character of an escape of one letter. -/
def escaped? (c : Char) : Option Char :=
  if c = '"' ∨ c = '\\' ∨ c = '/' then some c
  else if c = 'b' then some '\x08'
  else if c = 'f' then some '\x0c'
  else if c = 'n' then some '\n'
  else if c = 'r' then some '\r'
  else if c = 't' then some '\t'
  else none

/-- The four digits of an escape by number. -/
def codeUnit? (a b c d : Char) : Option Nat := do
  let a ← hexValue? a
  let b ← hexValue? b
  let c ← hexValue? c
  let d ← hexValue? d
  return 4096 * a + 256 * b + 16 * c + d

/-- How the units of a string end. -/
inductive StringEnd where
  | closed (rest : List Char)
  | broken (fault : Fault)

/-- The units of a string behind its opening quote. An escape by number needs four more bytes of
text; a control character stands for itself nowhere. -/
def stringUnits : List Char → List Unit16 × StringEnd
  | [] => ([], .broken .ended)
  | '"' :: r => ([], .closed r)
  | ['\\'] => ([], .broken .ended)
  | '\\' :: 'u' :: a :: b :: c :: d :: r =>
    match codeUnit? a b c d with
    | some n => let (us, e) := stringUnits r; (.code n :: us, e)
    | none => ([], .broken .malformed)
  | '\\' :: c :: r =>
    if c = 'u' then
      ([], .broken (if (String.ofList r).utf8ByteSize < 4 then .ended else .malformed))
    else match escaped? c with
      | some d => let (us, e) := stringUnits r; (.char d :: us, e)
      | none => ([], .broken .malformed)
  | c :: r =>
    if c.toNat < 32 then ([], .broken .malformed)
    else let (us, e) := stringUnits r; (.char c :: us, e)

/-- A string behind its opening quote. -/
def stringPiece (cs : List Char) : Piece (Option String) :=
  let (us, e) := stringUnits cs
  match joinUnits us, e with
  | .text s, .closed r => .done (some (String.ofList s)) r
  | _, .closed r => .done none r
  | .torn, .broken f => .broken (.inside .malformed f)
  | _, .broken f => .broken (.inside f f)

/-! ### Values -/

/-- A word of the language, of which the first letter is read. -/
def word (letters : List Char) (value : Draft) (cs : List Char) : Draft × Option (List Char) :=
  match letters, cs with
  | [], r => (value, some r)
  | _ :: _, [] => (.broken (.inside .ended .ended), none)
  | l :: ls, c :: r => if l = c then word ls value r else (.broken .malformed, none)

/-- A piece as a draft. -/
def Piece.draft {α : Type} (f : α → Draft) : Piece α → Draft × Option (List Char)
  | .done a r => (f a, some r)
  | .broken b => (.broken b, none)

mutual

/-- A value at the front of a text, and the text behind it unless the value breaks off. -/
def readValue : Nat → List Char → Draft × Option (List Char)
  | 0, _ => (.broken .malformed, none)
  | fuel + 1, cs =>
    match skipSpaces cs with
    | [] => (.broken .atEnd, none)
    | 'n' :: r => word ['u', 'l', 'l'] .null r
    | 't' :: r => word ['r', 'u', 'e'] (.bool true) r
    | 'f' :: r => word ['a', 'l', 's', 'e'] (.bool false) r
    | '"' :: r => (stringPiece r).draft .text
    | '[' :: r =>
      match skipSpaces r with
      | [] => (.list [] (some .atEnd), none)
      | ']' :: r => (.list [] none, some r)
      | r => let (items, ending, rest) := readItems fuel r; (.list items ending, rest)
    | '{' :: r =>
      match skipSpaces r with
      | '}' :: r => (.object [] none, some r)
      | r => let (members, ending, rest) := readMembers fuel r; (.object members ending, rest)
    | '-' :: r => (magnitude true r).draft .number
    | c :: r =>
      if isDigit c then (magnitude false (c :: r)).draft .number
      else (.broken .malformed, none)

/-- The items of a list from one of them on. -/
def readItems : Nat → List Char → List Draft × Option Break × Option (List Char)
  | 0, _ => ([], some .malformed, none)
  | fuel + 1, cs =>
    match readValue fuel cs with
    | (d, none) => ([d], none, none)
    | (d, some r) =>
      match skipSpaces r with
      | ',' :: r => let (ds, ending, rest) := readItems fuel r; (d :: ds, ending, rest)
      | ']' :: r => ([d], none, some r)
      | [] => ([d], some .atEnd, none)
      | _ => ([d], some .malformed, none)

/-- The members of an object from the key of one of them on. -/
def readMembers :
    Nat → List Char → List (Option String × Draft) × Option Break × Option (List Char)
  | 0, _ => ([], some .malformed, none)
  | fuel + 1, cs =>
    match skipSpaces cs with
    | [] => ([], some .atEnd, none)
    | '"' :: r =>
      match stringPiece r with
      | .broken b => ([], some b, none)
      | .done key r =>
        match skipSpaces r with
        | [] => ([(key, .broken .atEnd)], none, none)
        | ':' :: r =>
          match readValue fuel r with
          | (d, none) => ([(key, d)], none, none)
          | (d, some r) =>
            match skipSpaces r with
            | ',' :: r =>
              let (ms, ending, rest) := readMembers fuel r
              ((key, d) :: ms, ending, rest)
            | '}' :: r => ([(key, d)], none, some r)
            | [] => ([(key, d)], some .atEnd, none)
            | _ => ([(key, d)], some .malformed, none)
        | _ => ([(key, .broken .malformed)], none, none)
    | _ => ([], some .malformed, none)

end

/-- The draft of a text. Each step that consumes no character is followed by one that does, so
twice the length of the text bounds the steps. -/
def document (s : String) : Document :=
  let cs := s.toList
  match readValue (2 * cs.length + 2) cs with
  | (d, none) => ⟨d, false⟩
  | (d, some r) => ⟨d, !(skipSpaces r).isEmpty⟩

/-- The value of a text. -/
def parse (s : String) : Except Fault Json :=
  (document s).finish (Draft.value maxDepth)

end LedgerQuery.Json
