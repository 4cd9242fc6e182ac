import LedgerQuery.Toml.Scalar

/-!
# Reading settings documents

A document is read line by line into statements, which then make up a tree.

* `statement?`: the statement of one line.
* `parse?`: the table that a document holds; nothing if it is malformed.
-/

namespace LedgerQuery.Toml

open Decimal (isDigit)

/-! ### Blanks and comments -/

/-- Space and tab. -/
def isGap (c : Char) : Bool := c == ' ' || c == '\t'

/-- The text without the blanks at its front. -/
def skipGap (cs : List Char) : List Char := cs.dropWhile isGap

/-- The characters that a line may hold: no control character but the tab. -/
def isPrintable (c : Char) : Bool := c == '\t' || (32 ≤ c.toNat && c.toNat != 127)

/-- The rest behind a line break, if there is one at the front. -/
def lineBreak? : List Char → Option (List Char)
  | '\n' :: r => some r
  | '\r' :: '\n' :: r => some r
  | _ => none

/-- The text without the comment at its front. -/
def skipComment : List Char → List Char
  | '#' :: r => r.dropWhile isPrintable
  | r => r

/-- The text without blanks, comments and line breaks at its front. The first number bounds the
steps. -/
def skipLines : Nat → List Char → List Char
  | 0, cs => cs
  | fuel + 1, cs =>
    let r := skipComment (skipGap cs)
    match lineBreak? r with
    | some r => skipLines fuel r
    | none => r

/-- The text without blanks, comments and line breaks at its front. -/
def skipAll (cs : List Char) : List Char := skipLines cs.length cs

/-- The rest behind the end of a line: blanks, a comment, and a line break or the end of all. -/
def endOfLine? (cs : List Char) : Option (List Char) :=
  match skipComment (skipGap cs) with
  | [] => some []
  | r => lineBreak? r

/-! ### Strings -/

/-- The character of a number in base sixteen of so many digits, and the rest. -/
def codePoint? (width : Nat) (cs : List Char) : Option (Char × List Char) :=
  let ds := cs.take width
  let n := valueIn 16 ds
  if ds.length = width ∧ (ds.all fun c => (digitIn? 16 c).isSome) ∧ n.isValidChar then
    some (Char.ofNat n, cs.drop width)
  else none

/-- The character of an escape behind its backslash, and the rest. -/
def escape? : List Char → Option (Char × List Char)
  | 'b' :: r => some ('\x08', r)
  | 't' :: r => some ('\t', r)
  | 'n' :: r => some ('\n', r)
  | 'f' :: r => some ('\x0c', r)
  | 'r' :: r => some ('\r', r)
  | 'e' :: r => some ('\x1b', r)
  | '"' :: r => some ('"', r)
  | '\\' :: r => some ('\\', r)
  | 'x' :: r => codePoint? 2 r
  | 'u' :: r => codePoint? 4 r
  | 'U' :: r => codePoint? 8 r
  | _ => none

/-- A string on one line, behind its opening quote. Only double quotes know escapes. -/
def line? (quote : Char) : Nat → List Char → Option (List Char × List Char)
  | 0, _ => none
  | _ + 1, [] => none
  | fuel + 1, c :: r =>
    if c = quote then some ([], r)
    else if c = '\\' ∧ quote = '"' then do
      let (c, r) ← escape? r
      let (cs, r) ← line? quote fuel r
      return (c :: cs, r)
    else if isPrintable c then do
      let (cs, r) ← line? quote fuel r
      return (c :: cs, r)
    else none

/-- The rest behind a backslash at the end of a line: blanks and line breaks up to the next mark. -/
def continuation? (cs : List Char) : Option (List Char) :=
  (lineBreak? (skipGap cs)).map fun r => r.dropWhile fun c => isGap c || c == '\n' || c == '\r'

/-- A string on several lines, behind its opening quotes. It ends with three quotes, of which up to
two more may stand in front of them. -/
def lines? (quote : Char) : Nat → List Char → Option (List Char × List Char)
  | 0, _ => none
  | _ + 1, [] => none
  | fuel + 1, c :: r =>
    if c = quote then
      match (c :: r).takeWhile (· == quote) with
      | [_, _, _] => some ([], r.drop 2)
      | [_, _, _, _] => some ([quote], r.drop 3)
      | _ :: _ :: _ :: _ :: _ :: _ => some ([quote, quote], r.drop 4)
      | _ => do
        let (cs, r) ← lines? quote fuel r
        return (c :: cs, r)
    else if c = '\\' ∧ quote = '"' then
      match continuation? r with
      | some r => lines? quote fuel r
      | none => do
        let (c, r) ← escape? r
        let (cs, r) ← lines? quote fuel r
        return (c :: cs, r)
    else match lineBreak? (c :: r) with
      | some r => do
        let (cs, r) ← lines? quote fuel r
        return ('\n' :: cs, r)
      | none =>
        if isPrintable c then do
          let (cs, r) ← lines? quote fuel r
          return (c :: cs, r)
        else none

/-- A string on one line. -/
def lineString? (quote : Char) (cs : List Char) : Option (String × List Char) :=
  (line? quote (cs.length + 1) cs).map fun p => (String.ofList p.1, p.2)

/-- A string behind its first quote. A line break right behind three quotes is no part of it. -/
def string? (quote : Char) (cs : List Char) : Option (String × List Char) :=
  match cs with
  | a :: b :: r =>
    if a = quote ∧ b = quote then
      let r := (lineBreak? r).getD r
      (lines? quote (r.length + 1) r).map fun p => (String.ofList p.1, p.2)
    else lineString? quote cs
  | _ => lineString? quote cs

/-! ### Keys -/

/-- The characters of a key without quotes. -/
def isBareKey (c : Char) : Bool :=
  isDigit c || decide ('a' ≤ c ∧ c ≤ 'z') || decide ('A' ≤ c ∧ c ≤ 'Z') || c == '_' || c == '-'

/-- One part of a key. -/
def keyPart? : List Char → Option (String × List Char)
  | [] => none
  | c :: r =>
    if c = '"' ∨ c = '\'' then lineString? c r
    else if isBareKey c then
      some (String.ofList (c :: r.takeWhile isBareKey), r.dropWhile isBareKey)
    else none

/-- A key: its parts before the last one, the last one, and the rest behind the blanks. The number
bounds the parts. -/
def key? : Nat → List Char → Option (List String × String × List Char)
  | 0, _ => none
  | fuel + 1, cs => do
    let (part, r) ← keyPart? (skipGap cs)
    match skipGap r with
    | '.' :: r =>
      let (path, last, r) ← key? fuel r
      return (part :: path, last, r)
    | r => return ([], part, r)

/-- A key and the rest behind it. -/
def keyOf? (cs : List Char) : Option (List String × String × List Char) := key? cs.length cs

/-! ### Values -/

/-- Items with commas between them, up to a closing mark; a comma may stand behind the last one. The
number bounds the items. -/
def items? {α : Type} (item : List Char → Option (α × List Char)) (closing : Char) :
    Nat → List Char → Option (List α × List Char)
  | 0, _ => none
  | fuel + 1, cs =>
    match skipAll cs with
    | [] => none
    | c :: r =>
      if c = closing then some ([], r)
      else do
        let (a, r) ← item (c :: r)
        match skipAll r with
        | ',' :: r =>
          let (as, r) ← items? item closing fuel r
          return (a :: as, r)
        | d :: r => if d = closing then some ([a], r) else none
        | [] => none

/-- A key and its value, with the blanks around the sign between them skipped. -/
def member? (value : List Char → Option (Tree × List Char)) (cs : List Char) :
    Option (Statement × List Char) := do
  let (path, key, r) ← keyOf? cs
  let r ← mark? '=' r
  let (v, r) ← value (skipGap r)
  return (.assign path key v, r)

/-- The greatest number of lists and tables inside each other in one value. -/
def maxDepth : Nat := 80

/-- A value in which `room` lists and tables may be inside each other. -/
def value? : Nat → List Char → Option (Tree × List Char)
  | _, '"' :: r => (string? '"' r).map fun p => (.text p.1, p.2)
  | _, '\'' :: r => (string? '\'' r).map fun p => (.text p.1, p.2)
  | 0, '[' :: _ => none
  | 0, '\x7b' :: _ => none
  | room + 1, '[' :: r =>
    (items? (value? room) ']' (r.length + 1) r).map fun p => (.list p.1, p.2)
  | room + 1, '\x7b' :: r => do
    let (entries, r) ← items? (member? (value? room)) '\x7d' (r.length + 1) r
    let ms ← Members.build entries [] []
    return (.table .inline ms, r)
  | _, cs =>
    let (run, r) := bareRun cs
    (bareValue? run).map (·, r)

/-! ### Lines -/

/-- The statement of a line, and the rest behind it. -/
def statement? : List Char → Option (Statement × List Char)
  | '[' :: '[' :: r => do
    let (path, key, r) ← keyOf? r
    return (.item path key, ← mark? ']' (← mark? ']' r))
  | '[' :: r => do
    let (path, key, r) ← keyOf? r
    return (.table path key, ← mark? ']' r)
  | cs => member? (value? maxDepth) cs

/-- The statements of a text. The number bounds the lines. -/
def statements? : Nat → List Char → Option (List Statement)
  | 0, _ => none
  | fuel + 1, cs =>
    match skipAll cs with
    | [] => some []
    | cs => do
      let (s, r) ← statement? cs
      let r ← endOfLine? r
      return s :: (← statements? fuel r)

/-- The text without the mark of its encoding at the front. -/
def skipMark : List Char → List Char
  | c :: r => if c = '\ufeff' then r else c :: r
  | [] => []

/-- The table that a document holds. -/
def parse? (s : String) : Option Members := do
  let cs := skipMark s.toList
  Members.build (← statements? (cs.length + 1) cs) [] []

end LedgerQuery.Toml
