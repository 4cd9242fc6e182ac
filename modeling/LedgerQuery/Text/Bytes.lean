/-!
# Texts as bytes

Reads the variable-length encoding of characters in bytes. Bytes that encode no character are cut
into the longest pieces that could begin one.

* `pieces`: the characters of bytes, and nothing for each piece that encodes none.
* `decode?`: the text of bytes that encode characters throughout.
* `decodeLossy`: the text of any bytes, with a replacement for each piece that encodes none.
-/

namespace LedgerQuery.Text

/-- Goes on with a character of which the bits so far are known: each further byte lies in a range
and adds its low six bits. -/
def continuation (bits : Nat) : List (Nat × Nat) → List UInt8 → Option Nat × List UInt8
  | [], r => (some bits, r)
  | _ :: _, [] => (none, [])
  | (least, greatest) :: ranges, b :: r =>
    if least ≤ b.toNat ∧ b.toNat ≤ greatest then
      continuation (64 * bits + b.toNat % 64) ranges r
    else (none, b :: r)

/-- What the first byte of a character tells: its bits, and the ranges of the bytes that follow.
The ranges leave out longer spellings than needed, surrogates and numbers that are too large. -/
def opening (b : UInt8) : Option (Nat × List (Nat × Nat)) :=
  let n := b.toNat
  let any := (0x80, 0xBF)
  if n < 0x80 then some (n, [])
  else if n < 0xC2 then none
  else if n < 0xE0 then some (n % 32, [any])
  else if n = 0xE0 then some (n % 16, [(0xA0, 0xBF), any])
  else if n = 0xED then some (n % 16, [(0x80, 0x9F), any])
  else if n < 0xF0 then some (n % 16, [any, any])
  else if n = 0xF0 then some (n % 8, [(0x90, 0xBF), any, any])
  else if n < 0xF4 then some (n % 8, [any, any, any])
  else if n = 0xF4 then some (n % 8, [(0x80, 0x8F), any, any])
  else none

theorem continuation_length_le (bits : Nat) (ranges : List (Nat × Nat)) (bs : List UInt8) :
    (continuation bits ranges bs).2.length ≤ bs.length := by
  induction ranges generalizing bits bs with
  | nil => simp [continuation]
  | cons range ranges ih =>
    cases bs with
    | nil => simp [continuation]
    | cons b r =>
      simp only [continuation]
      split
      · exact Nat.le_succ_of_le (ih _ _)
      · exact Nat.le_refl _

/-- The characters of bytes, and nothing for each piece that encodes none. -/
def pieces : List UInt8 → List (Option Char)
  | [] => []
  | b :: r =>
    match opening b with
    | none => none :: pieces r
    | some (bits, ranges) =>
      ((continuation bits ranges r).1.map Char.ofNat) :: pieces (continuation bits ranges r).2
termination_by bs => bs.length
decreasing_by
  · simp
  · have := continuation_length_le bits ranges r
    simp only [List.length_cons]
    omega

/-- The text of bytes that encode characters throughout. -/
def decode? (bs : List UInt8) : Option String :=
  ((pieces bs).mapM id).map String.ofList

/-- The text of any bytes, with the replacement character for what encodes none. -/
def decodeLossy (bs : List UInt8) : String :=
  String.ofList ((pieces bs).map (·.getD '\ufffd'))

/-- The bytes of a text. -/
def encode (s : String) : List UInt8 :=
  s.toUTF8.toList

end LedgerQuery.Text
