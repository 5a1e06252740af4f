import AlertRelay.Charset.Decoder

/-!
# Characters in rows and in pairs of bytes

A large set of characters has 94 rows of 94 cells, and both are numbered from 0x21 to 0x7E. Most
charsets write ASCII with one byte and the characters of such a set with two; bytes that write the
numbers of a row and a cell in such a charset have 0x80 added to them.
-/

namespace AlertRelay

def Charset.place? (row cell : Nat) : Option Nat :=
  if 0x21 ≤ row ∧ row ≤ 0x7E ∧ 0x21 ≤ cell ∧ cell ≤ 0x7E then
    some ((row - 0x21) * 94 + (cell - 0x21))
  else none

namespace CharTable

def text? (t : CharTable) (n : Nat) : Option Text := (t.get? n).map ([·])

def inRow? (t : CharTable) (row cell : Nat) : Option Text :=
  (Charset.place? row cell).bind t.text?

/-- The text of a cell of a row that are written by two bytes above 0x80. -/
def inUpperRow? (t : CharTable) (lead trail : Nat) : Option Text :=
  t.inRow? (lead - 0x80) (trail - 0x80)

def ofBytes? (t : CharTable) (lead trail : Nat) : Option Text := t.text? (lead * 256 + trail)

def numbers (t : CharTable) : List Nat :=
  t.runs.flatMap fun (_, run) => run.toList.map Char.toNat

end CharTable

namespace Charset

/-- The text of one character by its number. -/
def one (n : Nat) : Text := [.ofNat n]

def readPair (find? : Nat → Nat → Option Text) (b : UInt8) : List UInt8 → Reading Unit
  | [] => .stray 0 ()
  | c :: _ => .textOr () 1 (find? b.toNat c.toNat)

/-- A charset of ASCII and of pairs of bytes that begin above it. -/
def pairs (find? : Nat → Nat → Option Text) : Charset Unit :=
  plain fun b bs =>
    if b.toNat < 0x80 then .point () (bytePoint b) 0 else readPair find? b bs

/-- The place of a second byte that is at least 0x40 and not 0x7F. -/
def trailPlace (trail : Nat) : Nat := if trail < 0x80 then trail - 0x40 else trail - 0x41

/-- What the first of two ascending lists has and the second has not. -/
def without : List Nat → List Nat → List Nat
  | [], _ => []
  | x :: xs, [] => x :: xs
  | x :: xs, y :: ys =>
    if x < y then x :: without xs (y :: ys)
    else if y < x then without (x :: xs) ys
    else without xs ys
termination_by xs ys => xs.length + ys.length

end Charset

end AlertRelay
