import AlertRelay.Text.Point

/-!
# UTF-8

The bytes of a text and the text of bytes. `utf8` writes each character in one to four bytes.
`utf8Pieces` reads any bytes: where they are not UTF-8, each longest beginning of a character that
breaks off is a stray run. What becomes of stray bytes is the reader's choice: `ofUtf8` puts one
replacement character for each run, `ofUtf8Escaped` keeps every byte as half of a surrogate pair,
from which `utf8Escaped` restores it.
-/

namespace AlertRelay.Text

def utf8Char (c : Char) : List UInt8 :=
  let n := c.toNat
  let tail (k : Nat) : UInt8 := UInt8.ofNat (0x80 + n / Nat.pow 64 k % 64)
  if n < 0x80 then [UInt8.ofNat n]
  else if n < 0x800 then [UInt8.ofNat (0xC0 + n / 64), tail 0]
  else if n < 0x10000 then [UInt8.ofNat (0xE0 + n / 4096), tail 1, tail 0]
  else [UInt8.ofNat (0xF0 + n / 262144), tail 2, tail 1, tail 0]

def utf8 (cs : List Char) : List UInt8 := cs.flatMap utf8Char

def isTail (b : UInt8) : Bool := 0x80 ≤ b.toNat && b.toNat < 0xC0

/-- The bytes that may follow the first byte of a character of several bytes: the shortest form
only, and no half of a surrogate pair. -/
def isSecond (first second : UInt8) : Bool :=
  let f := first.toNat
  let s := second.toNat
  if f = 0xE0 then 0xA0 ≤ s && s < 0xC0
  else if f = 0xED then 0x80 ≤ s && s < 0xA0
  else if f = 0xF0 then 0x90 ≤ s && s < 0xC0
  else if f = 0xF4 then 0x80 ≤ s && s < 0x90
  else isTail second

/-- The number of bytes of a character by its first byte; zero for a byte that begins none. -/
def sizeOfFirst (b : UInt8) : Nat :=
  let n := b.toNat
  if n < 0x80 then 1
  else if n < 0xC2 then 0
  else if n < 0xE0 then 2
  else if n < 0xF0 then 3
  else if n < 0xF5 then 4
  else 0

/-- How many of the bytes after a first byte go on with its character, at most `left`. -/
def tailsAfter (first : UInt8) (left : Nat) : List UInt8 → Nat
  | [] => 0
  | b :: rest =>
    if left = 0 || !isSecond first b then 0
    else 1 + (rest.take (left - 1)).findIdx (!isTail ·)

/-- The number that the bytes of a character stand for: the low bits of the first byte and six bits
of each further one. -/
def ofTails (first : Nat) (tails : List UInt8) : Nat :=
  tails.foldl (fun n b => n * 64 + b.toNat % 64) first

/-- A piece of a sequence of bytes that is read as UTF-8. -/
inductive Utf8Piece where
  | char (c : Char)
  /-- Bytes that are no character. -/
  | stray (bytes : List UInt8)

/-- The piece at the head of bytes that begin with the given one, and how many bytes follow the
first in it. -/
def utf8Piece (first : UInt8) (rest : List UInt8) : Utf8Piece × Nat :=
  match sizeOfFirst first with
  | 0 => (.stray [first], 0)
  | size + 1 =>
    let tails := tailsAfter first size rest
    if tails < size then (.stray (first :: rest.take tails), tails)
    else
      let low := if size = 0 then first.toNat else first.toNat % Nat.pow 2 (6 - size)
      (.char (Char.ofNat (ofTails low (rest.take size))), size)

def utf8Pieces : List UInt8 → List Utf8Piece
  | [] => []
  | first :: rest =>
    let (piece, more) := utf8Piece first rest
    piece :: utf8Pieces (rest.drop more)
termination_by bs => bs.length
decreasing_by simp only [List.length_drop, List.length_cons]; omega

/-- What stands for bytes that are no character. -/
def replacement : Char := Char.ofNat 0xFFFD

/-- The text of bytes, with a replacement character for each stray run. -/
def ofUtf8 (bs : List UInt8) : List Char :=
  (utf8Pieces bs).map fun
    | .char c => c
    | .stray _ => replacement

/-- The text of bytes that are all characters. -/
def ofUtf8? (bs : List UInt8) : Option (List Char) :=
  (utf8Pieces bs).mapM fun
    | .char c => some c
    | .stray _ => none

/-! ### Stray bytes as halves -/

/-- The half of a surrogate pair that keeps a stray byte. -/
def keptByte (b : UInt8) : Point := .ofNat (0xDC00 + b.toNat)

/-- The stray byte that a point keeps. -/
def keptByte? (p : Point) : Option UInt8 :=
  let n := p.toNat
  if 0xDC80 ≤ n ∧ n < 0xDD00 then some (UInt8.ofNat (n - 0xDC00)) else none

/-- The text of bytes, with a half of a surrogate pair for each stray byte. -/
def ofUtf8Escaped (bs : List UInt8) : Text :=
  (utf8Pieces bs).flatMap fun
    | .char c => [.char c]
    | .stray bytes => bytes.map keptByte

/-- The bytes of a point; none for half of a surrogate pair that keeps no byte. -/
def utf8Point? : Point → Option (List UInt8)
  | .char c => some (utf8Char c)
  | .half n => (keptByte? (.half n)).map ([·])

/-- The bytes of a text, in which halves of surrogate pairs may keep stray bytes. -/
def utf8Escaped? (t : Text) : Option (List UInt8) := (t.mapM utf8Point?).map List.flatten

end AlertRelay.Text
