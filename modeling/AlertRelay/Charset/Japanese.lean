import AlertRelay.Charset.JisX0208
import AlertRelay.Charset.JisX0212
import AlertRelay.Charset.JisX0213
import AlertRelay.Charset.Named
import AlertRelay.Charset.Rows
import AlertRelay.Charset.Windows932

/-!
# Japanese charsets

The set JIS X 0208 has a supplement, JIS X 0212, and a successor of two planes, JIS X 0213, with two
editions. They are written either with upper bytes for the numbers of rows and cells, where a byte
0x8F stands before the supplement or the second plane, or with the two rows of each first byte in
one. Both ways also write the narrow letters of katakana.
-/

namespace AlertRelay.Charset

/-- The narrow letter of katakana of a byte. -/
def katakana? (b : Nat) : Option Text :=
  if 0xA1 ≤ b ∧ b ≤ 0xDF then some (one (0xFEC0 + b)) else none

/-- The Roman letters of JIS X 0201: ASCII with a sign of yen and an overline. -/
def roman (b : Nat) : Text :=
  if b = 0x5C then one 0xA5 else if b = 0x7E then one 0x203E else one b

/-! ### The planes of JIS X 0213 -/

inductive Edition where
  | first
  | second
  deriving DecidableEq

/-- Whether a cell of the first plane belongs to the second edition alone. -/
def Edition.lacks (e : Edition) (row cell : Nat) : Bool :=
  e = .first && (place? row cell).any jisX0213Added.contains

def firstPlane? (row cell : Nat) : Option Text := do
  let i ← place? row cell
  match jisX0208.text? i with
  | some text => some text
  | none =>
    match jisX0213First.text? i with
    | some text => some text
    | none => (jisX0213Pairs.lookup i).map Text.ofString

/-- The text of a cell of the second plane. One character has another form in the first edition. -/
def secondPlane? (e : Edition) (row cell : Nat) : Option Text :=
  if e = .first ∧ row = 0x7D ∧ cell = 0x3B then some (one 0x9B1D)
  else jisX0213Second.inRow? row cell

/-! ### Upper bytes -/

/-- A charset of ASCII, narrow katakana behind a byte 0x8E, characters of three bytes behind a byte
0x8F, and others of two bytes; rows and cells are given without the 0x80 that their bytes have
added. -/
def extended (readTwo : Nat → Nat → Reading Unit) (three? : Nat → Nat → Option Text) :
    Charset Unit :=
  plain fun b bs =>
    if b.toNat < 0x80 then .point () (bytePoint b) 0
    else if b = 0x8F then
      match bs with
      | c :: d :: _ => .textOr () 2 (three? (c.toNat - 0x80) (d.toNat - 0x80))
      | short => .stray short.length ()
    else
      match bs with
      | [] => .stray 0 ()
      | c :: _ =>
        if b = 0x8E then .textOr () 1 (katakana? c.toNat)
        else readTwo (b.toNat - 0x80) (c.toNat - 0x80)

/-- JIS X 0208 with its supplement. -/
def eucJp : Charset Unit :=
  extended (fun row cell => .textOr () 1 (jisX0208.inRow? row cell)) jisX0212.inRow?

/-- An edition of JIS X 0213, with the supplement where its second plane has nothing. -/
def eucJisX0213 (e : Edition) : Charset Unit :=
  extended
    (fun row cell =>
      if e.lacks row cell then .stray 1 () else .textOr () 1 (firstPlane? row cell))
    (fun row cell =>
      match secondPlane? e row cell with
      | some text => some text
      | none => jisX0212.inRow? row cell)

/-! ### Shifted rows -/

def isShiftedLead (lead : Nat) : Bool := 0x81 ≤ lead && lead ≤ 0x9F || 0xE0 ≤ lead && lead ≤ 0xFC

def isShiftedTrail (trail : Nat) : Bool := 0x40 ≤ trail && trail ≤ 0xFC && trail ≠ 0x7F

/-- The row, counted from zero, and the cell that a pair of bytes stands for. -/
def shiftedCell? (lead trail : Nat) : Option (Nat × Nat) :=
  if isShiftedLead lead && isShiftedTrail trail then
    let rows := 2 * (if lead < 0xE0 then lead - 0x81 else lead - 0xC1)
    let i := trailPlace trail
    some (if i < 94 then (rows, i + 0x21) else (rows + 1, i - 94 + 0x21))
  else none

/-- The text of a pair of bytes in JIS X 0208. -/
def shifted? (lead trail : Nat) : Option Text :=
  (shiftedCell? lead trail).bind fun (row, cell) => jisX0208.inRow? (row + 0x21) cell

/-- A charset of single bytes and of pairs that begin with a shifted lead. -/
def shifted (single? : Nat → Option Text) (readTwo : UInt8 → List UInt8 → Reading Unit) :
    Charset Unit :=
  plain fun b bs =>
    match single? b.toNat with
    | some text => .points text 0 ()
    | none => if isShiftedLead b.toNat then readTwo b bs else .stray 0 ()

/-- ASCII, narrow katakana and JIS X 0208. -/
def shiftJis : Charset Unit :=
  shifted (fun b => if b < 0x80 then some (one b) else katakana? b) (readPair shifted?)

/-- The row of the second plane that a row counted from zero behind the first plane stands for. -/
def secondPlaneRow (row : Nat) : Nat :=
  if 0x67 ≤ row then row + 0x07
  else if 0x63 ≤ row ∨ row = 0x5F then row - 0x37
  else row - 0x3D

/-- What a pair of bytes stands for in an edition of JIS X 0213. A backslash and a tilde take the
cells of their wide forms, since single bytes stand for a sign of yen and an overline in their
place. -/
def readShifted (e : Edition) (lead trail : Nat) : Reading Unit :=
  match shiftedCell? lead trail with
  | none => .stray 0 ()
  | some (row, cell) =>
    if row < 94 then
      if e.lacks (row + 0x21) cell then .stray 1 ()
      else if row = 0 ∧ cell = 0x40 then .points (one 0x5C) 1 ()
      else if row = 1 ∧ cell = 0x32 then .points (one 0x7E) 1 ()
      else .textOr () 1 (firstPlane? (row + 0x21) cell)
    else .textOr () 1 (secondPlane? e (secondPlaneRow row) cell)

/-- Roman letters, narrow katakana and an edition of JIS X 0213. -/
def shiftJisX0213 (e : Edition) : Charset Unit :=
  shifted (fun b => if b < 0x80 then some (roman b) else katakana? b) fun
    | _, [] => .stray 0 ()
    | b, c :: _ => readShifted e b.toNat c.toNat

/-- The private character of a pair of bytes. -/
def privateShifted? (lead trail : Nat) : Option Text :=
  if 0xF0 ≤ lead ∧ lead ≤ 0xF9 ∧ isShiftedTrail trail then
    some (one (0xE000 + 188 * (lead - 0xF0) + trailPlace trail))
  else none

/-- The single bytes of the Japanese code page of Windows; some stand for private characters. -/
def windows932Byte? (b : Nat) : Option Text :=
  if b ≤ 0x80 then some (one b)
  else if b = 0xA0 then some (one 0xF8F0)
  else if 0xFD ≤ b then some (one (0xF8F1 + (b - 0xFD)))
  else katakana? b

def windows932Pair? (lead trail : Nat) : Option Text :=
  match windows932.ofBytes? lead trail with
  | some text => some text
  | none =>
    match privateShifted? lead trail with
    | some text => some text
    | none => shifted? lead trail

/-- The Japanese code page of Windows: JIS X 0208 with other signs, and private characters. -/
def windows932Page : Charset Unit := shifted windows932Byte? (readPair windows932Pair?)

end AlertRelay.Charset

namespace AlertRelay.NamedCharset

def japaneseCharsets : List NamedCharset :=
  [ofCharset "euc_jp" ["eucjp", "u_jis", "ujis"] Charset.eucJp,
    ofCharset "euc_jis_2004" ["euc_jis2004", "eucjis2004", "jisx0213"]
      (Charset.eucJisX0213 .second),
    ofCharset "euc_jisx0213" ["eucjisx0213"] (Charset.eucJisX0213 .first),
    ofCharset "shift_jis" ["csshiftjis", "s_jis", "shiftjis", "sjis", "x_mac_japanese"]
      Charset.shiftJis,
    ofCharset "shift_jis_2004" ["s_jis_2004", "shiftjis2004", "sjis_2004"]
      (Charset.shiftJisX0213 .second),
    ofCharset "shift_jisx0213" ["s_jisx0213", "shiftjisx0213", "sjisx0213"]
      (Charset.shiftJisX0213 .first),
    ofCharset "cp932" ["932", "ms932", "ms_kanji", "mskanji"] Charset.windows932Page]

end AlertRelay.NamedCharset
