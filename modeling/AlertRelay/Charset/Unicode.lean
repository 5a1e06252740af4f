import AlertRelay.Charset.Idna
import AlertRelay.Charset.Named
import AlertRelay.Json.Reader

/-!
# Charsets of all characters

ASCII and the charset of the first 256 characters, the forms of Unicode in units of 8, 16 and 32
bits and in 7 bits, and four in which ASCII writes other characters by escapes or as names of hosts.
-/

namespace AlertRelay.Charset

/-! ### Units of 16 and 32 bits -/

inductive ByteOrder where
  | little
  | big
  deriving DecidableEq

def ByteOrder.number (o : ByteOrder) (bs : List UInt8) : Nat :=
  let ordered := match o with
    | .little => bs.reverse
    | .big => bs
  ordered.foldl (fun n b => n * 256 + b.toNat) 0

/-- Whether a number is the first half of a surrogate pair. -/
def isHighHalf (n : Nat) : Bool := 0xD800 ≤ n && n < 0xDC00

/-- Whether a number is the second half of a surrogate pair. -/
def isLowHalf (n : Nat) : Bool := 0xDC00 ≤ n && n < 0xE000

def joinHalves (high low : Nat) : Point :=
  .ofNat (0x10000 + (high - 0xD800) * 0x400 + (low - 0xDC00))

def utf16In (o : ByteOrder) : Charset Unit :=
  plain fun b bs =>
    match bs with
    | [] => .stray 0 ()
    | c :: rest =>
      let n := o.number [b, c]
      if isLowHalf n then .stray 1 ()
      else if !isHighHalf n then .point () (.ofNat n) 1
      else
        match rest with
        | d :: e :: _ =>
          let m := o.number [d, e]
          if isLowHalf m then .point () (joinHalves n m) 3 else .stray 1 ()
        | short => .stray (1 + short.length) ()

def utf32In (o : ByteOrder) : Charset Unit :=
  plain fun b bs =>
    match bs with
    | c :: d :: e :: _ =>
      let n := o.number [b, c, d, e]
      if n < 0x110000 && !isHighHalf n && !isLowHalf n then .point () (.ofNat n) 3 else .stray 3 ()
    | short => .stray short.length ()

/-- Units of 16 bits; their mark at the beginning tells the order. -/
def decodeUtf16? : Decoder
  | 0xFF :: 0xFE :: bs => (utf16In .little).decode? bs
  | 0xFE :: 0xFF :: bs => (utf16In .big).decode? bs
  | bs => (utf16In .little).decode? bs

/-- Units of 32 bits; their mark at the beginning tells the order. -/
def decodeUtf32? : Decoder
  | 0xFF :: 0xFE :: 0 :: 0 :: bs => (utf32In .little).decode? bs
  | 0 :: 0 :: 0xFE :: 0xFF :: bs => (utf32In .big).decode? bs
  | bs => (utf32In .little).decode? bs

/-- Units of 8 bits; stray bytes are kept. -/
def decodeUtf8? (bs : List UInt8) : Option Text := some (Text.ofUtf8Escaped bs)

/-- Units of 8 bits without the mark at the beginning. -/
def decodeMarkedUtf8? : Decoder
  | 0xEF :: 0xBB :: 0xBF :: bs => decodeUtf8? bs
  | bs => decodeUtf8? bs

/-! ### Seven bits -/

/-- A stretch of base64 in a text of seven bits: the bits that make up no whole unit yet, how many
they are, and the first half of a surrogate pair that waits for the second. -/
structure Stretch where
  bits : Nat
  count : Nat
  high : Option Nat

/-- Whether a stretch may end: nothing waits, and less than a digit of zeros is left. -/
def Stretch.mayEnd (s : Stretch) : Bool := s.count < 6 && s.bits = 0

/-- The points that a stretch gives out with a unit, and the half that then waits. -/
def takeUnit (high : Option Nat) (n : Nat) : Text × Option Nat :=
  match high with
  | some h =>
    if isLowHalf n then ([joinHalves h n], none)
    else if isHighHalf n then ([.ofNat h], some n)
    else ([.ofNat h, .ofNat n], none)
  | none => if isHighHalf n then ([], some n) else ([.ofNat n], none)

def Stretch.next (s : Stretch) (digit : Nat) : Text × Stretch :=
  let bits := s.bits * 64 + digit
  let count := s.count + 6
  if count < 16 then ([], ⟨bits, count, s.high⟩)
  else
    let left := count - 16
    let (ps, high) := takeUnit s.high (bits / Nat.pow 2 left)
    (ps, ⟨bits % Nat.pow 2 left, left, high⟩)

def base64Digit? (b : UInt8) : Option Nat :=
  let n := b.toNat
  if 65 ≤ n ∧ n ≤ 90 then some (n - 65)
  else if 97 ≤ n ∧ n ≤ 122 then some (n - 71)
  else if 48 ≤ n ∧ n ≤ 57 then some (n + 4)
  else if n = 43 then some 62
  else if n = 47 then some 63
  else none

/-- What is found outside a stretch: ASCII stands for itself, and a plus sign opens a stretch; with
a minus sign behind it, it stands for itself. -/
def directUtf7 (b : UInt8) (bs : List UInt8) : Reading (Option Stretch) :=
  if b = 43 then
    match bs with
    | [] => .points [] 0 (some ⟨0, 0, none⟩)
    | c :: _ =>
      if c = 45 then .point none (bytePoint b) 1
      else if (base64Digit? c).isSome then .points [] 0 (some ⟨0, 0, none⟩)
      else .refused
  else if b.toNat < 0x80 then .point none (bytePoint b) 0
  else .stray 0 none

/-- What is found behind the end of a stretch, which a minus sign may mark. A half that still waits
is given out before ASCII. -/
def leaveStretch (s : Stretch) (b : UInt8) (bs : List UInt8) : Reading (Option Stretch) :=
  if !s.mayEnd then .refused
  else
    let before : Text := match s.high with
      | some h => if b.toNat < 0x80 ∧ b ≠ 43 then [.ofNat h] else []
      | none => []
    if b = 45 then .points before 0 none
    else
      match directUtf7 b bs with
      | .points ps more state => .points (before ++ ps) more state
      | reading => reading

def utf7 : Charset (Option Stretch) :=
  ⟨none,
    fun state b bs =>
      match state with
      | none => directUtf7 b bs
      | some s =>
        match base64Digit? b with
        | some digit =>
          let (ps, s) := s.next digit
          .points ps 0 (some s)
        | none => leaveStretch s b bs,
    fun state =>
      match state with
      | none => true
      | some s => s.mayEnd && s.high.isNone⟩

/-! ### Escapes -/

/-- The character of the hexadecimal digits at the head of bytes: exactly `width` of them, and no
number that is too high. -/
def hexPoint? (width : Nat) (bs : List UInt8) : Option Point := do
  let digits := bs.take width
  if digits.length < width then none
  let n ← digits.foldlM (fun n b => (Json.hexValue? (Char.ofNat b.toNat)).map (16 * n + ·)) 0
  if n < 0x110000 then some (.ofNat n) else none

/-- The escape of hexadecimal digits behind two bytes. -/
def hexEscape (width : Nat) (bs : List UInt8) : Reading Unit :=
  match hexPoint? width bs with
  | some p => .point () p (width + 1)
  | none => .refused

def isOctal (b : UInt8) : Bool := 48 ≤ b.toNat && b.toNat ≤ 55

def octalEscape (bs : List UInt8) : Reading Unit :=
  let digits := (bs.take 3).takeWhile isOctal
  .point () (.ofNat (digits.foldl (fun n b => 8 * n + (b.toNat - 48)) 0)) digits.length

def letterEscapes : List (Char × Nat) :=
  [('\\', 92), ('\'', 39), ('"', 34), ('b', 8), ('f', 12), ('t', 9), ('n', 10), ('r', 13),
   ('v', 11), ('a', 7)]

/-- Text of the first 256 characters in which a backslash opens an escape: a letter for a control
character, octal or hexadecimal digits, or a line feed, which vanishes. A backslash before anything
else stands for itself. -/
def escaped : Charset Unit :=
  plain fun b bs =>
    if b ≠ 92 then .point () (bytePoint b) 0
    else
      match bs with
      | [] => .refused
      | c :: rest =>
        if c = 10 then .points [] 1 ()
        else if isOctal c then octalEscape bs
        else
          match Char.ofNat c.toNat with
          | 'x' => hexEscape 2 rest
          | 'u' => hexEscape 4 rest
          | 'U' => hexEscape 8 rest
          | 'N' => .refused
          | letter =>
            match letterEscapes.lookup letter with
            | some n => .point () (.ofNat n) 1
            | none => .points [bytePoint b, bytePoint c] 1 ()

/-- Text of the first 256 characters in which only a backslash with a letter and four or eight
hexadecimal digits is an escape. -/
def rawEscaped : Charset Unit :=
  plain fun b bs =>
    match bs with
    | [] => .point () (bytePoint b) 0
    | c :: rest =>
      if b ≠ 92 then .point () (bytePoint b) 0
      else if c = 117 then hexEscape 4 rest
      else if c = 85 then hexEscape 8 rest
      else .points [bytePoint b, bytePoint c] 1 ()

/-! ### Names of hosts -/

def charsOf (bs : List UInt8) : List Char := bs.map fun b => Char.ofNat b.toNat

def decodePunycode? (bs : List UInt8) : Option Text := Text.Punycode.decode? (charsOf bs)

/-- A name of a host, label by label; ASCII without the mark of other scripts stands for itself. -/
def decodeHostName? (bs : List UInt8) : Option Text :=
  let cs := charsOf bs
  if Idna.isAscii cs && !(List.range cs.length).any fun i => Idna.mark.isPrefixOf (cs.drop i) then
    some (Text.ofChars cs)
  else do
    let labels := Text.fields '.' cs
    let (labels, ending) :=
      if labels.getLast? = some [] then (labels.dropLast, ['.']) else (labels, [])
    let read ← labels.mapM Idna.toUnicode?
    some (Text.ofChars (Text.joinWith ['.'] read ++ ending))

end AlertRelay.Charset

namespace AlertRelay.NamedCharset

def unicodeCharsets : List NamedCharset :=
  [ofCharset "ascii"
      ["646", "ansi_x3.4_1968", "ansi_x3_4_1968", "ansi_x3.4_1986", "cp367", "csascii", "ibm367",
        "iso646_us", "iso_646.irv_1991", "iso_ir_6", "us", "us_ascii"] Charset.ascii,
    ofCharset "latin_1"
      ["8859", "cp819", "csisolatin1", "ibm819", "iso8859", "iso8859_1", "iso_8859_1",
        "iso_8859_1_1987", "iso_ir_100", "l1", "latin", "latin1"] Charset.latin,
    ofCharset "charmap" [] Charset.latin,
    ⟨"utf_8", ["u8", "utf", "utf8", "utf8_ucs2", "utf8_ucs4", "cp65001"], Charset.decodeUtf8?⟩,
    ⟨"utf_8_sig", [], Charset.decodeMarkedUtf8?⟩,
    ⟨"utf_16", ["u16", "utf16"], Charset.decodeUtf16?⟩,
    ofCharset "utf_16_be" ["unicodebigunmarked", "utf_16be"] (Charset.utf16In .big),
    ofCharset "utf_16_le" ["unicodelittleunmarked", "utf_16le"] (Charset.utf16In .little),
    ⟨"utf_32", ["u32", "utf32"], Charset.decodeUtf32?⟩,
    ofCharset "utf_32_be" ["utf_32be"] (Charset.utf32In .big),
    ofCharset "utf_32_le" ["utf_32le"] (Charset.utf32In .little),
    ofCharset "utf_7" ["u7", "utf7", "unicode_1_1_utf_7"] Charset.utf7,
    ofCharset "unicode_escape" [] Charset.escaped,
    ofCharset "raw_unicode_escape" [] Charset.rawEscaped,
    ⟨"punycode", [], Charset.decodePunycode?⟩,
    ⟨"idna", [], Charset.decodeHostName?⟩,
    ⟨"undefined", [], fun _ => none⟩]

end AlertRelay.NamedCharset
