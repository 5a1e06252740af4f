import AlertRelay.Charset.Chinese
import AlertRelay.Charset.Japanese
import AlertRelay.Charset.Korean

/-!
# Charsets with escapes

In seven bits, a charset with several sets of characters has three slots for them. An escape puts a
set into a slot. Bytes are read in the set of the first slot, behind a shift in that of the second,
and an escape of its own takes one character from the third. Escapes of other kinds stand for
themselves.
-/

namespace AlertRelay.Charset

/-! ### Sets of characters -/

/-- A set of characters, with the last byte of its escape: one byte or two bytes for each character,
or the upper half of a set of eight bits, of which characters are taken one by one. -/
inductive GraphicSet where
  | single (final : Char) (find? : Nat → Option Text)
  | double (final : Char) (find? : Nat → Nat → Option Text)
  | upper (final : Char) (find? : Nat → Option Text)

namespace GraphicSet

def ascii : GraphicSet := .single 'B' fun b => if b < 0x80 then some (one b) else none

/-- The Roman letters of JIS X 0201. -/
def roman : GraphicSet := .single 'J' fun b => if b < 0x80 then some (Charset.roman b) else none

/-- The narrow katakana of JIS X 0201. -/
def katakana : GraphicSet := .single 'I' fun b => katakana? (b + 0x80)

def japanese : GraphicSet := .double 'B' jisX0208.inRow?

/-- JIS X 0208 by the escape of its first edition. -/
def olderJapanese : GraphicSet := .double '@' jisX0208.inRow?

/-- The supplement JIS X 0212. -/
def supplement : GraphicSet := .double 'D' jisX0212.inRow?

/-- The first plane of an edition of JIS X 0213, with a tilde in the cell of its wide form. -/
def firstPlane (e : Edition) : GraphicSet :=
  .double (match e with | .first => 'O' | .second => 'Q') fun row cell =>
    if e.lacks row cell then none
    else if row = 0x22 ∧ cell = 0x32 then some (one 0x7E)
    else firstPlane? row cell

def secondPlane (e : Edition) : GraphicSet := .double 'P' (secondPlane? e)

def korean : GraphicSet := .double 'C' ksX1001.inRow?

def chinese : GraphicSet := .double 'A' gb2312Table.inRow?

/-- The upper half of the Latin letters of Western Europe. -/
def western : GraphicSet := .upper 'A' fun b => if b < 0x80 then some (one (b + 0x80)) else none

def greekRuns : CharTable :=
  .ofRuns [(0x20, "\xa0‘’£"), (0x26, "¦§¨©"), (0x2B, "«¬\xad�―°±²³΄΅Ά·ΈΉΊ»Ό½ΎΏΐΑΒΓΔΕΖΗΘΙΚΛΜΝΞΟΠΡ"),
    (0x53, "ΣΤΥΦΧΨΩΪΫάέήίΰαβγδεζηθικλμνξοπρςστυφχψωϊϋόύώ")]

def greek : GraphicSet :=
  .upper 'F' fun b => if b < 0x20 then some (one (b + 0x80)) else greekRuns.text? b

/-- Whether this is the set of two bytes with the last byte of an escape. -/
def isDouble (final : Char) : GraphicSet → Bool
  | .double f _ => f == final
  | _ => false

/-- Whether this is a set of one byte with the last byte of an escape. -/
def isSingle (final : Char) : GraphicSet → Bool
  | .single f _ | .upper f _ => f == final
  | .double .. => false

end GraphicSet

/-! ### Slots -/

inductive Slot where
  | first
  | second
  | third

/-- What an earlier escape or shift has left: the sets in the three slots, whether a shift holds,
and whether an escape that stands for itself goes on. -/
structure Slots where
  first : GraphicSet
  second : GraphicSet
  third : GraphicSet
  shifted : Bool
  inEscape : Bool

namespace Slots

/-- All slots hold ASCII. -/
def start : Slots := ⟨.ascii, .ascii, .ascii, false, false⟩

def put (s : Slots) (set : GraphicSet) : Slot → Slots
  | .first => { s with first := set }
  | .second => { s with second := set }
  | .third => { s with third := set }

def readIn (s : Slots) (b : UInt8) (bs : List UInt8) : Reading Slots :=
  match if s.shifted then s.second else s.first with
  | .single _ find? =>
    match find? b.toNat with
    | some text => .points text 0 s
    | none => .refused
  | .double _ find? =>
    match bs.head?.bind fun c => find? b.toNat c.toNat with
    | some text => .points text 1 s
    | none => .refused
  | .upper .. => .refused

def thirdText? (s : Slots) (b : UInt8) : Option Text :=
  match s.third with
  | .single 'B' find? | .upper _ find? => find? b.toNat
  | _ => none

end Slots

/-! ### Escapes -/

/-- A charset with escapes: its sets besides ASCII, whether it has shifts and a third slot, and
whether other marks may stand before the escape of JIS X 0208. -/
structure Escapes where
  sets : List GraphicSet
  shifts : Bool
  thirdSlot : Bool
  marked : Bool

/-- Whether a byte is the last of an escape: a large letter or an at sign. -/
def isFinal (b : UInt8) : Bool := 0x40 ≤ b.toNat && b.toNat ≤ 0x5A

/-- Whether a byte behind ESC begins the escape of a set. -/
def opensDesignation (b : UInt8) : Bool := "()$.&".toList.contains (Char.ofNat b.toNat)

namespace Escapes

def double? (e : Escapes) (final : UInt8) : Option GraphicSet :=
  e.sets.find? (·.isDouble (Char.ofNat final.toNat))

def single? (e : Escapes) (final : UInt8) : Option GraphicSet :=
  (.ascii :: e.sets).find? (·.isSingle (Char.ofNat final.toNat))

/-- The bytes of an escape between ESC and the last one. An at sign behind an ampersand is a mark,
which may stand before the escape of JIS X 0208. -/
def middle (e : Escapes) : List UInt8 → List UInt8
  | [] => []
  | 0x26 :: 0x40 :: bs => if e.marked then 0x26 :: 0x40 :: e.middle bs else [0x26]
  | b :: bs => if isFinal b then [] else b :: e.middle bs

/-- The number of bytes behind ESC in the escape that puts a set into a slot, with the slot and the
set. -/
def designation? (e : Escapes) (bs : List UInt8) : Option (Nat × Slot × GraphicSet) := do
  let middle := e.middle bs
  let final ← bs[middle.length]?
  let (slot, set) ← match middle with
    | [0x24] | [0x24, 0x28] => (e.double? final).map (Slot.first, ·)
    | [0x24, 0x29] => (e.double? final).map (Slot.second, ·)
    | [0x28] => (e.single? final).map (Slot.first, ·)
    | [0x29] => (e.single? final).map (Slot.second, ·)
    | [0x2E] => if e.thirdSlot then (e.single? final).map (Slot.third, ·) else none
    | [_, _, 0x1B, 0x24] =>
      if e.marked && final = 0x42 then (e.double? final).map (Slot.first, ·) else none
    | _ => none
  return (middle.length + 1, slot, set)

/-- Reads an escape; the bytes are those behind ESC. -/
def readEscape (e : Escapes) (s : Slots) : List UInt8 → Reading Slots
  | [] => .refused
  | c :: rest =>
    if opensDesignation c then
      match e.designation? (c :: rest) with
      | some (more, slot, set) => .points [] more (s.put set slot)
      | none => .refused
    else if e.thirdSlot && c = 0x4E then
      match rest.head?.bind s.thirdText? with
      | some text => .points text 2 s
      | none => .refused
    else .points (one 0x1B) 0 { s with inEscape := true }

/-- What is found at the head of bytes. The end of a line ends a shift. -/
def read (e : Escapes) (s : Slots) (b : UInt8) (bs : List UInt8) : Reading Slots :=
  if s.inEscape then .point { s with inEscape := !isFinal b } (bytePoint b) 0
  else if b = 0x1B then e.readEscape s bs
  else if b = 0x0F && e.shifts then .points [] 0 { s with shifted := false }
  else if b = 0x0E && e.shifts then .points [] 0 { s with shifted := true }
  else if b = 0x0A then .point { s with shifted := false } (bytePoint b) 0
  else if b.toNat < 0x20 then .point s (bytePoint b) 0
  else if 0x80 ≤ b.toNat then .stray 0 s
  else s.readIn b bs

def charset (e : Escapes) : Charset Slots := ⟨.start, e.read, fun _ => true⟩

/-- A Japanese charset: no shifts, and marks before the escape of JIS X 0208. -/
def japanese (sets : List GraphicSet) : Escapes := ⟨sets, false, false, true⟩

end Escapes

end AlertRelay.Charset

namespace AlertRelay.NamedCharset

open Charset

/-- A charset with escapes under its name; its other names differ from it in underscores. -/
def ofEscapes (aliases : List String) (variant : String) (e : Escapes) : NamedCharset :=
  ofCharset ("iso2022_" ++ variant) (aliases ++ ["iso2022" ++ variant, "iso_2022_" ++ variant])
    e.charset

def iso2022Charsets : List NamedCharset :=
  [ofEscapes ["csiso2022jp"] "jp" (.japanese [.japanese, .olderJapanese, .roman]),
    ofEscapes [] "jp_1" (.japanese [.japanese, .olderJapanese, .roman, .supplement]),
    ofEscapes [] "jp_2"
      ⟨[.japanese, .olderJapanese, .roman, .supplement, .korean, .chinese, .western, .greek],
        false, true, true⟩,
    ofEscapes [] "jp_2004" (.japanese [.japanese, .firstPlane .second, .secondPlane .second]),
    ofEscapes [] "jp_3" (.japanese [.japanese, .firstPlane .first, .secondPlane .first]),
    ofEscapes [] "jp_ext" (.japanese [.japanese, .olderJapanese, .roman, .katakana, .supplement]),
    ofEscapes ["csiso2022kr"] "kr" ⟨[.korean], true, false, false⟩]

end AlertRelay.NamedCharset
