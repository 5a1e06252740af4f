import AlertRelay.Charset.Big5Extensions
import AlertRelay.Charset.Big5Table
import AlertRelay.Charset.Gb18030
import AlertRelay.Charset.Gb2312
import AlertRelay.Charset.Named
import AlertRelay.Charset.Rows

/-!
# Chinese charsets

The set GB 2312 has two extensions: GBK, which adds all other ideographs of the first version of
Unicode in their order, and GB 18030, which adds all characters of Unicode with four bytes. Another
charset writes GB 2312 in seven bits. Big5 has extensions for Windows and for Hong Kong.
-/

namespace AlertRelay.Charset

/-! ### GB 2312 -/

def gb2312 : Charset Unit := pairs gb2312Table.inUpperRow?

/-- GB 2312 in seven bits: a tilde and a brace open and close a stretch of pairs. The state tells
whether such a stretch is open. -/
def hz : Charset Bool where
  start := false
  read open? b bs :=
    if 0x80 ≤ b.toNat then .stray 0 open?
    else if b = 0x7E then
      match open?, bs with
      | false, 0x7E :: _ => .point false (.char '~') 1
      | false, 0x7B :: _ => .points [] 1 true
      | false, 0x0A :: _ => .points [] 1 false
      | true, 0x7D :: _ => .points [] 1 false
      | _, _ => .refused
    else if open? then
      match bs with
      | [] => .refused
      | c :: _ =>
        match gb2312Table.inRow? b.toNat c.toNat with
        | some text => .points text 1 true
        | none => .refused
    else .point false (bytePoint b) 0
  mayEnd _ := true

/-! ### GBK -/

/-- The ideographs from U+4E00 to U+9FA5 that GB 2312 lacks. -/
def otherIdeographs : Array Nat :=
  let ideographs := (List.range 0x51A6).map (0x4E00 + ·)
  (without ideographs (gb2312Table.numbers.filter (0x4E00 ≤ ·)).mergeSort).toArray

/-- The number of a pair among those that GB 2312 leaves free for ideographs: 190 in each row as far
as 0xA0, and 96 in each row from 0xAA on. -/
def ideographPlace? (lead trail : Nat) : Option Nat :=
  if trail < 0x40 ∨ trail = 0x7F ∨ trail = 0xFF then none
  else if 0x81 ≤ lead ∧ lead ≤ 0xA0 then some ((lead - 0x81) * 190 + trailPlace trail)
  else if 0xAA ≤ lead ∧ trail ≤ 0xA0 then some (32 * 190 + (lead - 0xAA) * 96 + trailPlace trail)
  else none

/-- The text of two bytes in GBK, where a dash and a middle dot differ from GB 2312. -/
def gbk? (lead trail : Nat) : Option Text :=
  if lead = 0xA1 ∧ trail = 0xAA then some (one 0x2014)
  else if lead = 0xA1 ∧ trail = 0xA4 then some (one 0xB7)
  else
    match gb2312Table.inUpperRow? lead trail with
    | some text => some text
    | none =>
      match gbkSigns.ofBytes? lead trail with
      | some text => some text
      | none => (ideographPlace? lead trail).bind fun i => otherIdeographs[i]?.map one

def gbk : Charset Unit := pairs gbk?

/-! ### GB 18030 -/

/-- The private character of two bytes in three areas of GB 18030. -/
def privateArea? (lead trail : Nat) : Option Text :=
  if 0xA1 ≤ trail ∧ trail ≤ 0xFE then
    if 0xAA ≤ lead ∧ lead ≤ 0xAF then some (one (0xE000 + (lead - 0xAA) * 94 + (trail - 0xA1)))
    else if 0xF8 ≤ lead ∧ lead ≤ 0xFE then some (one (0xE234 + (lead - 0xF8) * 94 + (trail - 0xA1)))
    else none
  else if 0xA1 ≤ lead ∧ lead ≤ 0xA7 ∧ 0x40 ≤ trail ∧ trail ≤ 0xA0 ∧ trail ≠ 0x7F then
    some (one (0xE4C6 + (lead - 0xA1) * 96 + trailPlace trail))
  else none

def gb18030Pair? (lead trail : Nat) : Option Text :=
  match gbk? lead trail with
  | some text => some text
  | none =>
    match gb18030Signs.ofBytes? lead trail with
    | some text => some text
    | none => privateArea? lead trail

/-- The character of the number of four bytes: in runs of characters as far as U+FFFF, then all
others in order. -/
def gb18030Character? (n : Nat) : Option Text :=
  if n < 39420 then
    (gb18030Runs.reverse.find? (·.1 ≤ n)).map fun (first, character) =>
      one (character + (n - first))
  else if 189000 ≤ n ∧ n < 189000 + 0x100000 then some (one (0x10000 + (n - 189000)))
  else none

/-- The text of four bytes, the second and fourth of which are digits. -/
def gb18030Four? (first second third fourth : Nat) : Option Text :=
  if 0x81 ≤ first ∧ first ≤ 0xFE ∧ 0x81 ≤ third ∧ third ≤ 0xFE ∧ 0x30 ≤ fourth ∧ fourth ≤ 0x39 then
    gb18030Character?
      ((first - 0x81) * 12600 + (second - 0x30) * 1260 + (third - 0x81) * 10 + (fourth - 0x30))
  else none

def gb18030 : Charset Unit :=
  plain fun b bs =>
    if b.toNat < 0x80 then .point () (bytePoint b) 0
    else
      match bs with
      | [] => .stray 0 ()
      | c :: rest =>
        if 0x30 ≤ c.toNat ∧ c.toNat ≤ 0x39 then
          match rest with
          | d :: e :: _ => .textOr () 3 (gb18030Four? b.toNat c.toNat d.toNat e.toNat)
          | short => .stray (1 + short.length) ()
        else .textOr () 1 (gb18030Pair? b.toNat c.toNat)

/-! ### Big5 -/

/-- The text of two bytes in a table of 157 places for each first byte from `base` on. -/
def big5In? (table : CharTable) (base lead trail : Nat) : Option Text :=
  if lead < base ∨ trail < 0x40 then none
  else if trail ≤ 0x7E then table.text? ((lead - base) * 157 + (trail - 0x40))
  else if 0xA1 ≤ trail ∧ trail ≤ 0xFE then table.text? ((lead - base) * 157 + 63 + (trail - 0xA1))
  else none

def big5? (lead trail : Nat) : Option Text := big5In? big5Table 0xA1 lead trail

def big5 : Charset Unit := pairs big5?

def windows950Page : Charset Unit :=
  pairs fun lead trail =>
    match windows950.ofBytes? lead trail with
    | some text => some text
    | none => big5? lead trail

/-- The pairs of bytes that stand for a letter with a mark, in which Hong Kong writes Romanized
words. -/
def hongKongMarked : List (Nat × Text) :=
  [(0x8862, one 0xCA ++ one 0x304), (0x8864, one 0xCA ++ one 0x30C),
   (0x88A3, one 0xEA ++ one 0x304), (0x88A5, one 0xEA ++ one 0x30C)]

/-- The text of two bytes in Big5 where Hong Kong keeps it. -/
def keptBig5? (lead trail : Nat) : Option Text :=
  if lead = 0xC6 ∧ 0xA1 ≤ trail ∨ lead = 0xC7 ∨ lead = 0xC8 then none else big5? lead trail

def big5HongKong : Charset Unit :=
  pairs fun lead trail =>
    match keptBig5? lead trail with
    | some text => some text
    | none =>
      match big5In? hongKong 0x87 lead trail with
      | some text => some text
      | none => hongKongMarked.lookup (lead * 256 + trail)

end AlertRelay.Charset

namespace AlertRelay.NamedCharset

def chineseCharsets : List NamedCharset :=
  [ofCharset "gb2312"
      ["chinese", "csiso58gb231280", "euc_cn", "euccn", "eucgb2312_cn", "gb2312_1980", "gb2312_80",
        "iso_ir_58", "x_mac_simp_chinese"] Charset.gb2312,
    ofCharset "gbk" ["936", "cp936", "ms936"] Charset.gbk,
    ofCharset "gb18030" ["gb18030_2000"] Charset.gb18030,
    ofCharset "hz" ["hz_gb", "hz_gb_2312", "hzgb"] Charset.hz,
    ofCharset "big5" ["big5_tw", "csbig5", "x_mac_trad_chinese"] Charset.big5,
    ofCharset "cp950" ["950", "ms950"] Charset.windows950Page,
    ofCharset "big5hkscs" ["big5_hkscs", "hkscs"] Charset.big5HongKong]

end AlertRelay.NamedCharset
