import AlertRelay.Charset.KsX1001
import AlertRelay.Charset.Named
import AlertRelay.Charset.Rows

/-!
# Korean charsets

The set KS X 1001 holds 2350 of the 11172 syllables of Hangul. Three charsets write the others in
three ways: as a sequence of four letters, in order at places that the set leaves free, or by
numbers for the two consonants and the vowel of a syllable.
-/

namespace AlertRelay.Charset

/-! ### Hangul -/

/-- Whether the letter of a consonant can open a syllable; there are 30 letters. -/
def opens (letter : Nat) : Bool :=
  letter < 30 && !([2, 4, 5, 9, 10, 11, 12, 13, 14, 15, 19].contains letter)

def closes (letter : Nat) : Bool := letter < 30 && !([7, 18, 24].contains letter)

/-- The consonants that open syllables, as the numbers of their letters. -/
def openings : List Nat := (List.range 30).filter opens

/-- The consonants that close syllables, as the numbers of their letters. -/
def closings : List Nat := (List.range 30).filter closes

def consonant (letter : Nat) : Text := one (0x3131 + letter)

def vowelLetter (vowel : Nat) : Text := one (0x314F + vowel)

/-- The syllable of an opening consonant, a vowel and a closing consonant; zero is none. -/
def syllable (opening vowel closing : Nat) : Text :=
  one (0xAC00 + (opening * 21 + vowel) * 28 + closing)

/-! ### Syllables as four letters -/

/-- The letter of a consonant that is written with a byte. -/
def letterOf? (b : Nat) : Option Nat := if 0xA1 ≤ b then some (b - 0xA1) else none

def numberIn? (letters : List Nat) (b : Nat) : Option Nat :=
  (letterOf? b).bind letters.idxOf?

/-- The syllable of three bytes for its letters. -/
def letters? (first second third : Nat) : Option Text := do
  let opening ← numberIn? openings first
  if 0xBF ≤ second ∧ second ≤ 0xD3 then
    let closing ← if third = 0xD4 then some 0 else (numberIn? closings third).map (· + 1)
    return syllable opening (second - 0xBF) closing
  else none

/-- The charset of KS X 1001, in which a filler and three letters make up a syllable. -/
def eucKr : Charset Unit :=
  plain fun b bs =>
    if b.toNat < 0x80 then .point () (bytePoint b) 0
    else
      match bs with
      | [] => .stray 0 ()
      | c :: rest =>
        if b = 0xA4 ∧ c = 0xD4 then
          match rest with
          | m₁ :: first :: m₂ :: second :: m₃ :: third :: _ =>
            if m₁ = 0xA4 ∧ m₂ = 0xA4 ∧ m₃ = 0xA4 then
              .textOr () 7 (letters? first.toNat second.toNat third.toNat)
            else .stray 0 ()
          | short => .stray (1 + short.length) ()
        else .textOr () 1 (ksX1001.inUpperRow? b.toNat c.toNat)

/-! ### Syllables in order -/

/-- The syllables that KS X 1001 lacks. -/
def otherSyllables : Array Nat :=
  let syllables := (List.range 11172).map (0xAC00 + ·)
  (without syllables (ksX1001.numbers.filter fun n => 0xAC00 ≤ n ∧ n < 0xD7A4)).toArray

/-- The place of a second byte among letters and upper bytes: large letters from 0x41 on, small
letters from 0x61 on, and bytes from 0x81 on. -/
def letterPlace? (trail : Nat) : Option Nat :=
  if 0x41 ≤ trail ∧ trail ≤ 0x5A then some (trail - 0x41)
  else if 0x61 ≤ trail ∧ trail ≤ 0x7A then some (trail - 0x61 + 26)
  else if 0x81 ≤ trail ∧ trail ≤ 0xFE then some (trail - 0x81 + 52)
  else none

/-- The number of a pair among those that KS X 1001 leaves free: 178 in each row as far as 0xA0, and
84 in each row behind it. -/
def freePlace? (lead trail : Nat) : Option Nat := do
  let i ← letterPlace? trail
  if lead < 0x81 then none
  else if lead ≤ 0xA0 then some ((lead - 0x81) * 178 + i)
  else if i < 84 then some (32 * 178 + (lead - 0xA1) * 84 + i)
  else none

/-- The Korean code page of Windows: KS X 1001, and the other syllables in order. -/
def windows949 : Charset Unit :=
  pairs fun lead trail =>
    match ksX1001.inUpperRow? lead trail with
    | some text => some text
    | none => (freePlace? lead trail).bind fun i => otherSyllables[i]?.map one

/-! ### Syllables by parts -/

/-- A part of a syllable as it is written in five bits: a filler, or the number of a letter. -/
inductive Part where
  | filler
  | number (n : Nat)

def openingPart? (bits : Nat) : Option Part :=
  if bits = 1 then some .filler
  else if 2 ≤ bits ∧ bits ≤ 20 then some (.number (bits - 2))
  else none

/-- The vowel of five bits; they leave out two of each eight numbers. -/
def vowelPart? (bits : Nat) : Option Part :=
  if bits = 2 then some .filler
  else if 3 ≤ bits ∧ bits ≤ 29 ∧ 2 ≤ bits % 8 then some (.number (bits - 3 - bits / 8 * 2))
  else none

def closingPart? (bits : Nat) : Option Part :=
  if bits = 1 then some .filler
  else if 2 ≤ bits ∧ bits ≤ 17 then some (.number (bits - 2))
  else if 19 ≤ bits ∧ bits ≤ 29 then some (.number (bits - 3))
  else none

/-- The text of three parts: a syllable, a letter that stands alone, or a blank of full width. -/
def joinParts? : Part → Part → Part → Option Text
  | .number o, .number v, .filler => some (syllable o v 0)
  | .number o, .number v, .number c => some (syllable o v (c + 1))
  | .number o, .filler, .filler => (openings[o]?).map consonant
  | .filler, .number v, .filler => some (vowelLetter v)
  | .filler, .filler, .number c => (closings[c]?).map consonant
  | .filler, .filler, .filler => some (one 0x3000)
  | _, _, _ => none

/-- The text of two bytes that hold three times five bits. -/
def partsOf? (lead trail : Nat) : Option Text := do
  let bits := lead % 128 * 256 + trail
  joinParts? (← openingPart? (bits / 1024)) (← vowelPart? (bits / 32 % 32))
    (← closingPart? (bits % 32))

/-- The text of two bytes for what KS X 1001 has besides Hangul, with two rows for a first byte. -/
def doubleRow? (lead trail : Nat) : Option Text :=
  if lead = 0xDF ∨ 0xF9 < lead ∨ trail < 0x31 ∨ 0x80 ≤ trail ∧ trail < 0x91 ∨ trail % 128 = 0x7F ∨
      lead = 0xDA ∧ 0xA1 ≤ trail ∧ trail ≤ 0xD3 then none
  else
    let row := 2 * lead + 0x21 - (if lead < 0xE0 then 0x1B2 else 0x197)
    let cell := if trail < 0x91 then trail - 0x31 else trail - 0x43
    if cell < 94 then ksX1001.inRow? row (cell + 0x21)
    else ksX1001.inRow? (row + 1) (cell - 94 + 0x21)

/-- The charset that writes syllables by their parts. -/
def johab : Charset Unit :=
  pairs fun lead trail => if lead < 0xD8 then partsOf? lead trail else doubleRow? lead trail

end AlertRelay.Charset

namespace AlertRelay.NamedCharset

def koreanCharsets : List NamedCharset :=
  [ofCharset "euc_kr"
      ["euckr", "korean", "ks_c_5601", "ks_c_5601_1987", "ks_x_1001", "ksc5601", "ksx1001",
        "x_mac_korean"] Charset.eucKr,
    ofCharset "cp949" ["949", "ms949", "uhc"] Charset.windows949,
    ofCharset "johab" ["cp1361", "ms1361"] Charset.johab]

end AlertRelay.NamedCharset
