import AlertRelay.Charset.Name
import AlertRelay.Json.Reader
import AlertRelay.Mail.Base64
import AlertRelay.Text.Lines

/-!
# Encoded words

A header holds other than ASCII text in encoded words: a charset, a letter for the encoding and the
encoded bytes, between `=?` and `?=`. Decoding gives the text of the bytes in their charset; stray
bytes are kept in it, to be judged once the whole header is put together.
-/

namespace AlertRelay.Mail

inductive NotEncoded where
  /-- It has no end. -/
  | unclosed
  /-- Its parts, its encoding or its bytes are wrong. -/
  | invalid

def splitAtMark (mark : Text) : Text → Option (Text × Text)
  | [] => if mark.isEmpty then some ([], []) else none
  | c :: cs =>
    if mark.isPrefixOf (c :: cs) then some ([], (c :: cs).drop mark.length)
    else (splitAtMark mark cs).map fun (before, after) => (c :: before, after)

def opensWord (cs : Text) : Bool := (Text.ofString "=?").isPrefixOf cs

/-! ### The two encodings -/

def hexByte? (b : UInt8) : Option Nat := Json.hexValue? (Char.ofNat b.toNat)

/-- The bytes of an encoding in which blanks are underscores and other bytes have two hexadecimal
digits after an equals sign. -/
def decodeHeaderQuoted : List UInt8 → List UInt8
  | 61 :: a :: b :: bs =>
    match hexByte? a, hexByte? b with
    | some m, some n => UInt8.ofNat (16 * m + n) :: decodeHeaderQuoted bs
    | _, _ => 61 :: decodeHeaderQuoted (a :: b :: bs)
  | 95 :: bs => 32 :: decodeHeaderQuoted bs
  | b :: bs => b :: decodeHeaderQuoted bs
  | [] => []

/-- The bytes of an encoding in base64, as much as can be made of it: first as it should be, then
without foreign characters, then with the padding that may be missing; else the bytes as they
are. -/
def decodeHeaderBase64 (bs : List UInt8) : List UInt8 :=
  let cs := bs.map fun b => Char.ofNat b.toNat
  let padding := if cs.length % 4 = 0 then [] else List.replicate (4 - cs.length % 4) '='
  match Base64.decode? true (cs ++ padding) with
  | some bytes => bytes
  | none =>
    match Base64.decode? false cs with
    | some bytes => bytes
    | none => (Base64.decode? false (cs ++ ['=', '='])).getD bs

/-- The bytes of an encoded part: characters of ASCII, and halves that keep a byte. -/
def encodedBytes? (cs : Text) : Option (List UInt8) :=
  cs.mapM fun
    | .char c => if c.toNat < 128 then some (UInt8.ofNat c.toNat) else none
    | .half n => Text.keptByte? (.half n)

/-! ### Whole words -/

def opensWithByte : Text → Bool
  | .char a :: .char b :: _ => (Json.hexValue? a).isSome && (Json.hexValue? b).isSome
  | _ => false

/-- The text of bytes in the charset of a name; what follows an asterisk in it is the language.
Bytes in a charset that is not known are read as ASCII. No bytes have no text in any charset. -/
def decodeIn? (name : Text) (bytes : List UInt8) : Option Text :=
  match Text.chars? (name.takeWhile (· != '*')) with
  | none => Charset.ascii.decode? bytes
  | some cs =>
    if cs.contains (Char.ofNat 0) then none
    else if bytes.isEmpty then some []
    else
      match NamedCharset.find? cs with
      | some charset => charset.decode? bytes
      | none => Charset.ascii.decode? bytes

/-- The text of an encoded word by its three parts. -/
def decodeWord? (charset method encoded : Text) : Option Text := do
  let bytes ← encodedBytes? encoded
  match method with
  | ['q'] | ['Q'] => decodeIn? charset (decodeHeaderQuoted bytes)
  | ['b'] | ['B'] => decodeIn? charset (decodeHeaderBase64 bytes)
  | _ => none

/-- Reads the encoded word at the head of a text that opens with `=?`: its text and what follows it.
A mark of the end that is the beginning of an escaped byte does not end the word. -/
def takeEncodedWord (cs : Text) : Except NotEncoded (Text × Text) :=
  match splitAtMark "?=" (cs.drop 2) with
  | none => .error .unclosed
  | some (inner, rest) =>
    let (inner, rest) :=
      if opensWithByte rest && inner.count (.char '?') < 2 then
        match splitAtMark "?=" rest with
        | some (more, rest) => (inner ++ Text.ofString "?=" ++ more, rest)
        | none => (inner ++ Text.ofString "?=" ++ rest, [])
      else (inner, rest)
    match Text.fields (.char '?') inner with
    | [charset, method, encoded] =>
      match decodeWord? charset method encoded with
      | some text => .ok (text, rest)
      | none => .error .invalid
    | _ => .error .invalid

end AlertRelay.Mail
