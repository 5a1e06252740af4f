import AlertRelay.Json.Reader

/-!
# Quoted printable

Bytes as lines of printable ASCII: a byte outside it, and the equals sign, is written as an equals
sign with two hexadecimal digits. An equals sign at the end of a line joins it with the next one, so
that no line exceeds 78 characters, and no line ends in a blank.
-/

namespace AlertRelay.Mail.QuotedPrintable

/-- The longest line. -/
def lineLimit : Nat := 78

def hexDigit (n : Nat) : Char := if n < 10 then Char.ofNat (48 + n) else Char.ofNat (55 + n)

def escape (b : UInt8) : List Char := ['=', hexDigit (b.toNat / 16), hexDigit (b.toNat % 16)]

/-- Whether a byte stands for itself within a line. -/
def isPlain (b : UInt8) : Bool :=
  (32 ≤ b.toNat && b.toNat ≤ 126 && b.toNat != 61) || b.toNat == 9

def encodeByte (b : UInt8) : List Char := if isPlain b then [Char.ofNat b.toNat] else escape b

/-- The end of a line that is short enough: a blank at its end is escaped, on a line of its own if
there is no room for it. -/
def finish (line : List Char) : List Char :=
  match line.getLast? with
  | some c =>
    if c = ' ' ∨ c = '\t' then
      let escaped := escape (UInt8.ofNat c.toNat)
      if line.length + 2 ≤ lineLimit then line.dropLast ++ escaped
      else if line.length + 1 = lineLimit then line ++ ['=', '\n']
      else line.dropLast ++ ['=', '\n'] ++ escaped
    else line
  | none => line

/-- Breaks an encoded line so that no part exceeds the limit; no break falls into an escape. The
line is given with a bound on its length. -/
def wrap : (bound : Nat) → List Char → List Char
  | 0, cs => finish cs
  | bound + 1, cs =>
    if cs.length ≤ lineLimit then finish cs
    else if cs[lineLimit - 3]? = some '=' then
      cs.take (lineLimit - 2) ++ '\n' :: wrap bound (cs.drop (lineLimit - 3))
    else if cs[lineLimit - 2]? = some '=' then
      cs.take (lineLimit - 1) ++ '\n' :: wrap bound (cs.drop (lineLimit - 2))
    else cs.take (lineLimit - 1) ++ '=' :: '\n' :: wrap bound (cs.drop (lineLimit - 1))

def encodeLine (bytes : List UInt8) : List Char :=
  let line := bytes.flatMap encodeByte
  wrap line.length line

/-- The encoded form of lines, each followed by a line feed. -/
def encode (lines : List (List UInt8)) : List Char :=
  lines.flatMap fun line => encodeLine line ++ ['\n']

/-- The bytes of a text in quoted printable: an escape is one byte, a line break after an equals
sign is nothing, and everything else stands for itself. -/
def decode : List Char → List UInt8
  | '=' :: '\n' :: cs => decode cs
  | '=' :: a :: b :: cs =>
    match Json.hexValue? a, Json.hexValue? b with
    | some m, some n => UInt8.ofNat (16 * m + n) :: decode cs
    | _, _ => 61 :: decode (a :: b :: cs)
  | c :: cs => UInt8.ofNat c.toNat :: decode cs
  | [] => []

end AlertRelay.Mail.QuotedPrintable
