import AlertRelay.Text.Utf8
import AlertRelay.Mail.Base64
import AlertRelay.Mail.QuotedPrintable

/-!
# Bodies of mail

The body of a mail is its text in UTF-8 with every line ended by a line feed. Short lines are sent
as they are, in seven or eight bits; if a line is longer than 78 bytes, the body is sent in quoted
printable, or in base64 if that is shorter for the first ten lines. `Body.text` reads a body back.
-/

namespace AlertRelay.Mail

inductive TransferEncoding where
  | sevenBit
  | eightBit
  | quotedPrintable
  | base64
  deriving DecidableEq

def TransferEncoding.name : TransferEncoding → String
  | .sevenBit => "7bit"
  | .eightBit => "8bit"
  | .quotedPrintable => "quoted-printable"
  | .base64 => "base64"

/-- A written body: the encoding and the characters as they are sent. -/
structure Body where
  encoding : TransferEncoding
  payload : List Char
  deriving DecidableEq

/-- The lines of a body without their ends: a carriage return, a line feed or both in this order end
a line. `cur` holds the current line in reverse. -/
def bodyLinesFrom (cur : List Char) : List Char → List (List Char)
  | [] => if cur.isEmpty then [] else [cur.reverse]
  | '\r' :: '\n' :: cs => cur.reverse :: bodyLinesFrom [] cs
  | c :: cs =>
    if c = '\n' ∨ c = '\r' then cur.reverse :: bodyLinesFrom [] cs
    else bodyLinesFrom (c :: cur) cs

def bodyLines (cs : List Char) : List (List Char) := bodyLinesFrom [] cs

/-- Lines with a line feed between each two and one at the end. -/
def endLines {α : Type} (lineFeed : α) : List (List α) → List α
  | [] => [lineFeed]
  | [l] => l ++ [lineFeed]
  | l :: m :: ls => l ++ lineFeed :: endLines lineFeed (m :: ls)

/-- Bytes in base64 on lines of 76 characters; `bound` is at least the number of lines. -/
def base64Lines : (bound : Nat) → List UInt8 → List Char
  | 0, _ => []
  | bound + 1, bytes =>
    if bytes.isEmpty then []
    else Base64.encode (bytes.take 57) ++ '\n' :: base64Lines bound (bytes.drop 57)

def encodingFor (lines : List (List UInt8)) : TransferEncoding :=
  if lines.all (·.length ≤ QuotedPrintable.lineLimit) then
    if lines.all (·.all (·.toNat < 128)) then .sevenBit else .eightBit
  else
    let sample := lines.take 10
    let base64Length := (Base64.encode (endLines 10 sample)).length + 1
    if base64Length < (QuotedPrintable.encode sample).length then .base64 else .quotedPrintable

def Body.ofText (cs : List Char) : Body :=
  let lines := bodyLines cs
  let bytes := lines.map Text.utf8
  match encodingFor bytes with
  | .sevenBit => ⟨.sevenBit, endLines '\n' lines⟩
  | .eightBit => ⟨.eightBit, endLines '\n' lines⟩
  | .quotedPrintable => ⟨.quotedPrintable, QuotedPrintable.encode bytes⟩
  | .base64 =>
    let all := endLines 10 bytes
    ⟨.base64, base64Lines all.length all⟩

def Body.text (b : Body) : List Char :=
  match b.encoding with
  | .sevenBit => b.payload
  | .eightBit => b.payload
  | .quotedPrintable => Text.ofUtf8 (QuotedPrintable.decode b.payload)
  | .base64 => Text.ofUtf8 ((Base64.decode? false b.payload).getD [])

end AlertRelay.Mail
