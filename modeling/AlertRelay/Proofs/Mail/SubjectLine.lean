import AlertRelay.Proofs.Mail.Subject
import AlertRelay.Proofs.Text.Trim

/-!
# Folding a message into one line

The subject line of a message is made of its lines that are not blank: each is trimmed, and single
blanks are put between them. So it is one trimmed line that shows what the message shows, and a
message that is one trimmed line already is left as it is (`subjectLine_normalizes`).
-/

namespace AlertRelay.Mail

open Text

variable {message : Text}

def subjectPieces (message : Text) : List Text :=
  ((lines message).map strip).filter (!·.isEmpty)

theorem subjectLine_eq_joinWith (message : Text) :
    subjectLine message = joinWith (ofString " ") (subjectPieces message) := rfl

theorem trimmed_of_mem_subjectPieces {piece : Text} (h : piece ∈ subjectPieces message) :
    piece ≠ [] ∧ Trimmed piece := by
  obtain ⟨hmem, hne⟩ := List.mem_filter.mp h
  obtain ⟨line, -, rfl⟩ := List.mem_map.mp hmem
  exact ⟨by simpa using hne, trimmed_strip line⟩

theorem trimmed_subjectLine (message : Text) : Trimmed (subjectLine message) := by
  rw [subjectLine_eq_joinWith]
  exact trimmed_joinWith fun _ h => trimmed_of_mem_subjectPieces h

/-- The subject line shows what the message shows. -/
theorem visible_subjectLine (message : Text) :
    visible (subjectLine message) = visible message :=
  calc visible (subjectLine message)
    _ = visible (subjectPieces message).flatten := by
      rw [subjectLine_eq_joinWith, visible_joinWith rfl]
    _ = visible ((lines message).map strip).flatten := by
      rw [subjectPieces, List.flatten_filter_not_isEmpty]
    _ = visible (lines message).flatten := visible_flatten_map_strip _
    _ = visible message := visible_flatten_lines message

/-- Only of blanks is nothing left. -/
theorem subjectLine_eq_nil_iff :
    subjectLine message = [] ↔ ∀ p ∈ message, p.is isBlank = true := by
  rw [← visible_eq_nil_iff, ← visible_subjectLine]
  constructor
  · intro h
    rw [h]
    rfl
  · exact (trimmed_subjectLine message).eq_nil

/-- One trimmed line is left as it is. -/
theorem subjectLine_of_trimmed (hend : ¬ message.HoldsLineEnd) (h : Trimmed message) :
    subjectLine message = message := by
  cases message with
  | nil => rfl
  | cons p rest =>
    rw [subjectLine, lines_of_not_holdsLineEnd hend (List.cons_ne_nil p rest), List.map_singleton,
      strip_of_trimmed h]
    rfl

/-- A message is its own subject line exactly if it is a single line without white space at its
ends. -/
theorem subjectLine_eq_self_iff :
    subjectLine message = message ↔ ¬ message.HoldsLineEnd ∧ Trimmed message := by
  constructor
  · intro h
    rw [← h]
    exact ⟨not_holdsLineEnd_subjectLine message, trimmed_subjectLine message⟩
  · rintro ⟨hend, h⟩
    exact subjectLine_of_trimmed hend h

/-- **A message is folded into one trimmed line.** The line holds no line end and no white space at
its ends, it shows what the message shows, and it is empty only if that is nothing. The messages
that are left as they are are the trimmed lines, so that nothing changes when the line is folded
again. -/
theorem subjectLine_normalizes (message : Text) :
    ¬ (subjectLine message).HoldsLineEnd ∧ Trimmed (subjectLine message) ∧
      visible (subjectLine message) = visible message ∧
      (subjectLine message = [] ↔ ∀ p ∈ message, p.is isBlank = true) ∧
      (subjectLine message = message ↔ ¬ message.HoldsLineEnd ∧ Trimmed message) ∧
      subjectLine (subjectLine message) = subjectLine message := by
  have hend := not_holdsLineEnd_subjectLine message
  have htrimmed := trimmed_subjectLine message
  exact ⟨hend, htrimmed, visible_subjectLine message, subjectLine_eq_nil_iff,
    subjectLine_eq_self_iff, subjectLine_of_trimmed hend htrimmed⟩

example : subjectLine " a\r\n\n\t\n b  c \u2028" = ofString "a b  c" := by decide

end AlertRelay.Mail
