import AlertRelay.Text.Point

/-!
# Lines of a text

Two ways to cut a text. `fields` cuts at every occurrence of one separator, so that joining the
pieces with the separator gives the text back. `lines` cuts at every line boundary (a carriage
return followed by a line feed counts once) and a boundary at the end opens no further line.
-/

namespace AlertRelay.Text

def isLineEnd (c : Char) : Bool :=
  let n := c.toNat
  (10 ≤ n && n ≤ 13) || (0x1C ≤ n && n ≤ 0x1E) || n == 0x85 || n == 0x2028 || n == 0x2029

variable {α : Type} [DecidableEq α]

/-- The pieces of a text between the occurrences of a separator; there is always at least one. -/
def fields (sep : α) : List α → List (List α)
  | [] => [[]]
  | c :: cs =>
    if c = sep then [] :: fields sep cs
    else
      match fields sep cs with
      | [] => [[c]]
      | f :: fs => (c :: f) :: fs

/-- The pieces of a text with a separator between each two neighbours. -/
def joinWith {α : Type} (sep : List α) : List (List α) → List α
  | [] => []
  | [f] => f
  | f :: g :: fs => f ++ sep ++ joinWith sep (g :: fs)

/-- The lines of a text without their ends; `cur` holds the current line in reverse and is a line of
its own at the end of the text unless it is empty. -/
def linesFrom (cur : Text) : Text → List Text
  | [] => if cur.isEmpty then [] else [cur.reverse]
  | .char '\r' :: .char '\n' :: cs => cur.reverse :: linesFrom [] cs
  | c :: cs =>
    if c.is isLineEnd then cur.reverse :: linesFrom [] cs else linesFrom (c :: cur) cs

def lines (cs : Text) : List Text := linesFrom [] cs

theorem fields_ne_nil (sep : α) (cs : List α) : fields sep cs ≠ [] := by
  cases cs with
  | nil => simp [fields]
  | cons c cs =>
    rw [fields]
    split
    · simp
    · split <;> simp

/-- Joining the pieces with the separator restores the text. -/
theorem joinWith_fields (sep : α) (cs : List α) : joinWith [sep] (fields sep cs) = cs := by
  induction cs with
  | nil => rfl
  | cons c cs ih =>
    rw [fields]
    split
    · next h =>
      subst h
      cases hf : fields c cs with
      | nil => exact absurd hf (fields_ne_nil c cs)
      | cons f fs => simp [joinWith, ← hf, ih]
    · cases hf : fields sep cs with
      | nil => exact absurd hf (fields_ne_nil sep cs)
      | cons f fs =>
        rw [hf] at ih
        cases fs with
        | nil => simpa [joinWith] using ih
        | cons g gs => simpa [joinWith] using ih

end AlertRelay.Text
