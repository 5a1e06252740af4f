import AlertRelay.Failure

/-!
# A place in a document

What is left of the text from a place on, and where in the text the place lies. Whether a line may
open a block or a key depends on lines and columns, so these are counted along.
-/

namespace AlertRelay.Yaml

/-- Why a document has no value: it breaks the rules of the format, or a value in it is
impossible. -/
inductive Error where
  | malformed
  | invalid (f : Fault)

def isBreak (c : Char) : Bool := c == '\n' || c == '\x85' || c == '\u2028' || c == '\u2029'

/-- How a line end counts as text. -/
def breakText (c : Char) : Char := if c = '\x85' then '\n' else c

def isGap (c : Char) : Bool := c == ' ' || c == '\t'

def endsLine : Option Char → Bool
  | none => true
  | some c => isBreak c

/-- Whether a line ends here or a blank follows. -/
def endsField : Option Char → Bool
  | none => true
  | some c => c == ' ' || isBreak c

/-- Whether a line ends here or a blank or a tab follows. -/
def endsWord : Option Char → Bool
  | none => true
  | some c => isGap c || isBreak c

/-- The mark of the byte order, which takes no column. -/
def byteOrderMark : Char := '\uFEFF'

structure Cursor where
  rest : List Char
  index : Nat := 0
  line : Nat := 0
  column : Nat := 0

namespace Cursor

def head? (c : Cursor) : Option Char := c.rest.head?

def peek? (c : Cursor) (n : Nat) : Option Char := c.rest[n]?

def advance (c : Cursor) : Cursor :=
  match c.rest with
  | [] => c
  | ch :: rest =>
    if isBreak ch then ⟨rest, c.index + 1, c.line + 1, 0⟩
    else if ch = byteOrderMark then ⟨rest, c.index + 1, c.line, c.column⟩
    else ⟨rest, c.index + 1, c.line, c.column + 1⟩

def skip (c : Cursor) : Nat → Cursor
  | 0 => c
  | n + 1 => c.advance.skip n

/-- The characters from a place on that satisfy `p`, and the place after them. -/
def takeWhile (p : Char → Bool) (c : Cursor) : List Char × Cursor :=
  let run := c.rest.takeWhile p
  (run, c.skip run.length)

/-- The place after the characters that satisfy `p`. -/
def skipWhile (p : Char → Bool) (c : Cursor) : Cursor := (c.takeWhile p).2

def isAt (c : Cursor) (ch : Char) : Bool := c.head? == some ch

/-- Whether the mark of the start or the end of a document stands at a place. -/
def atMarker (c : Cursor) : Bool :=
  match c.rest with
  | '-' :: '-' :: '-' :: rest => endsWord rest.head?
  | '.' :: '.' :: '.' :: rest => endsWord rest.head?
  | _ => false

def skipComment (c : Cursor) : Cursor :=
  if c.isAt '#' then c.skipWhile (!isBreak ·) else c

/-- The place after the end of a line that holds nothing but blanks and a comment. -/
def endLine (c : Cursor) : Except Error Cursor :=
  let c := (c.skipWhile (· == ' ')).skipComment
  if endsLine c.head? then .ok c.advance else .error .malformed

theorem rest_advance (c : Cursor) : c.advance.rest = c.rest.tail := by
  unfold advance
  split
  · next h => simp [h]
  · next h =>
    rw [h]
    split
    · rfl
    · split <;> rfl

theorem length_advance_lt {c : Cursor} {ch : Char} {rest : List Char} (h : c.rest = ch :: rest) :
    c.advance.rest.length < c.rest.length := by
  simp [rest_advance, h]

theorem length_skip_le (c : Cursor) (n : Nat) : (c.skip n).rest.length ≤ c.rest.length := by
  induction n generalizing c with
  | zero => exact Nat.le_refl _
  | succ n ih =>
    refine Nat.le_trans (ih c.advance) ?_
    simp [rest_advance]

end Cursor

end AlertRelay.Yaml
