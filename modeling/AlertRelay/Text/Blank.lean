import AlertRelay.Text.Point

/-!
# Blank characters and trimming

Which characters count as white space, and trimming a text at either end. `isBlank` is the Unicode
notion (every separator and the control characters that act as one), so a line separator or a
no-break space is trimmed as well as a tab.
-/

namespace AlertRelay.Text

/-- The code points of white space: tabs and line ends, the four information separators, the blank,
and the Unicode space, line and paragraph separators. -/
def isBlank (c : Char) : Bool :=
  let n := c.toNat
  (9 ≤ n && n ≤ 13) || (28 ≤ n && n ≤ 32) || n == 0x85 || n == 0xA0 || n == 0x1680 ||
    (0x2000 ≤ n && n ≤ 0x200A) || n == 0x2028 || n == 0x2029 || n == 0x202F || n == 0x205F ||
    n == 0x3000

/-- The blanks that may surround a numeral: white space without the information separators. -/
def isNumeralBlank (c : Char) : Bool := isBlank c && !(0x1C ≤ c.toNat && c.toNat ≤ 0x1F)

variable {α : Type}

/-- Drops every leading item that satisfies `p`. -/
def trimStart (p : α → Bool) (cs : List α) : List α := cs.dropWhile p

/-- Drops every final item that satisfies `p`. -/
def trimEnd (p : α → Bool) (cs : List α) : List α := (cs.reverse.dropWhile p).reverse

/-- Drops the items that satisfy `p` at both ends. -/
def trim (p : α → Bool) (cs : List α) : List α := trimEnd p (trimStart p cs)

def strip (t : Text) : Text := trim (Point.is isBlank) t

/-- The five characters that ASCII counts as white space in a line of text: blank, tab, line feed,
carriage return, form feed, and the vertical tab. -/
def isAsciiBlank (c : Char) : Bool :=
  c == ' ' || (9 ≤ c.toNat && c.toNat ≤ 13)

@[simp] theorem trimEnd_nil (p : α → Bool) : trimEnd p [] = [] := rfl

@[simp] theorem trim_nil (p : α → Bool) : trim p [] = [] := rfl

end AlertRelay.Text
