import AlertRelay.Text.Printable

/-!
# Quoted text

The quoted form of a text: single quotes, unless the text holds a single quote and no double quote;
backslash, line feed, carriage return and tab by their letters, the chosen quote with a backslash,
and every other point without a visible form, half a surrogate pair among them, by its number in
two, four or eight hexadecimal digits.
-/

namespace AlertRelay.Text

def hexDigit (n : Nat) : Char :=
  if n < 10 then Char.ofNat (48 + n) else Char.ofNat (87 + n)

/-- The last `width` hexadecimal digits of a number. -/
def hex : (width : Nat) → Nat → List Char
  | 0, _ => []
  | w + 1, n => hex w (n / 16) ++ [hexDigit (n % 16)]

def numberEscape (n : Nat) : List Char :=
  if n < 0x100 then '\\' :: 'x' :: hex 2 n
  else if n < 0x10000 then '\\' :: 'u' :: hex 4 n
  else '\\' :: 'U' :: hex 8 n

/-- One character inside quotes `q`. -/
def quotedChar (q c : Char) : List Char :=
  if c = q then ['\\', c]
  else
    match c with
    | '\\' => ['\\', '\\']
    | '\n' => ['\\', 'n']
    | '\r' => ['\\', 'r']
    | '\t' => ['\\', 't']
    | c => if isPrintable c then [c] else numberEscape c.toNat

/-- One point inside quotes `q`. -/
def quotedPoint (q : Char) : Point → List Char
  | .char c => quotedChar q c
  | .half n => numberEscape (Point.half n).toNat

/-- The quote that surrounds a text: a double quote only where it saves escaping. -/
def quoteFor (t : Text) : Char :=
  if .char '\'' ∈ t ∧ .char '"' ∉ t then '"' else '\''

def quotedChars (t : Text) : List Char :=
  let q := quoteFor t
  q :: t.flatMap (quotedPoint q) ++ [q]

def quoted (t : Text) : String := String.ofList (quotedChars t)

end AlertRelay.Text
