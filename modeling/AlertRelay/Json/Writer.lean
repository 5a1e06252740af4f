import AlertRelay.Value

/-!
# Writing JSON

The text of a value as JSON in ASCII: a blank after each comma and colon, everything outside the
printable ASCII range escaped in UTF-16 code units. Values that JSON lacks are written as their
text.
-/

namespace AlertRelay.Json

def unitEscape (n : Nat) : List Char := '\\' :: 'u' :: Text.hex 4 n

def escapedChar (c : Char) : List Char :=
  match c with
  | '"' => ['\\', '"']
  | '\\' => ['\\', '\\']
  | '\n' => ['\\', 'n']
  | '\r' => ['\\', 'r']
  | '\t' => ['\\', 't']
  | '\x08' => ['\\', 'b']
  | '\x0c' => ['\\', 'f']
  | c =>
    let n := c.toNat
    if 32 ≤ n ∧ n < 127 then [c]
    else if n < 0x10000 then unitEscape n
    else
      let m := n - 0x10000
      unitEscape (0xD800 + m / 0x400) ++ unitEscape (0xDC00 + m % 0x400)

/-- One point of a string; half of a surrogate pair is a code unit as it is. -/
def escapedPoint : Point → List Char
  | .char c => escapedChar c
  | .half n => unitEscape (Point.half n).toNat

def string (t : Text) : String :=
  String.ofList ('"' :: t.flatMap escapedPoint ++ ['"'])

/-- A float: infinities and NaN by name. -/
def float (x : Float) : String :=
  if x.isNaN then "NaN"
  else if x.isInf then (if x < 0 then "-Infinity" else "Infinity")
  else Decimal.floatText x

def key : Value → Text
  | .text s => s
  | .null => "null"
  | .bool b => if b then "true" else "false"
  | .float x => float x
  | v => v.display

mutual

def write : Value → String
  | .null => "null"
  | .bool b => if b then "true" else "false"
  | .int n => toString n
  | .float x => float x
  | .text s => string s
  | .list items => "[" ++ commaSeparated (writeItems items) ++ "]"
  | .map entries => "\x7b" ++ commaSeparated (writeEntries entries) ++ "\x7d"
  | .bytes bs => string (Value.bytes bs).written
  | .day d => string (Value.day d).written
  | .instant t => string (Value.instant t).written
  | .set items => "[" ++ commaSeparated (writeItems items) ++ "]"

def writeItems : List Value → List String
  | [] => []
  | v :: vs => write v :: writeItems vs

def writeEntries : List (Value × Value) → List String
  | [] => []
  | (k, v) :: es => (string (key k) ++ ": " ++ write v) :: writeEntries es

end

end AlertRelay.Json
