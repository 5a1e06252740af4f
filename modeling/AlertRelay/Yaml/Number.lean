import AlertRelay.Yaml.Cursor
import AlertRelay.Decimal.Read
import AlertRelay.Text.Blank
import AlertRelay.Text.Case
import AlertRelay.Text.Digit
import AlertRelay.Text.Lines
import AlertRelay.Json.Reader

/-!
# Numbers and truth values of a document

The values of scalars that are numbers, by their form or because their tag says so; a text that is
no number is a fault then. Underscores group digits, the digits may be of any script, and parts with
colons between them count sixty times each other.
-/

namespace AlertRelay.Yaml.Number

/-- The longest decimal integer, in digits. -/
def digitLimit : Nat := 4300

def emptyFault : Fault := ⟨"IndexError", "string index out of range"⟩

/-- How much of a text is quoted where it is no integer. -/
def quoteLimit : Nat := 200

def integerFault (base : Nat) (t : Text) : Fault :=
  ⟨"ValueError", "invalid literal for int() with base " ++ toString base ++ ": " ++
    (Text.ofString (Text.quoted t)).take quoteLimit⟩

/-- The fault of an integer with too many digits. -/
def lengthFault (digits : Nat) : Fault :=
  ⟨"ValueError", "Exceeds the limit (" ++ toString digitLimit ++
    " digits) for integer string conversion: value has " ++ toString digits ++
    " digits; use sys.set_int_max_str_digits() to increase the limit"⟩

def floatFault (t : Text) : Fault :=
  ⟨"ValueError", "could not convert string to float: " ++ Text.quoted t⟩

/-- The fault of an integer that is too large for a float. -/
def overflowFault : Fault := ⟨"OverflowError", "int too large to convert to float"⟩

/-- The characters of a numeral without the blanks around it and with plain digits; a text with half
of a surrogate pair is no numeral. -/
def plainNumeral? (t : Text) : Option (List Char) :=
  t.chars?.map fun cs => (Text.trim Text.isNumeralBlank cs).map Text.plainDigit

def afterBaseMark (base : Nat) (cs : List Char) : List Char :=
  match cs with
  | '0' :: m :: rest =>
    if base = 16 ∧ (m = 'x' ∨ m = 'X') ∨ base = 8 ∧ (m = 'o' ∨ m = 'O') ∨
        base = 2 ∧ (m = 'b' ∨ m = 'B') then rest
    else cs
  | _ => cs

def digit? (base : Nat) (c : Char) : Option Nat := (Json.hexValue? c).filter (· < base)

/-- The number of digits in a base, of which there is at least one. -/
def ofDigits? (base : Nat) (ds : List Char) : Option Nat :=
  if ds.isEmpty then none else ds.foldlM (fun n c => (digit? base c).map (base * n + ·)) 0

/-- The integer that a text is in a base, with blanks around it, a sign and the mark of the base. -/
def readInteger (base : Nat) (t : Text) : Except Fault Int :=
  let (negative, rest) := Decimal.takeSign ((plainNumeral? t).getD [])
  let ds := afterBaseMark base rest
  let length := (ds.takeWhile Char.isDigit).length
  if base = 10 ∧ digitLimit < length then .error (lengthFault length)
  else
    match ofDigits? base ds with
    | none => .error (integerFault base t)
    | some n => .ok (if negative then -(n : Int) else n)

/-- The sum of parts, the last of which counts once and each other one sixty times the next. -/
def sumOfSixties (parts : List Int) : Int := parts.foldl (fun sum part => 60 * sum + part) 0

/-- The sign of a text and what follows it; the text may not be empty. -/
def splitSign : Text → Except Fault (Bool × Text)
  | [] => .error emptyFault
  | .char '-' :: t => .ok (true, t)
  | .char '+' :: t => .ok (false, t)
  | t => .ok (false, t)

/-- A text without its underscores. -/
def withoutUnderscores (t : Text) : Text := t.filter (· != .char '_')

/-- The integer of a text without its sign: binary, hexadecimal, octal, with parts of sixty, or
decimal. -/
def magnitude (t : Text) : Except Fault Int :=
  match t with
  | [] => .error emptyFault
  | [.char '0'] => .ok 0
  | .char '0' :: .char 'b' :: ds => readInteger 2 ds
  | .char '0' :: .char 'x' :: ds => readInteger 16 ds
  | .char '0' :: _ => readInteger 8 t
  | _ =>
    if .char ':' ∈ t then do
      .ok (sumOfSixties (← (Text.fields (.char ':') t).mapM (readInteger 10)))
    else readInteger 10 t

def integer (t : Text) : Except Fault Int := do
  let (negative, t) ← splitSign (withoutUnderscores t)
  let n ← magnitude t
  .ok (if negative then -n else n)

/-- The float that a text is, with blanks around it. -/
def readFloat (t : Text) : Except Fault Float :=
  match (plainNumeral? t).bind Decimal.readFloat? with
  | some x => .ok x
  | none => .error (floatFault t)

/-- The sum of parts in reverse, the first of which counts `weight` times and each other one sixty
times more than the one before. -/
def sumOfFloats (sum : Float) (weight : Int) : List Float → Except Fault Float
  | [] => .ok sum
  | x :: xs =>
    let factor := Decimal.ofInt weight
    if factor.isInf then .error overflowFault else sumOfFloats (sum + x * factor) (60 * weight) xs

def floatMagnitude (t : Text) : Except Fault Float :=
  if t = ".inf" then .ok (Float.ofBits 0x7FF0000000000000)
  else if t = ".nan" then .ok (Float.ofBits 0x7FF8000000000000)
  else if .char ':' ∈ t then do
    let parts ← (Text.fields (.char ':') t).mapM readFloat
    sumOfFloats 0 1 parts.reverse
  else readFloat t

def float (t : Text) : Except Fault Float := do
  let (negative, t) ← splitSign (Text.lower (withoutUnderscores t))
  let x ← floatMagnitude t
  .ok (if negative then -x else x)

def truth (t : Text) : Except Fault Bool :=
  let word := Text.lower t
  if word ∈ ([("yes" : Text), "true", "on"] : List Text) then .ok true
  else if word ∈ ([("no" : Text), "false", "off"] : List Text) then .ok false
  else .error ⟨"KeyError", Text.quoted word⟩

end AlertRelay.Yaml.Number
