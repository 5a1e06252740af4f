import AlertRelay.Decimal.Binary

/-!
# Reading numerals

Texts of numbers: runs of decimal digits, and decimal fractions with an optional exponent. The
readers take lists of characters and accept ASCII digits only.
-/

namespace AlertRelay.Decimal

/-- The number that a list of decimal digits stands for; characters other than digits count zero. -/
def ofDigits (ds : List Char) : Nat :=
  ds.foldl (fun n c => 10 * n + (c.toNat - 48)) 0

def takeSign : List Char → Bool × List Char
  | '-' :: cs => (true, cs)
  | '+' :: cs => (false, cs)
  | cs => (false, cs)

def takeDigits (cs : List Char) : List Char × List Char := cs.span Char.isDigit

/-- The exponent at the head of a text, if one stands there, and what follows it. -/
def takeExponent : List Char → Option (Int × List Char)
  | 'e' :: cs | 'E' :: cs =>
    let (negative, cs) := takeSign cs
    match takeDigits cs with
    | ([], _) => none
    | (ds, rest) =>
      let n : Int := ofDigits ds
      some (if negative then -n else n, rest)
  | _ => none

/-- The float of a sign, the digits before and after the point, and an exponent. -/
def ofScientific (negative : Bool) (whole fraction : List Char) (exponent : Int) : Float :=
  ofDecimal negative (ofDigits (whole ++ fraction)) (exponent - fraction.length)

/-- Reads a whole text as a decimal fraction: digits with a point before, between or after them, an
optional sign and an optional exponent. -/
def readFraction? (cs : List Char) : Option Float :=
  let (negative, cs) := takeSign cs
  let (whole, cs) := takeDigits cs
  let (fraction, cs) := match cs with
    | '.' :: cs => takeDigits cs
    | cs => ([], cs)
  if whole.isEmpty && fraction.isEmpty then none
  else
    match cs with
    | [] => some (ofScientific negative whole fraction 0)
    | cs =>
      match takeExponent cs with
      | some (e, []) => some (ofScientific negative whole fraction e)
      | _ => none

/-- An infinity or a NaN of the given sign by its name, in any case. -/
def readNamed? (cs : List Char) : Option Float :=
  let (negative, cs) := takeSign cs
  let name := cs.map Char.toLower
  if name = "inf".toList ∨ name = "infinity".toList then
    some (Float.ofBits (if negative then 0xFFF0000000000000 else 0x7FF0000000000000))
  else if name = "nan".toList then
    some (Float.ofBits 0x7FF8000000000000)
  else none

def readFloat? (cs : List Char) : Option Float :=
  match readFraction? cs with
  | some x => some x
  | none => readNamed? cs

end AlertRelay.Decimal
