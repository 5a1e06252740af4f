import AlertRelay.Decimal.Binary

/-!
# The shortest decimal that reads back

The text of a float has the fewest digits that read back as that float, and of those digits the ones
nearest to its exact value. For one, two, … seventeen digits the two neighbours of the value on the
decimal grid are tested against the interval of reals that round to the float. The format around the
digits is positional from 0.0001 up to below ten to the sixteenth, and otherwise has an exponent of
at least two digits.
-/

namespace AlertRelay.Decimal

/-- The reals that round to a positive float: its value and the ends of the interval, all over one
denominator, and whether the ends belong to it. -/
structure Interval where
  low : Nat
  value : Nat
  high : Nat
  den : Nat
  closed : Bool

/-- The interval of a positive float. Below a power of two the gap is half as wide. -/
def Interval.ofParts (p : Parts) : Interval :=
  let m := p.mantissa
  let narrow := m == leadingBit && -1074 < p.exponent
  let (up, den) := scale2 1 1 (p.exponent - 2)
  ⟨(4 * m - (if narrow then 1 else 2)) * up, 4 * m * up, (4 * m + 2) * up, den, m % 2 == 0⟩

/-- Whether `grid * 10 ^ place` lies in the interval. -/
def Interval.contains (i : Interval) (grid : Nat) (place : Int) : Bool :=
  let (n, d) := scale10 grid 1 place
  let x := n * i.den
  if i.closed then i.low * d ≤ x && x ≤ i.high * d else i.low * d < x && x < i.high * d

/-- The power of ten of a fraction's leading digit, for a fraction below one: how many places the
point moves right until a digit stands before it. -/
def placesBelow (num den : Nat) : (fuel : Nat) → Nat
  | 0 => 0
  | fuel + 1 => if den ≤ num then 0 else placesBelow (num * 10) den fuel + 1

/-- The power of ten of the leading digit of a positive fraction. -/
def leadingPlace (num den : Nat) : Int :=
  if den ≤ num then ((Nat.toDigits 10 (num / den)).length : Int) - 1
  else -(placesBelow num den 400 : Int)

/-- The point of the grid with `count` digits that lies in the interval and is nearest to the value,
with the place of its last digit. -/
def Interval.pointWith? (i : Interval) (count : Nat) : Option (Nat × Int) :=
  let place : Int := leadingPlace i.value i.den - count + 1
  let (n, d) := scale10 i.value i.den (-place)
  let below := n / d
  let above := below + 1
  match i.contains below place, i.contains above place with
  | false, false => none
  | true, false => some (below, place)
  | false, true => some (above, place)
  | true, true =>
    let isBelow := n % d * 2 < d || (n % d * 2 == d && below % 2 == 0)
    some (if isBelow then below else above, place)

/-- The point with the fewest digits from `count` on, trying `fuel` counts. -/
def Interval.shortestFrom (i : Interval) : (fuel count : Nat) → Option (Nat × Int)
  | 0, _ => none
  | fuel + 1, count =>
    match i.pointWith? count with
    | some point => some point
    | none => i.shortestFrom fuel (count + 1)

/-- The digits of the shortest decimal of a positive float and the power of ten of the first of
them. -/
def shortestDigits (p : Parts) : List Char × Int :=
  let i := Interval.ofParts p
  let (grid, place) := (i.shortestFrom 17 1).getD (i.value / i.den, 0)
  let digits := Nat.toDigits 10 grid
  let first : Int := place + digits.length - 1
  let kept := (digits.reverse.dropWhile (· == '0')).reverse
  (if kept.isEmpty then ['0'] else kept, first)

/-- The exponent after the digits: a sign and at least two digits. -/
def exponentText (e : Int) : List Char :=
  let digits := Nat.toDigits 10 e.natAbs
  'e' :: (if e < 0 then '-' else '+') :: (if digits.length < 2 then '0' :: digits else digits)

/-- The digits with a point or an exponent, the first digit standing for `10 ^ first`. -/
def layout (digits : List Char) (first : Int) : List Char :=
  if first < -4 ∨ 16 ≤ first then
    (match digits with
      | d :: e :: rest => d :: '.' :: e :: rest
      | short => short) ++ exponentText first
  else if first < 0 then
    '0' :: '.' :: (List.replicate ((-first).toNat - 1) '0' ++ digits)
  else
    let whole := first.toNat + 1
    let before := digits.take whole
    let padded := before ++ List.replicate (whole - before.length) '0'
    let after := digits.drop whole
    padded ++ '.' :: (if after.isEmpty then ['0'] else after)

def floatText (x : Float) : String :=
  match parts? x with
  | none => if x.isNaN then "nan" else if x < 0 then "-inf" else "inf"
  | some p =>
    let body :=
      if p.mantissa = 0 then ['0', '.', '0']
      else
        let (digits, first) := shortestDigits p
        layout digits first
    String.ofList (if p.negative then '-' :: body else body)

end AlertRelay.Decimal
