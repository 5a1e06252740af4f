/-!
# Floats as binary fractions

A finite float is a whole number times a power of two. `parts?` takes a float apart into sign, whole
number and exponent; `nearest` goes the other way from any positive fraction, rounding to the
nearest float and a tie to the even neighbour. Everything between is exact arithmetic on `Nat`.
-/

namespace AlertRelay.Decimal

/-- Sign, whole number and binary exponent of a finite float: the magnitude is `mantissa * 2 ^
exponent`. -/
structure Parts where
  negative : Bool
  mantissa : Nat
  exponent : Int

def signBit : Nat := Nat.pow 2 63

def leadingBit : Nat := Nat.pow 2 52

/-- Takes a finite float apart; an infinity and a NaN have no parts. -/
def parts? (x : Float) : Option Parts :=
  let bits : Nat := x.toBits.toNat
  let negative := bits / signBit == 1
  let biased : Nat := bits / leadingBit % 2048
  let fraction : Nat := bits % leadingBit
  if biased = 2047 then none
  else if biased = 0 then some ⟨negative, fraction, -1074⟩
  else some ⟨negative, leadingBit + fraction, (biased : Int) - 1075⟩

def isNaN (x : Float) : Bool := 2047 * leadingBit < x.toBits.toNat % signBit

/-- Whether a float is below zero; a negative zero and a NaN are not. -/
def isBelowZero (x : Float) : Bool :=
  let bits : Nat := x.toBits.toNat
  bits / signBit == 1 && bits % signBit != 0 && !isNaN x

/-- The quotient of two natural numbers to the nearest whole number, a tie to the even one. -/
def divRound (num den : Nat) : Nat :=
  let q := num / den
  let r := num % den
  if 2 * r < den then q
  else if den < 2 * r then q + 1
  else if q % 2 = 0 then q else q + 1

/-- `num / den * 2 ^ e` as a numerator and a denominator. -/
def scale2 (num den : Nat) (e : Int) : Nat × Nat :=
  if 0 ≤ e then (num * Nat.pow 2 e.toNat, den) else (num, den * Nat.pow 2 (-e).toNat)

/-- `num / den * 10 ^ e` as a numerator and a denominator. -/
def scale10 (num den : Nat) (e : Int) : Nat × Nat :=
  if 0 ≤ e then (num * Nat.pow 10 e.toNat, den) else (num, den * Nat.pow 10 (-e).toNat)

/-- The binary exponent at which a positive fraction has a quotient of 53 bits, or that of the
smallest floats if the fraction is below them. -/
def exponentFor (num den : Nat) : Int :=
  let e : Int := (num.log2 : Int) - den.log2 - 53
  let (n, d) := scale2 num den (-e)
  let e := if n / d < 2 * leadingBit then e else e + 1
  max e (-1074)

/-- The bits of the float nearest to a fraction; from the middle above the largest float on, those
of infinity. -/
def nearestBits (num den : Nat) : Nat :=
  if num = 0 then 0
  else
    let e := exponentFor num den
    let (n, d) := scale2 num den (-e)
    let bits := (e + 1074).toNat * leadingBit + divRound n d
    min bits (2047 * leadingBit)

/-- The float nearest to a fraction of the given sign. -/
def nearest (negative : Bool) (num den : Nat) : Float :=
  Float.ofBits (UInt64.ofNat ((if negative then signBit else 0) + nearestBits num den))

/-- The float nearest to a decimal `digits * 10 ^ exponent`. Exponents far outside the range of
floats are settled without computing the power. -/
def ofDecimal (negative : Bool) (digits : Nat) (exponent : Int) : Float :=
  let places : Int := (Nat.toDigits 10 digits).length
  if digits = 0 || exponent + places < -400 then nearest negative 0 1
  else if 400 < exponent + places then nearest negative (Nat.pow 2 1100) 1
  else
    let (n, d) := scale10 digits 1 exponent
    nearest negative n d

/-- The float nearest to an integer. -/
def ofInt (n : Int) : Float := nearest (n < 0) n.natAbs 1

/-- The whole part of a finite float, cut toward zero. -/
def truncate? (x : Float) : Option Int :=
  (parts? x).map fun p =>
    let (n, d) := scale2 p.mantissa 1 p.exponent
    let q : Int := (n / d : Nat)
    if p.negative then -q else q

/-- The integer that a finite float equals, if it is whole. -/
def toInt? (x : Float) : Option Int :=
  (parts? x).bind fun p =>
    let (n, d) := scale2 p.mantissa 1 p.exponent
    if n % d = 0 then
      let q : Int := (n / d : Nat)
      some (if p.negative then -q else q)
    else none

end AlertRelay.Decimal
