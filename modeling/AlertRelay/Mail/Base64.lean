/-!
# Base64

Three bytes as four characters of an alphabet of 64, with padding at the end. `encode` writes one
line. `decode?` reads; the strict form accepts nothing but whole groups and their padding, the lax
form passes over foreign characters and stops after the padding.
-/

namespace AlertRelay.Mail.Base64

def digit (n : Nat) : Char :=
  if n < 26 then Char.ofNat (65 + n)
  else if n < 52 then Char.ofNat (71 + n)
  else if n < 62 then Char.ofNat (n - 4)
  else if n = 62 then '+'
  else '/'

def value? (c : Char) : Option Nat :=
  let n := c.toNat
  if 65 ≤ n ∧ n ≤ 90 then some (n - 65)
  else if 97 ≤ n ∧ n ≤ 122 then some (n - 71)
  else if 48 ≤ n ∧ n ≤ 57 then some (n + 4)
  else if c = '+' then some 62
  else if c = '/' then some 63
  else none

def encode : List UInt8 → List Char
  | [] => []
  | [a] => [digit (a.toNat / 4), digit (a.toNat % 4 * 16), '=', '=']
  | [a, b] =>
    [digit (a.toNat / 4), digit (a.toNat % 4 * 16 + b.toNat / 16), digit (b.toNat % 16 * 4), '=']
  | a :: b :: c :: rest =>
    digit (a.toNat / 4) :: digit (a.toNat % 4 * 16 + b.toNat / 16) ::
      digit (b.toNat % 16 * 4 + c.toNat / 64) :: digit (c.toNat % 64) :: encode rest

structure Group where
  /-- How many characters of the group are read. -/
  read : Nat
  /-- The bits that belong to no whole byte yet. -/
  bits : Nat
  /-- How many characters of padding directly precede. -/
  pads : Nat
  /-- Whether padding was seen at all. -/
  padded : Bool

/-- Reads one more character of the alphabet: the byte that it completes and the group after it. -/
def Group.next (g : Group) (n : Nat) : Option UInt8 × Group :=
  match g.read with
  | 0 => (none, ⟨1, n, 0, g.padded⟩)
  | 1 => (some (UInt8.ofNat (g.bits * 4 + n / 16)), ⟨2, n % 16, 0, g.padded⟩)
  | 2 => (some (UInt8.ofNat (g.bits * 16 + n / 4)), ⟨3, n % 4, 0, g.padded⟩)
  | _ => (some (UInt8.ofNat (g.bits * 64 + n)), ⟨0, 0, 0, g.padded⟩)

/-- Reads on from a group; `acc` holds the bytes read so far in reverse. -/
def decodeFrom (strict : Bool) (g : Group) (acc : List UInt8) : List Char → Option (List UInt8)
  | [] => if g.read = 0 then some acc.reverse else none
  | '=' :: cs =>
    if 2 ≤ g.read ∧ 4 ≤ g.read + (g.pads + 1) then
      if strict && !cs.isEmpty then none else some acc.reverse
    else
      let pads := if 2 ≤ g.read then g.pads + 1 else g.pads
      decodeFrom strict ⟨g.read, g.bits, pads, true⟩ acc cs
  | c :: cs =>
    match value? c with
    | none => if strict then none else decodeFrom strict g acc cs
    | some n =>
      if strict && g.padded then none
      else
        let (byte, g) := g.next n
        decodeFrom strict g (byte.toList ++ acc) cs

def decode? (strict : Bool) (cs : List Char) : Option (List UInt8) :=
  if strict && cs.head? = some '=' then none else decodeFrom strict ⟨0, 0, 0, false⟩ [] cs

end AlertRelay.Mail.Base64
