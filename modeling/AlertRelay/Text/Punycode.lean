import AlertRelay.Text.Point

/-!
# Punycode

A text of any script in letters and digits of ASCII. The characters of ASCII come first, then a dash
if there are any. The others follow in the order of their numbers: each is a number that says how
far it lies behind the one before it, counted over all places of the text for each character in
turn. The numbers are written with digits of growing weight, and the first digit below a threshold
ends one. The thresholds follow the size of the numbers seen so far.
-/

namespace AlertRelay.Text.Punycode

/-- The character of a digit below 36: the small letters and then the ten digits. -/
def digit (n : Nat) : Char := if n < 26 then Char.ofNat (97 + n) else Char.ofNat (22 + n)

def digitValue? (c : Char) : Option Nat :=
  let n := c.toNat
  if 97 ≤ n ∧ n ≤ 122 then some (n - 97)
  else if 65 ≤ n ∧ n ≤ 90 then some (n - 65)
  else if 48 ≤ n ∧ n ≤ 57 then some (n - 22)
  else none

/-- The threshold of the digit at a place, which counts from 36 in steps of 36. -/
def threshold (place bias : Nat) : Nat := min 26 (max 1 (place - bias))

theorem threshold_pos (place bias : Nat) : 1 ≤ threshold place bias := by
  unfold threshold; omega

/-- Divides a number by 35 until it is small; each division counts 36. -/
def scaleDown (n count : Nat) : Nat × Nat :=
  if 455 < n then scaleDown (n / 35) (count + 36) else (n, count)
termination_by n
decreasing_by exact Nat.div_lt_self (by omega) (by omega)

/-- The bias after a number, when the text has `size` characters. -/
def adapted (n size : Nat) (isFirst : Bool) : Nat :=
  let start := if isFirst then n / 700 else n / 2
  let (small, count) := scaleDown (start + start / size) 0
  count + 36 * small / (small + 38)

/-! ### Writing -/

def numberDigits (bias place n : Nat) : List Char :=
  let t := threshold place bias
  if n < t then [digit n]
  else digit (t + (n - t) % (36 - t)) :: numberDigits bias (place + 36) ((n - t) / (36 - t))
termination_by n
decreasing_by
  have := threshold_pos place bias
  exact Nat.lt_of_le_of_lt (Nat.div_le_self _ _) (by omega)

/-- What is written of a text: the digits so far, the way since the last character, the bias, and
how many characters are written. -/
structure Written where
  digits : List Char
  delta : Nat
  bias : Nat
  size : Nat

/-- Passes a character of the text in the round for the number `m`, when `basics` characters are
ASCII. -/
def Written.pass (basics m : Nat) (w : Written) (n : Nat) : Written :=
  if n < m then ⟨w.digits, w.delta + 1, w.bias, w.size⟩
  else if n = m then
    ⟨w.digits ++ numberDigits w.bias 36 w.delta, 0,
      adapted w.delta (w.size + 1) (w.size = basics), w.size + 1⟩
  else w

/-- The rounds for the numbers of characters in ascending order; `low` is where the round begins. -/
def rounds (text : List Nat) (basics : Nat) : (low : Nat) → List Nat → Written → Written
  | _, [], w => w
  | low, m :: ms, w =>
    let start : Written := ⟨w.digits, w.delta + (m - low) * (w.size + 1), w.bias, w.size⟩
    let w := text.foldl (Written.pass basics m) start
    rounds text basics (m + 1) ms ⟨w.digits, w.delta + 1, w.bias, w.size⟩

/-- The numbers of a list in ascending order without repetition. -/
def ascending (ns : List Nat) : List Nat := (ns.mergeSort (· ≤ ·)).eraseDups

def encode (cs : List Char) : List Char :=
  let basic := cs.filter (·.toNat < 0x80)
  let numbers := cs.map Char.toNat
  let others := ascending (numbers.filter (0x80 ≤ ·))
  let w := rounds numbers basic.length 0x80 others ⟨[], 0, 72, basic.length⟩
  basic ++ (if basic.isEmpty then [] else ['-']) ++ w.digits

/-! ### Reading -/

def takeNumber? (bias : Nat) : (place weight n : Nat) → List Char → Option (Nat × List Char)
  | _, _, _, [] => none
  | place, weight, n, c :: cs =>
    match digitValue? c with
    | none => none
    | some d =>
      let t := threshold place bias
      if d < t then some (n + d * weight, cs)
      else takeNumber? bias (place + 36) (weight * (36 - t)) (n + d * weight) cs

/-- Puts the characters of digits into a text, given by its numbers; every number uses up at least
one of `bound` digits. `low` and `place` say where the last character was put. -/
def insertAll? (bound bias low place : Nat) (isFirst : Bool) (text : List Nat)
    (digits : List Char) : Option (List Nat) :=
  match bound, digits with
  | _, [] => some text
  | 0, _ => none
  | bound + 1, digits =>
    match takeNumber? bias 36 1 0 digits with
    | none => none
    | some (n, rest) =>
      let size := text.length + 1
      let way := place + n
      let low := low + way / size
      if 0x10FFFF < low then none
      else
        let place := way % size
        insertAll? bound (adapted n size isFirst) low (place + 1) false
          (text.take place ++ low :: text.drop place) rest

def decode? (cs : List Char) : Option Text :=
  let digits := (cs.reverse.takeWhile (· != '-')).reverse
  let basic := cs.take (cs.length - digits.length - 1)
  if cs.all (·.toNat < 0x80) then
    (insertAll? digits.length 72 0x80 0 true (basic.map Char.toNat) digits).map (·.map Point.ofNat)
  else none

end AlertRelay.Text.Punycode
