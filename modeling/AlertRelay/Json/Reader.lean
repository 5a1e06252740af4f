import AlertRelay.Value
import AlertRelay.Decimal.Read

/-!
# Reading JSON

`read` accepts one JSON value with blanks around it. Beyond the standard it knows the names of NaN
and of the infinities; an integer has at most 4300 digits; a key that occurs twice keeps its first
place and its last value; an escape may name half of a surrogate pair. Lists and objects may lie
within one another up to a given depth, beyond which no text is read.
-/

namespace AlertRelay.Json

inductive ReadError where
  | malformed
  /-- Too many values lie within one another; the last of them is an object or a list. -/
  | tooDeep (isObject : Bool)
  deriving DecidableEq

def isGap (c : Char) : Bool := c == ' ' || c == '\n' || c == '\r' || c == '\t'

def skipGap (cs : List Char) : List Char := cs.dropWhile isGap

def hexValue? (c : Char) : Option Nat :=
  if '0' ≤ c ∧ c ≤ '9' then some (c.toNat - 48)
  else if 'a' ≤ c ∧ c ≤ 'f' then some (c.toNat - 87)
  else if 'A' ≤ c ∧ c ≤ 'F' then some (c.toNat - 55)
  else none

def takeUnit? : List Char → Option (Nat × List Char)
  | a :: b :: c :: d :: cs => do
    let a ← hexValue? a
    let b ← hexValue? b
    let c ← hexValue? c
    let d ← hexValue? d
    some (4096 * a + 256 * b + 16 * c + d, cs)
  | _ => none

/-- The second half of a surrogate pair at the head of a text and what follows it. -/
def takeLowHalf? : List Char → Option (Nat × List Char)
  | '\\' :: 'u' :: cs =>
    match takeUnit? cs with
    | some (n, rest) => if 0xDC00 ≤ n ∧ n < 0xE000 then some (n, rest) else none
    | none => none
  | _ => none

/-- The point of an escape by number and what follows it. Two escapes that name the halves of a
surrogate pair are one character. -/
def takePoint? (cs : List Char) : Option (Point × List Char) := do
  let (n, rest) ← takeUnit? cs
  if 0xD800 ≤ n ∧ n < 0xDC00 then
    match takeLowHalf? rest with
    | some (low, rest) =>
      some (.ofNat (0x10000 + (n - 0xD800) * 0x400 + (low - 0xDC00)), rest)
    | none => some (.ofNat n, rest)
  else some (.ofNat n, rest)

def letterEscape? : Char → Option Char
  | '"' => some '"'
  | '\\' => some '\\'
  | '/' => some '/'
  | 'b' => some '\x08'
  | 'f' => some '\x0c'
  | 'n' => some '\n'
  | 'r' => some '\r'
  | 't' => some '\t'
  | _ => none

/-- What is read at the head of a text, and what follows it. -/
abbrev Taken (α : Type) := Except ReadError (α × List Char)

/-- The points of a string after its opening quote and what follows the closing one; `acc` holds the
points read so far in reverse. -/
def takeString (fuel : Nat) (acc : Text) (cs : List Char) : Taken Text :=
  match fuel, cs with
  | 0, _ => .error .malformed
  | _, [] => .error .malformed
  | _, '"' :: cs => .ok (acc.reverse, cs)
  | fuel + 1, '\\' :: 'u' :: cs =>
    match takePoint? cs with
    | some (p, rest) => takeString fuel (p :: acc) rest
    | none => .error .malformed
  | fuel + 1, '\\' :: c :: cs =>
    match letterEscape? c with
    | some d => takeString fuel (d :: acc) cs
    | none => .error .malformed
  | fuel + 1, c :: cs =>
    if c.toNat < 32 ∨ c = '\\' then .error .malformed else takeString fuel (c :: acc) cs

/-- The digits of the whole part of a number: a single zero, or digits that start with another
one. -/
def takeWhole? : List Char → Option (List Char × List Char)
  | '0' :: cs => some (['0'], cs)
  | cs =>
    match Decimal.takeDigits cs with
    | ([], _) => none
    | (ds, rest) => some (ds, rest)

/-- The fraction at the head of a text: a point and at least one digit. -/
def takeFraction (cs : List Char) : List Char × List Char :=
  match cs with
  | '.' :: rest =>
    match Decimal.takeDigits rest with
    | ([], _) => ([], cs)
    | (ds, rest) => (ds, rest)
  | _ => ([], cs)

def takeNumber? (negative : Bool) (cs : List Char) : Option (Value × List Char) := do
  let (whole, rest) ← takeWhole? cs
  let (fraction, rest) := takeFraction rest
  match Decimal.takeExponent rest with
  | some (e, rest) => some (.float (Decimal.ofScientific negative whole fraction e), rest)
  | none =>
    if fraction.isEmpty then
      if 4300 < whole.length then none
      else
        let n : Int := Decimal.ofDigits whole
        some (.int (if negative then -n else n), rest)
    else some (.float (Decimal.ofScientific negative whole fraction 0), rest)

/-- What follows a word at the head of a text. -/
def afterWord? (word : String) (cs : List Char) : Option (List Char) :=
  if word.toList.isPrefixOf cs then some (cs.drop word.length) else none

/-- A number or a named value at the head of a text and what follows it. -/
def takeSimple? : List Char → Option (Value × List Char)
  | 'n' :: cs => (afterWord? "ull" cs).map fun rest => (.null, rest)
  | 't' :: cs => (afterWord? "rue" cs).map fun rest => (.bool true, rest)
  | 'f' :: cs => (afterWord? "alse" cs).map fun rest => (.bool false, rest)
  | 'N' :: cs =>
    (afterWord? "aN" cs).map fun rest => (.float (Float.ofBits 0x7FF8000000000000), rest)
  | 'I' :: cs =>
    (afterWord? "nfinity" cs).map fun rest => (.float (Float.ofBits 0x7FF0000000000000), rest)
  | '-' :: 'I' :: cs =>
    (afterWord? "nfinity" cs).map fun rest => (.float (Float.ofBits 0xFFF0000000000000), rest)
  | '-' :: cs => takeNumber? true cs
  | cs => takeNumber? false cs

mutual

/-- A value without leading blanks and what follows it; `depth` lists and objects may still lie
within one another. -/
def takeValue (fuel depth : Nat) (cs : List Char) : Taken Value :=
  match fuel, cs with
  | 0, _ => .error .malformed
  | _, [] => .error .malformed
  | fuel + 1, '"' :: cs => (takeString fuel [] cs).map fun (s, rest) => (.text s, rest)
  | fuel + 1, '[' :: cs =>
    match depth with
    | 0 => .error (.tooDeep false)
    | depth + 1 =>
      match skipGap cs with
      | ']' :: rest => .ok (.list [], rest)
      | cs => takeItems fuel depth [] cs
  | fuel + 1, '\x7b' :: cs =>
    match depth with
    | 0 => .error (.tooDeep true)
    | depth + 1 =>
      match skipGap cs with
      | '\x7d' :: rest => .ok (.map [], rest)
      | cs => takeEntries fuel depth [] cs
  | _, cs =>
    match takeSimple? cs with
    | some taken => .ok taken
    | none => .error .malformed

/-- The items of a list from the next one on; `acc` holds the earlier ones in reverse. -/
def takeItems (fuel depth : Nat) (acc : List Value) (cs : List Char) : Taken Value :=
  match fuel with
  | 0 => .error .malformed
  | fuel + 1 =>
    match takeValue fuel depth cs with
    | .error e => .error e
    | .ok (v, rest) =>
      match skipGap rest with
      | ']' :: rest => .ok (.list (v :: acc).reverse, rest)
      | ',' :: rest => takeItems fuel depth (v :: acc) (skipGap rest)
      | _ => .error .malformed

def takeEntries (fuel depth : Nat) (acc : List (Value × Value)) (cs : List Char) : Taken Value :=
  match fuel, cs with
  | fuel + 1, '"' :: cs =>
    match takeString fuel [] cs with
    | .error e => .error e
    | .ok (k, rest) =>
      match skipGap rest with
      | ':' :: rest =>
        match takeValue fuel depth (skipGap rest) with
        | .error e => .error e
        | .ok (v, rest) =>
          let acc := Value.enter acc (.text k) v
          match skipGap rest with
          | '\x7d' :: rest => .ok (.map acc, rest)
          | ',' :: rest => takeEntries fuel depth acc (skipGap rest)
          | _ => .error .malformed
      | _ => .error .malformed
  | _, _ => .error .malformed

end

/-- Reads a whole text as one JSON value in which at most so many lists and objects lie within one
another. -/
def read (depthLimit : Nat) (s : String) : Except ReadError Value :=
  let cs := s.toList
  match takeValue (2 * cs.length + 2) depthLimit (skipGap cs) with
  | .ok (v, rest) => if (skipGap rest).isEmpty then .ok v else .error .malformed
  | .error e => .error e

end AlertRelay.Json
