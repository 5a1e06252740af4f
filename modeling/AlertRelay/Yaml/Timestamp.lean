import AlertRelay.Value
import AlertRelay.Failure
import AlertRelay.Decimal.Read
import AlertRelay.Text.Lines

/-!
# Points of time

A day is written as year, month and day with dashes; a time of the day may follow with hours,
minutes and seconds, a fraction, and the distance of its zone from universal time.
-/

namespace AlertRelay.Yaml

structure WrittenTime where
  hour : Nat
  minute : Nat
  second : Nat
  fraction : List Char
  /-- The distance from universal time in minutes. -/
  zone : Option Int

/-- A point of time as it is written. `isPadded` says whether month and day have two digits. -/
structure Timestamp where
  year : Nat
  month : Nat
  day : Nat
  isPadded : Bool
  time : Option WrittenTime

namespace Timestamp

/-! ### Reading -/

def twoDigits? : List Char → Option (Nat × List Char)
  | a :: b :: cs => if a.isDigit && b.isDigit then some (Decimal.ofDigits [a, b], cs) else none
  | _ => none

/-- A number of one or two digits, how many it has, and what follows it. -/
def upToTwoDigits? (cs : List Char) : Option (Nat × Nat × List Char) :=
  match twoDigits? cs with
  | some (n, rest) => some (n, 2, rest)
  | none =>
    match cs with
    | a :: rest => if a.isDigit then some (Decimal.ofDigits [a], 1, rest) else none
    | [] => none

def after? (c : Char) : List Char → Option (List Char)
  | d :: cs => if d = c then some cs else none
  | [] => none

def isGap (c : Char) : Bool := c == ' ' || c == '\t'

/-- What follows the mark between the day and the time: a letter, or blanks. -/
def afterDayMark? : List Char → Option (List Char)
  | 'T' :: cs => some cs
  | 't' :: cs => some cs
  | c :: cs => if isGap c then some (cs.dropWhile isGap) else none
  | [] => none

/-- The distance of a zone that ends a text: none if nothing is left. -/
def zone? (cs : List Char) : Option (Option Int) :=
  match cs.dropWhile isGap with
  | [] => if cs.isEmpty then some none else none
  | ['Z'] => some (some 0)
  | sign :: rest =>
    if sign == '+' || sign == '-' then do
      let (hours, _, rest) ← upToTwoDigits? rest
      let minutes ← match rest with
        | [] => some 0
        | rest => do
          let (minutes, rest) ← twoDigits? (← after? ':' rest)
          if rest.isEmpty then some minutes else none
      let distance : Int := hours * 60 + minutes
      some (some (if sign == '-' then -distance else distance))
    else none

def takeFraction : List Char → List Char × List Char
  | '.' :: cs => Decimal.takeDigits cs
  | cs => ([], cs)

def time? (cs : List Char) : Option WrittenTime := do
  let (hour, _, rest) ← upToTwoDigits? cs
  let (minute, rest) ← twoDigits? (← after? ':' rest)
  let (second, rest) ← twoDigits? (← after? ':' rest)
  let (fraction, rest) := takeFraction rest
  some ⟨hour, minute, second, fraction, ← zone? rest⟩

def read? (cs : List Char) : Option Timestamp := do
  let (high, rest) ← twoDigits? cs
  let (low, rest) ← twoDigits? rest
  let (month, monthDigits, rest) ← upToTwoDigits? (← after? '-' rest)
  let (day, dayDigits, rest) ← upToTwoDigits? (← after? '-' rest)
  let time ← match rest with
    | [] => some none
    | rest => do some (some (← time? (← afterDayMark? rest)))
  some ⟨high * 100 + low, month, day, monthDigits == 2 && dayDigits == 2, time⟩

/-- Whether a plain scalar is a point of time: a day alone has two digits for month and day. -/
def isPlainForm (cs : List Char) : Bool :=
  (read? cs).any fun t => t.time.isSome || t.isPadded

/-! ### The value -/

def isLeap (year : Nat) : Bool := year % 4 == 0 && (year % 100 != 0 || year % 400 == 0)

def daysIn (year month : Nat) : Nat :=
  if month = 2 then if isLeap year then 29 else 28
  else if month ∈ [4, 6, 9, 11] then 30
  else 31

def outOfRange (text : String) : Fault := ⟨"ValueError", text⟩

def toDay (t : Timestamp) : Except Fault Day :=
  if t.year = 0 then .error (outOfRange "year 0 is out of range")
  else if t.month = 0 ∨ 12 < t.month then .error (outOfRange "month must be in 1..12")
  else if t.day = 0 ∨ daysIn t.year t.month < t.day then
    .error (outOfRange "day is out of range for month")
  else .ok ⟨t.year, t.month, t.day⟩

def microseconds (fraction : List Char) : Nat :=
  let ds := fraction.take 6
  Decimal.ofDigits (ds ++ List.replicate (6 - ds.length) '0')

/-- The fault of a zone a day or more away. -/
def zoneFault (minutes : Int) : Fault :=
  let seconds := minutes * 60
  let days := Int.fdiv seconds 86400
  let rest := Int.fmod seconds 86400
  let parts := (if days = 0 then [] else ["days=" ++ toString days]) ++
    (if rest = 0 then [] else ["seconds=" ++ toString rest])
  outOfRange ("offset must be a timedelta strictly between -timedelta(hours=24) and " ++
    "timedelta(hours=24), not datetime.timedelta(" ++ commaSeparated parts ++ ").")

/-- The distance of a zone in seconds. -/
def toOffset : Option Int → Except Fault (Option Int)
  | none => .ok none
  | some minutes =>
    if minutes.natAbs < 24 * 60 then .ok (some (minutes * 60)) else .error (zoneFault minutes)

def toValue (t : Timestamp) : Except Fault Value :=
  match t.time with
  | none => do .ok (.day (← t.toDay))
  | some time => do
    let offset ← toOffset time.zone
    let day ← t.toDay
    if 23 < time.hour then .error (outOfRange "hour must be in 0..23")
    else if 59 < time.minute then .error (outOfRange "minute must be in 0..59")
    else if 59 < time.second then .error (outOfRange "second must be in 0..59")
    else
      .ok (.instant
        ⟨day, time.hour, time.minute, time.second, microseconds time.fraction, offset⟩)

end Timestamp

end AlertRelay.Yaml
