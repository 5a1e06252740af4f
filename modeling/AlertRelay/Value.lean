import AlertRelay.Text.Quoted
import AlertRelay.Decimal.Shortest

/-!
# Values of a configuration or reply

The values that a configuration document, the reply of a service or a log field may hold, with their
written form. The entries of a map keep the order in which their keys first appeared, and a key that
is entered again keeps its place and takes the new value.
-/

namespace AlertRelay

structure Day where
  year : Nat
  month : Nat
  day : Nat
  deriving DecidableEq

/-- The days of a year before the first of a month, in a year that is no leap year. -/
def daysBeforeMonth : Nat → Nat
  | 2 => 31
  | 3 => 59
  | 4 => 90
  | 5 => 120
  | 6 => 151
  | 7 => 181
  | 8 => 212
  | 9 => 243
  | 10 => 273
  | 11 => 304
  | 12 => 334
  | _ => 0

def Day.number (d : Day) : Nat :=
  let y := if d.month ≤ 2 then d.year - 1 else d.year
  365 * d.year + y / 4 - y / 100 + y / 400 + daysBeforeMonth d.month + d.day

/-- A time of a day, with the distance of its zone from universal time in seconds if it has a
zone. -/
structure Instant where
  day : Day
  hour : Nat
  minute : Nat
  second : Nat
  microsecond : Nat
  offset : Option Int
  deriving DecidableEq

namespace Instant

/-- The microseconds from the beginning of the calendar to an instant by its own clock. -/
def localMicros (t : Instant) : Int :=
  let seconds := ((t.day.number * 24 + t.hour) * 60 + t.minute) * 60 + t.second
  (seconds * 1000000 + t.microsecond : Nat)

/-- Whether two instants are the same point of time. One with a zone and one without never are. -/
def sameTime (s t : Instant) : Bool :=
  match s.offset, t.offset with
  | none, none => s.localMicros == t.localMicros
  | some m, some n => s.localMicros - m * 1000000 == t.localMicros - n * 1000000
  | _, _ => false

end Instant

inductive Value where
  | null
  | bool (b : Bool)
  | int (n : Int)
  | float (x : Float)
  | text (s : Text)
  | bytes (bs : List UInt8)
  | day (d : Day)
  | instant (t : Instant)
  | list (items : List Value)
  | set (items : List Value)
  | map (entries : List (Value × Value))

instance : Inhabited Value := ⟨.null⟩

def commaSeparated (parts : List String) : String := String.intercalate ", " parts

/-! ### The written form -/

/-- One byte inside quotes `q`. -/
def quotedByte (q : Char) (b : UInt8) : List Char :=
  let c := Char.ofNat b.toNat
  if 32 ≤ b.toNat ∧ b.toNat < 127 then Text.quotedChar q c
  else if b = 9 ∨ b = 10 ∨ b = 13 then Text.quotedChar q c
  else '\\' :: 'x' :: Text.hex 2 b.toNat

/-- The quoted form of a sequence of bytes. -/
def quotedBytes (bs : List UInt8) : String :=
  let q := Text.quoteFor (Text.ofChars (bs.map fun b => Char.ofNat b.toNat))
  String.ofList ('b' :: q :: bs.flatMap (quotedByte q) ++ [q])

def Day.written (d : Day) : String :=
  "datetime.date(" ++ commaSeparated [toString d.year, toString d.month, toString d.day] ++ ")"

def writtenOffset (seconds : Int) : String :=
  if seconds = 0 then "datetime.timezone.utc"
  else
    let days := Int.fdiv seconds 86400
    let rest := Int.fmod seconds 86400
    let parts := (if days = 0 then [] else ["days=" ++ toString days]) ++
      (if rest = 0 then [] else ["seconds=" ++ toString rest])
    "datetime.timezone(datetime.timedelta(" ++ commaSeparated parts ++ "))"

/-- The written form of an instant; the seconds are left out where nothing stands below minutes. -/
def Instant.written (t : Instant) : String :=
  let below :=
    if t.microsecond ≠ 0 then [t.second, t.microsecond]
    else if t.second ≠ 0 then [t.second]
    else []
  let numbers := [t.day.year, t.day.month, t.day.day, t.hour, t.minute] ++ below
  let zone := match t.offset with
    | none => []
    | some seconds => ["tzinfo=" ++ writtenOffset seconds]
  "datetime.datetime(" ++ commaSeparated (numbers.map toString ++ zone) ++ ")"

def truthText (b : Bool) : String := if b then "True" else "False"

namespace Value

mutual

/-- The written form of a value: texts are quoted, lists stand in brackets and maps in braces. -/
def written : Value → String
  | .null => "None"
  | .bool b => truthText b
  | .int n => toString n
  | .float x => Decimal.floatText x
  | .text s => Text.quoted s
  | .bytes bs => quotedBytes bs
  | .day d => d.written
  | .instant t => t.written
  | .list items => "[" ++ commaSeparated (writtenItems items) ++ "]"
  | .set items =>
    if items.isEmpty then "set()" else "\x7b" ++ commaSeparated (writtenItems items) ++ "\x7d"
  | .map entries => "\x7b" ++ commaSeparated (writtenEntries entries) ++ "\x7d"

def writtenItems : List Value → List String
  | [] => []
  | v :: vs => v.written :: writtenItems vs

def writtenEntries : List (Value × Value) → List String
  | [] => []
  | (k, v) :: es => (k.written ++ ": " ++ v.written) :: writtenEntries es

end

/-- The text of a value: a text stands for itself, every other value for its written form. -/
def display : Value → Text
  | .text s => s
  | v => v.written

def kindName : Value → String
  | .null => "NoneType"
  | .bool _ => "bool"
  | .int _ => "int"
  | .float _ => "float"
  | .text _ => "str"
  | .bytes _ => "bytes"
  | .day _ => "datetime.date"
  | .instant _ => "datetime.datetime"
  | .list _ => "list"
  | .set _ => "set"
  | .map _ => "dict"

/-- Whether a value counts as something: neither null, false, zero, empty nor blank. -/
def isTruthy : Value → Bool
  | .null => false
  | .bool b => b
  | .int n => n != 0
  | .float x => !(x == 0)
  | .text s => !s.isEmpty
  | .bytes bs => !bs.isEmpty
  | .day _ => true
  | .instant _ => true
  | .list items => !items.isEmpty
  | .set items => !items.isEmpty
  | .map entries => !entries.isEmpty

/-! ### Keys of a map -/

/-- The integer that a truth value, an integer or a whole float stands for as a key. -/
def keyNumber? : Value → Option Int
  | .bool b => some (if b then 1 else 0)
  | .int n => some n
  | .float x => Decimal.toInt? x
  | _ => none

/-- Whether two values are one key: equal numbers are one key whatever their form, and so are names
of one point of time and all that is no number. -/
def sameKey (a b : Value) : Bool :=
  match keyNumber? a, keyNumber? b with
  | some m, some n => m == n
  | none, none =>
    match a, b with
    | .null, .null => true
    | .float x, .float y => x == y || x.isNaN && y.isNaN
    | .text s, .text t => s == t
    | .bytes s, .bytes t => s == t
    | .day d, .day e => d == e
    | .instant s, .instant t => s.sameTime t
    | _, _ => false
  | _, _ => false

/-- Enters a key: in its old place if it is there already, else at the end. -/
def enter {α : Type} (entries : List (Value × α)) (key : Value) (value : α) : List (Value × α) :=
  match entries with
  | [] => [(key, value)]
  | (k, v) :: rest => if sameKey k key then (k, value) :: rest else (k, v) :: enter rest key value

def lookup? (entries : List (Value × Value)) (name : Text) : Option Value :=
  (entries.find? fun e => match e.1 with | .text s => s == name | _ => false).map (·.2)

end Value

end AlertRelay
