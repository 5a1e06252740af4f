import AlertRelay.Value
import AlertRelay.Decimal.Read
import AlertRelay.Text.Blank
import AlertRelay.Text.Utf8

/-!
# Checking values against a form

A check turns a value without a form into a typed one or says everything that is wrong with it. The
checks of the fields of a record are combined so that no issue hides another: `Checked` collects the
issues of all parts in order. Lax forms are accepted where they are unambiguous: a numeral for a
number, a whole float for an integer, a common word for a truth value.
-/

namespace AlertRelay.Config

/-- One step into a value: the name of a field or key, or the index of an item. -/
inductive Place where
  | name (s : Text)
  | index (i : Int)
  deriving DecidableEq

inductive Problem where
  | missing
  | notText
  | undecodableText
  | notList
  | notMap
  | notRecord (record : String)
  | unknownStatus
  | belowZero
  | frozen
  | fractionalInteger
  | infiniteInteger
  | oversizedInteger
  | unreadableInteger
  | notInteger
  | unreadableNumber
  | notNumber
  | unreadableTruth
  | notTruth
  deriving DecidableEq

def Problem.code : Problem → String
  | .missing => "missing"
  | .notText => "string_type"
  | .undecodableText => "string_unicode"
  | .notList => "list_type"
  | .notMap => "dict_type"
  | .notRecord _ => "model_type"
  | .unknownStatus => "enum"
  | .belowZero => "greater_than_equal"
  | .frozen => "frozen_instance"
  | .fractionalInteger => "int_from_float"
  | .infiniteInteger => "finite_number"
  | .oversizedInteger => "int_parsing_size"
  | .unreadableInteger => "int_parsing"
  | .notInteger => "int_type"
  | .unreadableNumber => "float_parsing"
  | .notNumber => "float_type"
  | .unreadableTruth => "bool_parsing"
  | .notTruth => "bool_type"

def Problem.message : Problem → String
  | .missing => "Field required"
  | .notText => "Input should be a valid string"
  | .undecodableText =>
    "Input should be a valid string, unable to parse raw data as a unicode string"
  | .notList => "Input should be a valid list"
  | .notMap => "Input should be a valid dictionary"
  | .notRecord record => "Input should be a valid dictionary or instance of " ++ record
  | .unknownStatus => "Input should be 'passing', 'warning', 'critical' or 'maintenance'"
  | .belowZero => "Input should be greater than or equal to 0"
  | .frozen => "Instance is frozen"
  | .fractionalInteger => "Input should be a valid integer, got a number with a fractional part"
  | .infiniteInteger => "Input should be a finite number"
  | .oversizedInteger => "Unable to parse input string as an integer, exceeded maximum size"
  | .unreadableInteger => "Input should be a valid integer, unable to parse string as an integer"
  | .notInteger => "Input should be a valid integer"
  | .unreadableNumber => "Input should be a valid number, unable to parse string as a number"
  | .notNumber => "Input should be a valid number"
  | .unreadableTruth => "Input should be a valid boolean, unable to interpret input"
  | .notTruth => "Input should be a valid boolean"

structure Issue where
  path : List Place
  problem : Problem
  deriving DecidableEq

/-- Everything wrong with a value that was to become a record. -/
structure Rejection where
  record : String
  issues : List Issue
  deriving DecidableEq

/-- The result of a check: a typed value, or the issues in order. -/
inductive Checked (α : Type) where
  | accepted (a : α)
  | rejected (issues : List Issue)

namespace Checked

variable {α β : Type}

/-- Applies a function to an accepted value. -/
def map (f : α → β) : Checked α → Checked β
  | accepted a => accepted (f a)
  | rejected issues => rejected issues

/-- Combines two checks; the issues of both are kept. -/
def seq (f : Checked (α → β)) (x : Unit → Checked α) : Checked β :=
  match f, x () with
  | accepted f, accepted a => accepted (f a)
  | accepted _, rejected issues => rejected issues
  | rejected issues, accepted _ => rejected issues
  | rejected issues, rejected more => rejected (issues ++ more)

instance : Functor Checked where
  map := map

instance : Applicative Checked where
  pure := accepted
  seq := seq

def fail (p : Problem) : Checked α := rejected [⟨[], p⟩]

/-- The same result with its issues one step further out. -/
def under (place : Place) : Checked α → Checked α
  | accepted a => accepted a
  | rejected issues => rejected (issues.map fun i => ⟨place :: i.path, i.problem⟩)

/-- A further condition on an accepted value. -/
def ensure (p : α → Bool) (problem : Problem) : Checked α → Checked α
  | accepted a => if p a then accepted a else fail problem
  | rejected issues => rejected issues

/-- The result for a record of the given name. -/
def toExcept (record : String) : Checked α → Except Rejection α
  | accepted a => .ok a
  | rejected issues => .error ⟨record, issues⟩

end Checked

/-! ### Numerals -/

/-- How many characters the digits of an integer may take up, its sign included. -/
def digitLimit : Nat := 4300

/-- Reads an integer in its plain form: a minus sign or none, and digits without a leading zero. -/
def readPlainInteger (cs : List Char) : Checked Int :=
  let (negative, digits) := match cs with
    | '-' :: cs => (true, cs)
    | cs => (false, cs)
  match digits with
  | ['0'] => .accepted 0
  | '0' :: _ => .fail .unreadableInteger
  | digits =>
    let (ds, rest) := Decimal.takeDigits digits
    if digitLimit < ds.length + (if negative then 1 else 0) then .fail .oversizedInteger
    else if ds.isEmpty || !rest.isEmpty then .fail .unreadableInteger
    else
      let n : Int := Decimal.ofDigits ds
      .accepted (if negative then -n else n)

/-- What follows the leading zeros of a numeral, among which underscores may stand; `last` is the
character before the text. A point keeps the character before it, and of zeros alone the last
character is kept. -/
def afterZeros? (last : Char) : List Char → Option (List Char)
  | [] => some [last]
  | c :: cs =>
    if c = '0' ∨ c = '_' then afterZeros? c cs
    else if c = '-' ∨ c.isDigit then some (c :: cs)
    else if c = '.' then some (last :: c :: cs)
    else none

/-- A numeral without its leading zeros; none if it does not begin like one. -/
def dropZeros? : List Char → Option (List Char)
  | [] => none
  | c :: cs =>
    if c = '0' then afterZeros? c cs else if c = '-' ∨ c.isDigit then some (c :: cs) else none

/-- What stands before a point that only zeros follow. -/
def dropZeroFraction (cs : List Char) : List Char :=
  let (whole, rest) := cs.span (· != '.')
  match rest with
  | '.' :: zeros => if !zeros.isEmpty && zeros.all (· == '0') then whole else cs
  | _ => whole

def underscoresMeet : List Char → Bool
  | '_' :: '_' :: _ => true
  | _ :: cs => underscoresMeet cs
  | [] => false

/-- Drops the underscores of a numeral, which may neither begin nor end it nor meet. -/
def dropUnderscores? (cs : List Char) : Option (List Char) :=
  if cs.head? = some '_' || cs.getLast? = some '_' || underscoresMeet cs then none
  else some (cs.filter (· != '_'))

/-- The plain form of a numeral: without leading zeros, a fraction of zeros, and underscores. -/
def plainNumeral? (cs : List Char) : Option (List Char) := do
  let cs := dropZeroFraction (← dropZeros? cs)
  some ((dropUnderscores? cs).getD cs)

/-- The plain form of a numeral with a sign, which is dropped if it is a plus sign. -/
def plainSignedNumeral? : List Char → Option (List Char)
  | '+' :: '-' :: _ => none
  | '+' :: cs => plainNumeral? cs
  | '-' :: cs => (plainNumeral? cs).map ('-' :: ·)
  | cs => plainNumeral? cs

/-- Reads a numeral as an integer: in its plain form, or else with blanks around it, a sign, leading
zeros, underscores and at most a fraction of zeros. -/
def readInteger (s : String) : Checked Int :=
  match readPlainInteger s.toList with
  | .accepted n => .accepted n
  | .rejected issues =>
    if issues = [⟨[], .oversizedInteger⟩] then .fail .oversizedInteger
    else
      match plainSignedNumeral? (Text.trim Text.isNumeralBlank s.toList) with
      | some cs => readPlainInteger cs
      | none => .fail .unreadableInteger

/-- Reads a numeral as a number: with blanks around it or with underscores in it. -/
def readNumber (s : String) : Checked Float :=
  let cs := s.toList
  match Decimal.readFloat? (Text.trim Text.isNumeralBlank cs) with
  | some x => .accepted x
  | none =>
    match (dropUnderscores? cs).bind Decimal.readFloat? with
    | some x => .accepted x
    | none => .fail .unreadableNumber

/-! ### Checks of single values -/

/-- A text, or the text that bytes encode. -/
def asText : Value → Checked Text
  | .text s => .accepted s
  | .bytes bs =>
    match Text.ofUtf8? bs with
    | some cs => .accepted (Text.ofChars cs)
    | none => .fail .undecodableText
  | _ => .fail .notText

/-- The string of a numeral or word, or none if the value is neither text nor bytes. A text that
holds half of a surrogate pair is none, and for bytes that are no text the value counts as
`unreadable`. -/
def wordOf? (unreadable : Problem) (v : Value) : Option (Checked String) :=
  match v with
  | .text s =>
    match s.string? with
    | some s => some (.accepted s)
    | none => some (.fail .undecodableText)
  | .bytes bs =>
    match Text.ofUtf8? bs with
    | some cs => some (.accepted (String.ofList cs))
    | none => some (.fail unreadable)
  | _ => none

/-- The integers of 64 bits reach from minus this bound to below it. -/
def wordBound : Int := 0x8000000000000000

def integerOfFloat (x : Float) : Checked Int :=
  match Decimal.parts? x with
  | none => .fail .infiniteInteger
  | some _ =>
    match Decimal.toInt? x with
    | none => .fail .fractionalInteger
    | some n => if -wordBound < n ∧ n < wordBound then .accepted n else .fail .oversizedInteger

def asInteger (v : Value) : Checked Int :=
  match v with
  | .int n => .accepted n
  | .bool b => .accepted (if b then 1 else 0)
  | .float x => integerOfFloat x
  | v =>
    match wordOf? .unreadableInteger v with
    | some (.accepted s) => readInteger s
    | some (.rejected issues) => .rejected issues
    | none => .fail .notInteger

/-- A number; an integer beyond the range of floats is none. -/
def asNumber (v : Value) : Checked Float :=
  match v with
  | .int n =>
    let x := Decimal.ofInt n
    if x.isInf then .fail .notNumber else .accepted x
  | .bool b => .accepted (if b then 1 else 0)
  | .float x => .accepted x
  | v =>
    match wordOf? .unreadableNumber v with
    | some (.accepted s) => readNumber s
    | some (.rejected issues) => .rejected issues
    | none => .fail .notNumber

/-- The truth value of a word in any case. -/
def readTruth (s : String) : Checked Bool :=
  let word := String.ofList (s.toList.map Char.toLower)
  if word ∈ ["0", "off", "f", "false", "n", "no"] then .accepted false
  else if word ∈ ["1", "on", "t", "true", "y", "yes"] then .accepted true
  else .fail .unreadableTruth

def asTruth (v : Value) : Checked Bool :=
  match v with
  | .bool b => .accepted b
  | .int 0 => .accepted false
  | .int 1 => .accepted true
  | .int n => if -wordBound ≤ n ∧ n < wordBound then .fail .unreadableTruth else .fail .notTruth
  | .float x =>
    if x == 0 then .accepted false
    else if x == 1 then .accepted true
    else
      match integerOfFloat x with
      | .accepted _ => .fail .unreadableTruth
      | .rejected _ => .fail .notTruth
  | v =>
    match wordOf? .unreadableTruth v with
    | some (.accepted s) => readTruth s
    | some (.rejected issues) => .rejected issues
    | none => .fail .notTruth

/-- An integer that is not negative. -/
def asCount (v : Value) : Checked Nat :=
  ((asInteger v).ensure (0 ≤ ·) .belowZero).map Int.toNat

/-- A number that is not negative; NaN is none. -/
def asDuration (v : Value) : Checked Float :=
  (asNumber v).ensure (fun x => !Decimal.isNaN x && !Decimal.isBelowZero x) .belowZero

/-! ### Checks of compound values -/

/-- The checks of the items of a list, the first of which has the given index. -/
def eachItem {α : Type} (check : Value → Checked α) : Nat → List Value → Checked (List α)
  | _, [] => .accepted []
  | i, v :: vs => List.cons <$> (check v).under (.index i) <*> eachItem check (i + 1) vs

def asList {α : Type} (check : Value → Checked α) : Value → Checked (List α)
  | .list items => eachItem check 0 items
  | .set items => eachItem check 0 items
  | _ => .fail .notList

/-- The name of an integer that is no index; one with too many digits has none of its own. -/
def nameOfInteger (n : Int) : Text :=
  if digitLimit < (toString n.natAbs).length then "<unprintable int object>" else toString n

/-- The step into a map that a key stands for. -/
def placeOfKey : Value → Place
  | .text s => .name s
  | .bool b => .index (if b then 1 else 0)
  | .int n => if -wordBound ≤ n ∧ n < wordBound then .index n else .name (nameOfInteger n)
  | v => .name v.written

/-- Enters a name: in its old place if it is there already, else at the end. -/
def enterName {ν α : Type} [DecidableEq ν] (entries : List (ν × α)) (name : ν) (a : α) :
    List (ν × α) :=
  match entries with
  | [] => [(name, a)]
  | (n, b) :: rest => if n = name then (n, a) :: rest else (n, b) :: enterName rest name a

/-- The checks of the entries of a map, added to those in `done`; an issue with a key lies at the
key and is marked as such. -/
def eachEntry {α : Type} (check : Value → Checked α) (done : Checked (List (Text × α))) :
    List (Value × Value) → Checked (List (Text × α))
  | [] => done
  | (k, v) :: rest =>
    let place := placeOfKey k
    let name := ((asText k).under (.name "[key]")).under place
    let value := (check v).under place
    eachEntry check (enterName <$> done <*> name <*> value) rest

def asMap {α : Type} (check : Value → Checked α) : Value → Checked (List (Text × α))
  | .map entries => eachEntry check (.accepted []) entries
  | _ => .fail .notMap

def required {α : Type} (entries : List (Value × Value)) (name : String)
    (check : Value → Checked α) : Checked α :=
  match Value.lookup? entries name with
  | some v => (check v).under (.name name)
  | none => (Checked.fail .missing).under (.name name)

def optional {α : Type} (entries : List (Value × Value)) (name : String) (default : α)
    (check : Value → Checked α) : Checked α :=
  match Value.lookup? entries name with
  | some v => (check v).under (.name name)
  | none => .accepted default

/-- A record whose fields are checked together; entries of other names are ignored. -/
def asRecord {α : Type} (record : String) (fields : List (Value × Value) → Checked α) :
    Value → Checked α
  | .map entries => fields entries
  | _ => .fail (.notRecord record)

end AlertRelay.Config
