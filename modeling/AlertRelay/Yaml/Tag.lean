import AlertRelay.Decimal.Read
import AlertRelay.Yaml.Timestamp

/-!
# Tags

What kind of value a node stands for. A node may name its tag; otherwise the form of a plain scalar
decides, and every other scalar is a text.
-/

namespace AlertRelay.Yaml

inductive Tag where
  | null
  | bool
  | int
  | float
  | binary
  | timestamp
  | text
  | list
  | map
  | set
  | pairs
  | orderedMap
  /-- A key whose value is merged into the map. -/
  | merge
  /-- A key whose value stands for the map. -/
  | value
  /-- A kind without values. -/
  | unknown
  deriving DecidableEq

namespace Tag

/-- What the names of the known kinds begin with. -/
def base : String := "tag:yaml.org,2002:"

def names : List (String × Tag) :=
  [("null", null), ("bool", bool), ("int", int), ("float", float), ("binary", binary),
    ("timestamp", timestamp), ("str", text), ("seq", list), ("map", map), ("set", set),
    ("pairs", pairs), ("omap", orderedMap), ("merge", merge), ("value", value)]

def ofName (name : String) : Tag :=
  ((names.find? fun (short, _) => base ++ short == name).map (·.2)).getD unknown

/-! ### Forms of plain scalars -/

def truthWords : List String :=
  ["yes", "Yes", "YES", "no", "No", "NO", "true", "True", "TRUE", "false", "False", "FALSE",
    "on", "On", "ON", "off", "Off", "OFF"]

def nullWords : List String := ["", "~", "null", "Null", "NULL"]

def afterSign (cs : List Char) : List Char := (Decimal.takeSign cs).2

def isGroupedDigit (c : Char) : Bool := c.isDigit || c == '_'

/-- What follows digits with underscores; they start with a digit. -/
def afterDigits? : List Char → Option (List Char)
  | c :: cs => if c.isDigit then some (cs.dropWhile isGroupedDigit) else none
  | [] => none

def isSixtieth : List Char → Bool
  | [c] => c.isDigit
  | [c, d] => '0' ≤ c && c ≤ '5' && d.isDigit
  | _ => false

/-- Whether a text is not empty and all of its characters satisfy `p`. -/
def isRun (p : Char → Bool) (cs : List Char) : Bool := !cs.isEmpty && cs.all p

/-- Whether a text has the form of an integer: binary, octal, decimal, hexadecimal, or parts of
sixty. -/
def isIntForm (cs : List Char) : Bool :=
  match afterSign cs with
  | ['0'] => true
  | '0' :: 'b' :: cs => isRun (fun c => c == '0' || c == '1' || c == '_') cs
  | '0' :: 'x' :: cs =>
    isRun (fun c => isGroupedDigit c || 'a' ≤ c && c ≤ 'f' || 'A' ≤ c && c ≤ 'F') cs
  | '0' :: cs => isRun (fun c => '0' ≤ c && c ≤ '7' || c == '_') cs
  | cs =>
    match Text.fields ':' cs with
    | [] => false
    | first :: more => afterDigits? first == some [] && more.all isSixtieth

def isExponent : List Char → Bool
  | [] => true
  | e :: s :: ds => (e == 'e' || e == 'E') && (s == '-' || s == '+') && isRun Char.isDigit ds
  | _ => false

/-- Whether a text is digits with underscores and an exponent, either of which may be missing. -/
def isFraction (cs : List Char) : Bool := isExponent (cs.dropWhile isGroupedDigit)

/-- Whether a text is a number of sixtieths with a point and digits after it. -/
def isPointedSixtieth (cs : List Char) : Bool :=
  isSixtieth (cs.takeWhile (· != '.')) &&
    match cs.dropWhile (· != '.') with
    | '.' :: ds => ds.all isGroupedDigit
    | _ => false

/-- Whether all texts but the last are numbers of sixtieths and the last is one with a point. -/
def areSixtieths : List (List Char) → Bool
  | [] => false
  | [cs] => isPointedSixtieth cs
  | cs :: more => isSixtieth cs && areSixtieths more

/-- Whether a text has the form of a float: with a point, and with a sign in the exponent. -/
def isFloatForm (cs : List Char) : Bool :=
  let digits := afterSign cs
  if digits ∈ [".inf".toList, ".Inf".toList, ".INF".toList] then true
  else if cs ∈ [".nan".toList, ".NaN".toList, ".NAN".toList] then true
  else
    match cs with
    | '.' :: c :: rest => c.isDigit && isFraction rest
    | _ =>
      match afterDigits? digits with
      | some ('.' :: rest) => isFraction rest
      | some (':' :: rest) => areSixtieths (Text.fields ':' rest)
      | _ => false

/-- The text without a final line end, if anything stands before it. -/
def withoutFinalBreak (cs : List Char) : List Char :=
  match cs.reverse with
  | '\n' :: c :: rest => (c :: rest).reverse
  | _ => cs

/-- The kind of characters whose form decides. -/
def ofChars (cs : List Char) : Tag :=
  let cs := withoutFinalBreak cs
  let word := String.ofList cs
  if word ∈ truthWords then bool
  else if isFloatForm cs then float
  else if isIntForm cs then int
  else if word = "<<" then merge
  else if word ∈ nullWords then null
  else if Timestamp.isPlainForm cs then timestamp
  else if word = "=" then value
  else text

/-- The kind of a scalar whose form decides; half of a surrogate pair occurs in no form but a
text's. -/
def ofForm (t : Text) : Tag :=
  match t.chars? with
  | some cs => ofChars cs
  | none => text

end Tag

end AlertRelay.Yaml
