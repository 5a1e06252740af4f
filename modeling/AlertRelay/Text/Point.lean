/-!
# Texts

A text is a sequence of points. A point is a character or half of a surrogate pair that stands
alone: escapes in a document may name such a half, and it then passes through the program like any
character. Two halves beside each other stay two points. Every string is a text, and a text is a
string as long as it holds no half.
-/

namespace AlertRelay

/-- One point of a text: a character, or half of a surrogate pair that stands alone, counted from
the first half. -/
inductive Point where
  | char (c : Char)
  | half (n : Fin 2048)
  deriving DecidableEq

namespace Point

instance : Coe Char Point := ⟨char⟩

instance : Inhabited Point := ⟨char ' '⟩

/-- The number of a point; the halves lie between 0xD800 and 0xDFFF. -/
def toNat : Point → Nat
  | char c => c.toNat
  | half n => 0xD800 + n.val

def ofNat (n : Nat) : Point :=
  if h : 0xD800 ≤ n ∧ n < 0xE000 then half ⟨n - 0xD800, by omega⟩ else char (Char.ofNat n)

/-- Whether a point is a character of a class; a half is in none. -/
def is (p : Char → Bool) : Point → Bool
  | char c => p c
  | half _ => false

def char? : Point → Option Char
  | char c => some c
  | half _ => none

def isHalf : Point → Bool
  | char _ => false
  | half _ => true

end Point

abbrev Text := List Point

namespace Text

def ofChars (cs : List Char) : Text := cs.map .char

def ofString (s : String) : Text := ofChars s.toList

instance : Coe String Text := ⟨ofString⟩

instance : Coe (List Char) Text := ⟨ofChars⟩

def chars? (t : Text) : Option (List Char) := t.mapM Point.char?

def string? (t : Text) : Option String := t.chars?.map String.ofList

def holdsHalf (t : Text) : Bool := t.any Point.isHalf

@[simp] theorem chars?_ofChars (cs : List Char) : chars? (ofChars cs) = some cs := by
  induction cs with
  | nil => rfl
  | cons c cs ih => simp_all [chars?, ofChars, Point.char?]

/-- A string comes back from its text. -/
@[simp] theorem string?_ofString (s : String) : string? (ofString s) = some s := by
  simp [string?, ofString]

/-- Two strings are one text only if they are one string. -/
@[simp] theorem ofString_inj {s t : String} : ofString s = ofString t ↔ s = t :=
  ⟨fun h => Option.some.inj (by rw [← string?_ofString s, h, string?_ofString]), fun h => h ▸ rfl⟩

@[simp] theorem ofString_empty : ofString "" = [] := rfl

@[simp] theorem ofString_eq_nil_iff {s : String} : ofString s = [] ↔ s = "" := by
  rw [← ofString_empty, ofString_inj]

end Text

end AlertRelay
