import AlertRelay.Text.Utf8

/-!
# Charsets

A charset says what bytes stand for. It looks at the head of the bytes that are left: the first
bytes stand for points, or they are stray. What bytes stand for may depend on those before them, so
a charset has a state. `Charset.decode?` reads bytes to the end and keeps the stray ones; it fails
on a stray byte of ASCII, which cannot be kept, and where the bytes may not end. `CharTable` holds
the characters of a charset by number.
-/

namespace AlertRelay

/-- What a charset finds at the head of bytes; `more` counts the bytes concerned besides the
first. -/
inductive Reading (σ : Type) where
  /-- Points, and the state of the charset behind them. -/
  | points (ps : Text) (more : Nat) (state : σ)
  /-- Bytes that stand for nothing, and the state of the charset behind them. -/
  | stray (more : Nat) (state : σ)
  /-- Bytes that cannot be read at all. -/
  | refused

namespace Reading

variable {σ : Type}

def point (state : σ) (p : Point) (more : Nat) : Reading σ := .points [p] more state

/-- A point if there is one; else the first byte is stray. -/
def pointOr (state : σ) (more : Nat) : Option Point → Reading σ
  | some p => .points [p] more state
  | none => .stray 0 state

/-- A text if there is one; else the first byte is stray. -/
def textOr (state : σ) (more : Nat) : Option Text → Reading σ
  | some ps => .points ps more state
  | none => .stray 0 state

end Reading

/-- A charset: the state in which it begins, what it finds at the head of bytes given as the first
and the others, and the states in which bytes may end. -/
structure Charset (σ : Type) where
  start : σ
  read : σ → UInt8 → List UInt8 → Reading σ
  mayEnd : σ → Bool

namespace Charset

variable {σ : Type}

/-- A charset without a state: the head of bytes alone says what it stands for. -/
def plain (read : UInt8 → List UInt8 → Reading Unit) : Charset Unit :=
  ⟨(), fun _ => read, fun _ => true⟩

/-- The stray bytes that are kept at once: those before one of ASCII, and at most four. -/
def keptAtOnce (bs : List UInt8) : List UInt8 := (bs.take 4).takeWhile (0x80 ≤ ·.toNat)

/-- The text of bytes from a state on. -/
def decodeFrom? (c : Charset σ) (s : σ) : List UInt8 → Option Text
  | [] => if c.mayEnd s then some [] else none
  | b :: bs =>
    match c.read s b bs with
    | .refused => none
    | .points ps more s => (c.decodeFrom? s (bs.drop more)).map (ps ++ ·)
    | .stray more s =>
      match keptAtOnce (b :: bs.take more) with
      | [] => none
      | k :: kept =>
        (c.decodeFrom? s (bs.drop kept.length)).map ((k :: kept).map Text.keptByte ++ ·)
termination_by bs => bs.length
decreasing_by all_goals simp only [List.length_drop, List.length_cons]; omega

def decode? (c : Charset σ) (bs : List UInt8) : Option Text := c.decodeFrom? c.start bs

end Charset

/-- A way to read all bytes of a text. -/
abbrev Decoder := List UInt8 → Option Text

/-! ### Tables of characters -/

/-- Characters by number, in runs: each run has the number of its first character. -/
structure CharTable where
  runs : List (Nat × Array Char)

namespace CharTable

/-- The table of runs; a replacement character marks a number without a character. -/
def ofRuns (runs : List (Nat × String)) : CharTable :=
  ⟨runs.map fun (first, run) => (first, run.toList.toArray)⟩

/-- The character of a number. -/
def get? (t : CharTable) (n : Nat) : Option Point :=
  (t.runs.findSome? fun (first, run) => if first ≤ n then run[n - first]? else none).bind fun c =>
    if c = Text.replacement then none else some (.char c)

end CharTable

namespace Charset

def bytePoint (b : UInt8) : Point := .char (Char.ofNat b.toNat)

/-- The character at a place of a table, in which a replacement character marks an empty place. -/
def charAt? (table : List Char) (i : Nat) : Option Point :=
  (table[i]?.filter (· ≠ Text.replacement)).map .char

/-- The charset whose bytes of ASCII stand for themselves, and no others for anything. -/
def ascii : Charset Unit :=
  plain fun b _ =>
    if b.toNat < 0x80 then .point () (bytePoint b) 0 else .stray 0 ()

/-- A charset of one byte for each character: bytes below `first` stand for the characters of their
numbers, the others for those of a table in order; a replacement character stands where a byte has
none. -/
def ofTable (first : Nat) (table : String) : Charset Unit :=
  plain fun b _ =>
    if b.toNat < first then .point () (bytePoint b) 0
    else .pointOr () 0 (charAt? table.toList (b.toNat - first))

/-- The charset whose bytes stand for the characters of their numbers. -/
def latin : Charset Unit := plain fun b _ => .point () (bytePoint b) 0

end Charset

end AlertRelay
