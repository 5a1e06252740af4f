import AlertRelay.Yaml.Cursor
import AlertRelay.Json.Reader

/-!
# Scalars of a document

A scalar is a text in one of three styles. A plain one ends where it could be mistaken for something
else, a quoted one at its closing quote, a block at the first line that is indented less. Within a
plain or a quoted one a single line end counts as a blank, and each further one as a line end.
-/

namespace AlertRelay.Yaml

structure Scalar where
  text : Text
  /-- Whether it stands without quotes and is no block, so that its form decides what it means. -/
  isPlain : Bool := false

/-- The text that a line end and the further line ends after it stand for. -/
def folded (first : Char) (more : List Char) : List Char :=
  if first ≠ '\n' then first :: more
  else if more.isEmpty then [' ']
  else more

namespace Scalar

/-! ### Plain scalars -/

def endsKey (inFlow : Bool) (next : Option Char) : Bool :=
  endsWord next || inFlow && next.any (· ∈ [',', '[', ']', '\x7b', '\x7d'])

/-- The characters of a plain scalar up to the next blank or its end. -/
def plainRun (inFlow : Bool) : List Char → List Char
  | [] => []
  | c :: cs =>
    if endsWord (some c) || c == ':' && endsKey inFlow cs.head? ||
        inFlow && c ∈ [',', '?', '[', ']', '\x7b', '\x7d'] then []
    else c :: plainRun inFlow cs

/-- The line ends among the blanks from a place on and the place after them; no line ends if the
mark of a document comes first. -/
def breaksInGap (c : Cursor) : Option (List Char) × Cursor :=
  match _h : c.rest with
  | [] => (some [], c)
  | ch :: _ =>
    if ch = ' ' then breaksInGap c.advance
    else if isBreak ch then
      if c.advance.atMarker then (none, c.advance)
      else
        let (more, after) := breaksInGap c.advance
        (more.map (breakText ch :: ·), after)
    else (some [], c)
termination_by c.rest.length
decreasing_by all_goals exact Cursor.length_advance_lt ‹_›

/-- A gap within a plain scalar: the text that it stands for, the place after it, and whether it
goes over the end of a line. -/
structure Gap where
  text : List Char
  after : Cursor
  crossesLine : Bool

/-- The gap from a place on. -/
def gapAt (c : Cursor) : Gap :=
  let (blanks, c) := c.takeWhile (· == ' ')
  match c.head? with
  | none => ⟨blanks, c, false⟩
  | some ch =>
    if !isBreak ch then ⟨blanks, c, false⟩
    else if c.advance.atMarker then ⟨[], c.advance, true⟩
    else
      let (more, after) := breaksInGap c.advance
      ⟨(more.map (folded (breakText ch))).getD [], after, true⟩

/-- A plain scalar from a place on: its text after `acc` and the gap before, and the gap that ends
it. -/
def plainFrom (inFlow : Bool) (indent : Int) :
    (fuel : Nat) → (acc : List Char) → (before : Gap) → List Char × Gap
  | 0, acc, before => (acc, before)
  | fuel + 1, acc, before =>
    let c := before.after
    let run := plainRun inFlow c.rest
    if c.isAt '#' || run.isEmpty then (acc, before)
    else
      let acc := acc ++ before.text ++ run
      let gap := gapAt (c.skip run.length)
      if gap.text.isEmpty || gap.after.isAt '#' || !inFlow && (gap.after.column : Int) < indent then
        (acc, gap)
      else plainFrom inFlow indent fuel acc gap

def plainAt (inFlow : Bool) (indent : Int) (c : Cursor) : Scalar × Gap :=
  let (text, gap) := plainFrom inFlow indent (c.rest.length + 1) [] ⟨[], c, false⟩
  (⟨Text.ofChars text, true⟩, gap)

/-! ### Quoted scalars -/

/-- The line ends among the blanks from a place on and the place after them; the mark of a document
may not stand there. -/
def breaksInQuotes (c : Cursor) : Except Error (List Char × Cursor) :=
  if c.atMarker then .error .malformed
  else
    match _h : (c.skipWhile isGap).rest with
    | [] => .ok ([], c.skipWhile isGap)
    | ch :: _ =>
      if isBreak ch then do
        let (more, after) ← breaksInQuotes (c.skipWhile isGap).advance
        .ok (breakText ch :: more, after)
      else .ok ([], c.skipWhile isGap)
termination_by c.rest.length
decreasing_by
  exact Nat.lt_of_lt_of_le (Cursor.length_advance_lt ‹_›) (Cursor.length_skip_le ..)

def letterEscape? : Char → Option Char
  | '0' => some '\x00'
  | 'a' => some '\x07'
  | 'b' => some '\x08'
  | 't' => some '\t'
  | '\t' => some '\t'
  | 'n' => some '\n'
  | 'v' => some '\x0b'
  | 'f' => some '\x0c'
  | 'r' => some '\r'
  | 'e' => some '\x1b'
  | ' ' => some ' '
  | '"' => some '"'
  | '\\' => some '\\'
  | '/' => some '/'
  | 'N' => some '\x85'
  | '_' => some '\xa0'
  | 'L' => some '\u2028'
  | 'P' => some '\u2029'
  | _ => none

def escapeDigits? : Char → Option Nat
  | 'x' => some 2
  | 'u' => some 4
  | 'U' => some 8
  | _ => none

def hexNumber? (cs : List Char) : Option Nat :=
  cs.foldlM (fun n c => (Json.hexValue? c).map (16 * n + ·)) 0

def codePointFault (n : Nat) : Fault :=
  if n < 0x80000000 then ⟨"ValueError", "chr() arg not in range(0x110000)"⟩
  else ⟨"OverflowError", "Python int too large to convert to C int"⟩

/-- What is read of a quoted scalar: its parts, the last of which comes first, and the place
reached. -/
structure Quoted where
  parts : List Text
  after : Cursor

def Quoted.text (q : Quoted) : Text := q.parts.reverse.flatten

def Quoted.add (q : Quoted) (t : Text) (after : Cursor) : Quoted := ⟨t :: q.parts, after⟩

/-- Reads the escape after a backslash. -/
def Quoted.escape (q : Quoted) : Except Error Quoted :=
  let c := q.after
  match c.head? with
  | none => .error .malformed
  | some ch =>
    match letterEscape? ch with
    | some d => .ok (q.add [d] c.advance)
    | none =>
      match escapeDigits? ch with
      | some count =>
        let digits := c.advance.rest.take count
        if digits.length < count then .error .malformed
        else
          match hexNumber? digits with
          | none => .error .malformed
          | some n =>
            let after := c.skip (count + 1)
            if 0x110000 ≤ n then .error (.invalid (codePointFault n))
            else .ok (q.add [.ofNat n] after)
      | none =>
        if isBreak ch then do
          let (breaks, after) ← breaksInQuotes c.advance
          .ok (q.add (Text.ofChars breaks) after)
        else .error .malformed

/-- Reads the blanks of a quoted scalar, which may hold line ends. -/
def Quoted.gap (q : Quoted) : Except Error Quoted :=
  let (blanks, c) := q.after.takeWhile isGap
  match c.head? with
  | none => .error .malformed
  | some ch =>
    if isBreak ch then do
      let (more, after) ← breaksInQuotes c.advance
      .ok (q.add (Text.ofChars (folded (breakText ch) more)) after)
    else .ok (q.add (Text.ofChars blanks) c)

/-- Reads on to the closing quote. -/
def quotedFrom (isDouble : Bool) : (fuel : Nat) → Quoted → Except Error Quoted
  | 0, _ => .error .malformed
  | fuel + 1, q =>
    let c := q.after
    match c.head? with
    | none => .error .malformed
    | some ch =>
      if endsWord (some ch) then do quotedFrom isDouble fuel (← q.gap)
      else if isDouble then
        if ch = '"' then .ok (q.add [] c.advance)
        else if ch = '\\' then do
          quotedFrom isDouble fuel (← (q.add [] c.advance).escape)
        else quotedFrom isDouble fuel (q.add [ch] c.advance)
      else if ch = '\'' then
        if c.peek? 1 = some '\'' then quotedFrom isDouble fuel (q.add [ch] (c.skip 2))
        else .ok (q.add [] c.advance)
      else quotedFrom isDouble fuel (q.add [ch] c.advance)

def quotedAt (isDouble : Bool) (c : Cursor) : Except Error (Scalar × Cursor) := do
  let q ← quotedFrom isDouble (c.rest.length + 1) ⟨[], c.advance⟩
  .ok (⟨q.text, false⟩, q.after)

/-! ### Blocks -/

inductive Chomping where
  /-- All are dropped. -/
  | strip
  /-- One is kept. -/
  | clip
  /-- All are kept. -/
  | keep
  deriving DecidableEq

def chomping? : Option Char → Option Chomping
  | some '+' => some .keep
  | some '-' => some .strip
  | _ => none

/-- A digit other than zero at a place, and the place after it; none if there is no digit. -/
def indentDigit? (c : Cursor) : Except Error (Option Nat × Cursor) :=
  match c.head? with
  | some ch =>
    if ch = '0' then .error .malformed
    else if ch.isDigit then .ok (some (ch.toNat - 48), c.advance)
    else .ok (none, c)
  | none => .ok (none, c)

/-- The head of a block after its indicator: the way of chomping, the indentation if it is given,
and the place of the first line. -/
def blockHead (c : Cursor) : Except Error (Chomping × Option Nat × Cursor) := do
  let (chomping, indent, c) ← match chomping? c.head? with
    | some chomping => do
      let (indent, c) ← indentDigit? c.advance
      .ok (chomping, indent, c)
    | none => do
      let (indent, c) ← indentDigit? c
      match indent, chomping? c.head? with
      | some _, some chomping => .ok (chomping, indent, c.advance)
      | _, _ => .ok (Chomping.clip, indent, c)
  if endsField c.head? then .ok (chomping, indent, ← c.endLine) else .error .malformed

/-- The place after the blanks before a column. -/
def skipIndent (indent : Nat) (c : Cursor) : Cursor :=
  c.skip (min (indent - c.column) (c.takeWhile (· == ' ')).1.length)

theorem length_skipIndent_le (indent : Nat) (c : Cursor) :
    (skipIndent indent c).rest.length ≤ c.rest.length := Cursor.length_skip_le ..

/-- The ends of the empty lines from a place on, and the place of the next line's text. -/
def emptyLines (indent : Nat) (c : Cursor) : List Char × Cursor :=
  match _h : (skipIndent indent c).rest with
  | [] => ([], skipIndent indent c)
  | ch :: _ =>
    if isBreak ch then
      let (more, after) := emptyLines indent (skipIndent indent c).advance
      (breakText ch :: more, after)
    else ([], skipIndent indent c)
termination_by c.rest.length
decreasing_by
  exact Nat.lt_of_lt_of_le (Cursor.length_advance_lt ‹_›) (length_skipIndent_le ..)

/-- The ends of the blank lines at the head of a block, the greatest column among the blanks, and
the place after them. -/
def leadingLines (deepest : Nat) (c : Cursor) : List Char × Nat × Cursor :=
  match _h : c.rest with
  | [] => ([], deepest, c)
  | ch :: _ =>
    if ch = ' ' then leadingLines (max deepest c.advance.column) c.advance
    else if isBreak ch then
      let (more, deepest, after) := leadingLines deepest c.advance
      (breakText ch :: more, deepest, after)
    else ([], deepest, c)
termination_by c.rest.length
decreasing_by all_goals exact Cursor.length_advance_lt ‹_›

/-- What is read of a block: its text without the end of its last line, that end, the ends of the
empty lines after it, and the place reached. -/
structure Block where
  text : List Char
  lineEnd : List Char
  emptyEnds : List Char
  after : Cursor

def atBlockLine (indent : Nat) (c : Cursor) : Bool := c.column == indent && c.head?.isSome

/-- Whether the character at a place is no blank. -/
def atText (c : Cursor) : Bool := !c.head?.any isGap

/-- What stands between a line and the next: in a folded block the end of a line between two lines
of text counts as a blank, and as nothing before an empty line. -/
def betweenLines (isFolded startsWithText : Bool) (lineEnd emptyEnds : List Char) (next : Cursor) :
    List Char :=
  if isFolded && lineEnd == ['\n'] && startsWithText && atText next then
    if emptyEnds.isEmpty then [' '] else []
  else lineEnd

/-- The lines of a block from a place on. -/
def blockLines (isFolded : Bool) (indent : Nat) : (fuel : Nat) → Block → Block
  | 0, b => b
  | fuel + 1, b =>
    if atBlockLine indent b.after then
      let (line, c) := b.after.takeWhile (!isBreak ·)
      let lineEnd := c.head?.toList.map breakText
      let (emptyEnds, next) := emptyLines indent c.advance
      let text := b.text ++ b.emptyEnds ++ line
      if atBlockLine indent next then
        let between := betweenLines isFolded (atText b.after) lineEnd emptyEnds next
        blockLines isFolded indent fuel ⟨text ++ between, [], emptyEnds, next⟩
      else ⟨text, lineEnd, emptyEnds, next⟩
    else b

def Block.chomped (b : Block) : Chomping → List Char
  | .strip => b.text
  | .clip => b.text ++ b.lineEnd
  | .keep => b.text ++ b.lineEnd ++ b.emptyEnds

/-- The block at a place inside a collection of the given indentation, and the place after it. -/
def blockAt (isFolded : Bool) (outer : Int) (c : Cursor) : Except Error (Scalar × Cursor) := do
  let (chomping, given, c) ← blockHead c.advance
  let least := max 1 (outer + 1).toNat
  let (emptyEnds, indent, c) := match given with
    | some n =>
      let indent := least + n - 1
      let (emptyEnds, c) := emptyLines indent c
      (emptyEnds, indent, c)
    | none =>
      let (emptyEnds, deepest, c) := leadingLines 0 c
      (emptyEnds, max least deepest, c)
  let b := blockLines isFolded indent (c.rest.length + 1) ⟨[], [], emptyEnds, c⟩
  .ok (⟨Text.ofChars (b.chomped chomping), false⟩, b.after)

end Scalar

end AlertRelay.Yaml
