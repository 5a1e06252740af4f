import AlertRelay.Text.Utf8
import AlertRelay.Yaml.Scalar

/-!
# Tokens of a document

The parts that a document is written with. Where a block of entries starts and ends is shown by
indentation alone, and a key by the colon after it; both become tokens of their own. So a token that
may turn out to be a key is kept in mind (`PossibleKey`) until a colon follows on the same line and
within 1024 characters, and the token of the key is put before it then.

The scanning may end in an error: no token can start at a place, or an escape names a character that
does not exist. It is the error of the document unless another comes before; what counts as before
are the tokens that are certain at the error, those in front of every possible key.
-/

namespace AlertRelay.Yaml

inductive Directive where
  | version (major : Nat)
  | tag (handle base : String)
  | reserved

inductive Token where
  | directive (d : Directive)
  | documentStart
  | documentEnd
  | blockListStart
  | blockMapStart
  | blockEnd
  | flowListStart
  | flowListEnd
  | flowMapStart
  | flowMapEnd
  | flowEntry
  | blockEntry
  | key
  | value
  | alias (name : String)
  | anchor (name : String)
  | tag (handle : Option String) (suffix : String)
  | scalar (s : Scalar)

namespace Token

/-! ### Names, tags and directives -/

def isWordChar (c : Char) : Bool := c.isAlphanum || c == '-' || c == '_'

def isAddressChar (c : Char) : Bool :=
  isWordChar c || c ∈ "-;/?:@&=+$,_.!~*'()[]%".toList

def nameAt (c : Cursor) : Except Error (String × Cursor) :=
  let (name, after) := c.advance.takeWhile isWordChar
  if name.isEmpty then .error .malformed
  else if endsWord after.head? || after.head?.any (· ∈ "?:,]\x7d%@\x60".toList) then
    .ok (String.ofList name, after)
  else .error .malformed

/-- The bytes of escapes at the head of a text and what follows them. -/
def escapedBytes? : List Char → Option (List UInt8 × List Char)
  | '%' :: a :: b :: rest => do
    let a ← Json.hexValue? a
    let b ← Json.hexValue? b
    let (more, rest) ← escapedBytes? rest
    some (UInt8.ofNat (16 * a + b) :: more, rest)
  | '%' :: _ => none
  | rest => some ([], rest)

/-- The text of the address of a tag; bytes of characters may be escaped. -/
def address? : (fuel : Nat) → List Char → Option (List Char)
  | 0, _ => none
  | _, [] => some []
  | fuel + 1, '%' :: cs => do
    let (bytes, rest) ← escapedBytes? ('%' :: cs)
    let text ← Text.ofUtf8? bytes
    let more ← address? fuel rest
    some (text ++ more)
  | fuel + 1, c :: cs => do
    let more ← address? fuel cs
    some (c :: more)

def addressAt (c : Cursor) : Except Error (String × Cursor) :=
  let (run, after) := c.takeWhile isAddressChar
  match address? (run.length + 1) run with
  | some text => if run.isEmpty then .error .malformed else .ok (String.ofList text, after)
  | none => .error .malformed

/-- The handle of a tag at a place and the place after it: one exclamation mark, or a name between
two. -/
def handleAt (c : Cursor) : Except Error (String × Cursor) :=
  if !c.isAt '!' then .error .malformed
  else if c.peek? 1 = some ' ' then .ok ("!", c.advance)
  else
    let (name, after) := c.advance.takeWhile isWordChar
    if after.isAt '!' then .ok (String.ofList ('!' :: name ++ ['!']), after.advance)
    else .error .malformed

def tagRun (c : Cursor) : List Char := c.advance.rest.takeWhile fun ch => !endsField (some ch)

def tagAt (c : Cursor) : Except Error (Token × Cursor) := do
  let next := c.peek? 1
  let (token, after) ←
    if next = some '<' then do
      let (suffix, after) ← addressAt (c.skip 2)
      if after.isAt '>' then .ok (Token.tag none suffix, after.advance) else .error Error.malformed
    else if endsWord next then .ok (Token.tag none "!", c.advance)
    else if '!' ∈ tagRun c then do
      let (handle, after) ← handleAt c
      let (suffix, after) ← addressAt after
      .ok (Token.tag (some handle) suffix, after)
    else do
      let (suffix, after) ← addressAt c.advance
      .ok (Token.tag (some "!") suffix, after)
  if endsField after.head? then .ok (token, after) else .error .malformed

def numberAt (c : Cursor) : Except Error (Nat × Cursor) :=
  let (ds, after) := c.takeWhile Char.isDigit
  if ds.isEmpty then .error .malformed else .ok (Decimal.ofDigits ds, after)

def skipBlanks (c : Cursor) : Cursor := c.skipWhile (· == ' ')

/-- The place itself if a blank or the end of the line is there. -/
def endField (c : Cursor) : Except Error Cursor :=
  if endsField c.head? then .ok c else .error .malformed

def versionAt (c : Cursor) : Except Error (Directive × Cursor) := do
  let (major, after) ← numberAt (skipBlanks c)
  if !after.isAt '.' then .error .malformed
  else
    let (_, after) ← numberAt after.advance
    .ok (.version major, ← endField after)

def tagDirectiveAt (c : Cursor) : Except Error (Directive × Cursor) := do
  let (handle, after) ← handleAt (skipBlanks c)
  if !after.isAt ' ' then .error .malformed
  else
    let (base, after) ← addressAt (skipBlanks after)
    .ok (.tag handle base, ← endField after)

def directiveAt (c : Cursor) : Except Error (Token × Cursor) := do
  let (name, after) := c.advance.takeWhile isWordChar
  if name.isEmpty then .error .malformed
  else
    let after ← endField after
    let (read, after) ← match String.ofList name with
      | "YAML" => versionAt after
      | "TAG" => tagDirectiveAt after
      | _ => .ok (Directive.reserved, after.skipWhile (!isBreak ·))
    .ok (.directive read, ← after.endLine)

end Token

/-! ### Scanning -/

/-- A place that a key may start at: the number of tokens before it, and whether it must be one. -/
structure PossibleKey where
  tokens : Nat
  isRequired : Bool
  start : Cursor

structure Scan where
  cursor : Cursor
  tokens : Array Token := #[]
  /-- How many flow collections are open. -/
  flowLevel : Nat := 0
  /-- The column of the innermost block, and those of the blocks around it. -/
  indent : Int := -1
  indents : List Int := []
  /-- Whether a key may start here. -/
  keyAllowed : Bool := true
  /-- The possible keys by the number of open flow collections. -/
  possibleKeys : List (Nat × PossibleKey) := []

namespace Scan

def column (s : Scan) : Int := s.cursor.column

def inFlow (s : Scan) : Bool := 0 < s.flowLevel

def push (s : Scan) (t : Token) : Scan := { s with tokens := s.tokens.push t }

/-- Puts a token in front of all but the first few. -/
def insertAt (s : Scan) (n : Nat) (t : Token) : Scan :=
  { s with tokens := s.tokens.extract 0 n ++ #[t] ++ s.tokens.extract n s.tokens.size }

def pushOne (s : Scan) (t : Token) : Scan := { s.push t with cursor := s.cursor.advance }

/-- Forgets the possible key among the current flow collections; a required one may not be
forgotten. -/
def dropKey (s : Scan) : Except Error Scan :=
  match s.possibleKeys.lookup s.flowLevel with
  | none => .ok s
  | some key =>
    if key.isRequired then .error .malformed
    else .ok { s with possibleKeys := s.possibleKeys.filter (·.1 != s.flowLevel) }

/-- Keeps in mind that a key may start here. -/
def markKey (s : Scan) : Except Error Scan :=
  if s.keyAllowed then do
    let isRequired := !s.inFlow && s.indent == s.column
    let s ← s.dropKey
    let key : PossibleKey := ⟨s.tokens.size, isRequired, s.cursor⟩
    .ok { s with possibleKeys := (s.flowLevel, key) :: s.possibleKeys }
  else .ok s

/-- Whether a possible key can no longer be one. -/
def isStale (s : Scan) (key : PossibleKey) : Bool :=
  key.start.line != s.cursor.line || 1024 < s.cursor.index - key.start.index

def dropStaleKeys (s : Scan) : Except Error Scan :=
  if s.possibleKeys.any fun (_, key) => s.isStale key && key.isRequired then .error .malformed
  else .ok { s with possibleKeys := s.possibleKeys.filter fun (_, key) => !s.isStale key }

/-- Closes the blocks of a list of columns that lie further right than a column. -/
def closeBlocks (column : Int) (s : Scan) : List Int → Scan
  | [] => s
  | outer :: more =>
    if column < s.indent then
      closeBlocks column { s.push .blockEnd with indent := outer, indents := more } more
    else s

/-- Closes the blocks that lie further right than a column. -/
def unwind (s : Scan) (column : Int) : Scan :=
  if s.inFlow then s else closeBlocks column s s.indents

/-- Opens a block at a column if it lies further right than the innermost one; its token goes in
front of all but the first few. -/
def openBlock (s : Scan) (column : Int) (t : Token) (n : Nat) : Scan :=
  if s.indent < column then
    { s.insertAt n t with indent := column, indents := s.indent :: s.indents }
  else s

def nextPlace (s : Scan) : (fuel : Nat) → Scan
  | 0 => s
  | fuel + 1 =>
    let c := (s.cursor.skipWhile (· == ' ')).skipComment
    match c.head? with
    | some ch =>
      if isBreak ch then
        nextPlace { s with cursor := c.advance, keyAllowed := s.keyAllowed || !s.inFlow } fuel
      else { s with cursor := c }
    | none => { s with cursor := c }

/-- Ends all blocks before a token at the margin. -/
def toMargin (s : Scan) : Except Error Scan := do
  let s ← (s.unwind (-1)).dropKey
  .ok { s with keyAllowed := false }

def directive (s : Scan) : Except Error Scan := do
  let s ← s.toMargin
  let (token, after) ← Token.directiveAt s.cursor
  .ok { s.push token with cursor := after }

def marker (s : Scan) (t : Token) : Except Error Scan := do
  let s ← s.toMargin
  .ok { s.push t with cursor := s.cursor.skip 3 }

def flowStart (s : Scan) (t : Token) : Except Error Scan := do
  let s ← s.markKey
  .ok { s.pushOne t with flowLevel := s.flowLevel + 1, keyAllowed := true }

def flowEnd (s : Scan) (t : Token) : Except Error Scan := do
  let s ← s.dropKey
  match s.flowLevel with
  | 0 => .error .malformed
  | level + 1 => .ok { s.pushOne t with flowLevel := level, keyAllowed := false }

def flowEntry (s : Scan) : Except Error Scan := do
  let s ← s.dropKey
  .ok { s.pushOne .flowEntry with keyAllowed := true }

def blockEntry (s : Scan) : Except Error Scan := do
  if !s.inFlow && !s.keyAllowed then .error .malformed
  else
    let s := if s.inFlow then s else s.openBlock s.column .blockListStart s.tokens.size
    let s ← s.dropKey
    .ok { s.pushOne .blockEntry with keyAllowed := true }

def explicitKey (s : Scan) : Except Error Scan := do
  if !s.inFlow && !s.keyAllowed then .error .malformed
  else
    let s := if s.inFlow then s else s.openBlock s.column .blockMapStart s.tokens.size
    let s ← s.dropKey
    .ok { s.pushOne .key with keyAllowed := !s.inFlow }

def value (s : Scan) : Except Error Scan := do
  match s.possibleKeys.lookup s.flowLevel with
  | some key =>
    let s := { s with possibleKeys := s.possibleKeys.filter (·.1 != s.flowLevel) }
    let s := s.insertAt key.tokens .key
    let s := if s.inFlow then s else s.openBlock key.start.column .blockMapStart key.tokens
    .ok { s.pushOne .value with keyAllowed := false }
  | none =>
    if !s.inFlow && !s.keyAllowed then .error .malformed
    else
      let s := if s.inFlow then s else s.openBlock s.column .blockMapStart s.tokens.size
      .ok { s.pushOne .value with keyAllowed := !s.inFlow }

def keyLike (s : Scan) (read : Cursor → Except Error (Token × Cursor)) : Except Error Scan := do
  let s ← s.markKey
  let (token, after) ← read s.cursor
  .ok { s.push token with cursor := after, keyAllowed := false }

def quoted (s : Scan) (isDouble : Bool) : Except Error Scan :=
  s.keyLike fun c => do
    let (scalar, after) ← Scalar.quotedAt isDouble c
    .ok (.scalar scalar, after)

def block (s : Scan) (isFolded : Bool) : Except Error Scan := do
  let s ← s.dropKey
  let (scalar, after) ← Scalar.blockAt isFolded s.indent s.cursor
  .ok { s.push (.scalar scalar) with cursor := after, keyAllowed := true }

/-- A plain scalar; after it a key may start if the end of a line was crossed. -/
def plain (s : Scan) : Except Error Scan := do
  let s ← s.markKey
  let (scalar, gap) := Scalar.plainAt s.inFlow (s.indent + 1) s.cursor
  .ok { s.push (.scalar scalar) with cursor := gap.after, keyAllowed := gap.crossesLine }

/-- Whether a plain scalar can start with a character before another. -/
def startsPlain (inFlow : Bool) (ch : Char) (next : Option Char) : Bool :=
  !endsWord (some ch) && ch ∉ "-?:,[]\x7b\x7d#&*!|>'\"%@\x60".toList ||
    !endsWord next && (ch == '-' || !inFlow && (ch == '?' || ch == ':'))

def tokenAt (s : Scan) (ch : Char) : Except Error Scan :=
  let next := s.cursor.peek? 1
  let atMargin := s.cursor.column == 0
  if ch == '%' && atMargin then s.directive
  else if ch == '-' && atMargin && s.cursor.atMarker then s.marker .documentStart
  else if ch == '.' && atMargin && s.cursor.atMarker then s.marker .documentEnd
  else if ch == '[' then s.flowStart .flowListStart
  else if ch == '\x7b' then s.flowStart .flowMapStart
  else if ch == ']' then s.flowEnd .flowListEnd
  else if ch == '\x7d' then s.flowEnd .flowMapEnd
  else if ch == ',' then s.flowEntry
  else if ch == '-' && endsWord next then s.blockEntry
  else if ch == '?' && (s.inFlow || endsWord next) then s.explicitKey
  else if ch == ':' && (s.inFlow || endsWord next) then s.value
  else if ch == '*' then
    s.keyLike fun c => do
      let (name, after) ← Token.nameAt c
      .ok (.alias name, after)
  else if ch == '&' then
    s.keyLike fun c => do
      let (name, after) ← Token.nameAt c
      .ok (.anchor name, after)
  else if ch == '!' then s.keyLike Token.tagAt
  else if ch == '|' && !s.inFlow then s.block false
  else if ch == '>' && !s.inFlow then s.block true
  else if ch == '\'' then s.quoted false
  else if ch == '"' then s.quoted true
  else if startsPlain s.inFlow ch next then s.plain
  else .error .malformed

/-- The tokens in front of every possible key: nothing that follows can change them. -/
def certain (s : Scan) : List Token :=
  s.tokens.toList.take (s.possibleKeys.foldl (fun n (_, key) => min n key.tokens) s.tokens.size)

end Scan

/-- The tokens of a document, up to the error that it holds if it holds one. -/
structure Tokens where
  list : List Token
  error : Option Error := none

/-- The tokens of a document in which the scanning meets an error. -/
def Scan.endingIn (s : Scan) (e : Error) : Tokens := ⟨s.certain, some e⟩

/-- The tokens of a document in which no token can start at the place that is reached. A character
without meaning in an escape is met when a key may have started already. -/
def Scan.refused (s : Scan) (e : Error) : Tokens :=
  match e with
  | .malformed => s.endingIn e
  | .invalid _ =>
    match s.markKey with
    | .ok s => s.endingIn e
    | .error e => s.endingIn e

/-- Scans to the end. Every token but the ends of blocks takes a character. -/
def Scan.toEnd (s : Scan) : (fuel : Nat) → Tokens
  | 0 => s.endingIn .malformed
  | fuel + 1 =>
    let s := s.nextPlace (s.cursor.rest.length + 1)
    match s.dropStaleKeys with
    | .error e => s.endingIn e
    | .ok s =>
      let s := s.unwind s.column
      match s.cursor.head? with
      | none =>
        match (s.unwind (-1)).dropKey with
        | .ok s => ⟨s.tokens.toList, none⟩
        | .error e => s.endingIn e
      | some ch =>
        match s.tokenAt ch with
        | .ok s => s.toEnd fuel
        | .error e => s.refused e

def Token.scan (cs : List Char) : Tokens :=
  let start : Cursor := ⟨cs, 0, 0, 0⟩
  let start := if start.isAt byteOrderMark then start.advance else start
  ({ cursor := start } : Scan).toEnd (cs.length + 1)

end AlertRelay.Yaml
