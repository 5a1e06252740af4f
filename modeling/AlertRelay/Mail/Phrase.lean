import AlertRelay.Text.Blank
import AlertRelay.Mail.EncodedWord

/-!
# Phrases of an address header

The parts from which the addresses of a header are put together: blanks and comments, quoted
strings, atoms, and the phrases and dotted names made of them. A reader takes one part off the head
of a text; it may refuse, and then another reading of the same text is tried. Each loop runs on a
bound on the number of its rounds, of which every round uses up at least one character.
-/

namespace AlertRelay.Mail

inductive Piece where
  /-- Characters that stand for themselves. -/
  | chars (cs : Text)
  /-- A dot between names. -/
  | dot
  /-- Text that counts as one blank. -/
  | gap (cs : Text)
  /-- Blanks between two encoded words, which vanish. -/
  | vanished
  /-- A comment in parentheses. -/
  | comment (parts : List Piece)
  /-- A run of blanks and comments. -/
  | skip (parts : List Piece)
  /-- A text in double quotes. -/
  | quoted (parts : List Piece)
  /-- An encoded word. -/
  | encoded (parts : List Piece)
  /-- Parts that stand together. -/
  | run (parts : List Piece)

/-- The first sign that a header is not what its writer meant. -/
inductive AddressFault where
  /-- The text ends where an address or domain should begin. -/
  | endsEarly
  /-- A name without any parts. -/
  | emptyName
  /-- A domain in brackets that is never closed. -/
  | openLiteral
  /-- A domain in brackets that ends after blanks. -/
  | blankLiteral
  /-- A group with further text after it. -/
  | textAfterGroup
  /-- A name with a dot at one of its ends. -/
  | dotAtEdge
  /-- A name with blanks and a dot at its beginning. -/
  | dotAfterGap
  /-- A name or address that holds a line break. -/
  | lineBreak
  /-- A header value of several lines. -/
  | severalLines
  /-- Too many comments within one another; whether there are more than can be read at all. -/
  | tooDeep (isUnreadable : Bool)
  deriving DecidableEq

/-- How a reader fails: it refuses the text, so that another reading may be tried, or it gives
up. -/
inductive Refusal where
  | notThis
  | broken (fault : AddressFault)

/-- A reader that takes a part off the head of a text. -/
abbrev Reader (α : Type) := Text → Except Refusal (α × Text)

/-! ### Classes of characters -/

/-- The characters with a meaning of their own in an address. -/
def specials : Text :=
  ['(', ')', '<', '>', '@', ',', ':', ';', '.', '\\', '"', '[', ']']

def isGapChar (c : Point) : Bool := c == ' ' || c == '\t'

/-- The characters that open a run of blanks and comments. -/
def opensSkip (c : Point) : Bool := isGapChar c || c == '('

def endsAtom (c : Point) : Bool := specials.contains c || isGapChar c

def endsPhrase (c : Point) : Bool := specials.contains c && c != '.' && c != '"' && c != '('

/-- Whether a text begins with a character of a class. -/
def startsWith (p : Point → Bool) : Text → Bool
  | [] => false
  | c :: _ => p c

/-- A point inside double quotes: a backslash stands before each backslash and quote. -/
def quotedPoint (c : Point) : Text := if c = '\\' ∨ c = '"' then [.char '\\', c] else [c]

def doubleQuoted (cs : Text) : Text :=
  .char '"' :: (cs.flatMap quotedPoint ++ [.char '"'])

/-! ### The text of a piece -/

def commentPoint (c : Point) : Text :=
  if c = '\\' ∨ c = '(' ∨ c = ')' then [.char '\\', c] else [c]

namespace Piece

mutual

def source : Piece → Text
  | chars cs => cs
  | dot => [.char '.']
  | gap cs => cs
  | vanished => []
  | comment ps => .char '(' :: commentSources ps ++ [.char ')']
  | skip ps => sources ps
  | quoted ps => doubleQuoted (sources ps)
  | encoded ps => sources ps
  | run ps => sources ps

def sources : List Piece → Text
  | [] => []
  | p :: ps => p.source ++ sources ps

def commentSources : List Piece → Text
  | [] => []
  | comment qs :: ps => .char '(' :: commentSources qs ++ [.char ')'] ++ commentSources ps
  | p :: ps => p.source.flatMap commentPoint ++ commentSources ps

end

mutual

def value : Piece → Text
  | chars cs => cs
  | dot => [.char '.']
  | gap _ => [.char ' ']
  | vanished => []
  | comment _ => [.char ' ']
  | skip _ => [.char ' ']
  | quoted ps => sources ps
  | encoded ps => values ps
  | run ps => values ps

def values : List Piece → Text
  | [] => []
  | p :: ps => p.value ++ values ps

end

def isSkip : Piece → Bool
  | skip _ => true
  | _ => false

def parts? : Piece → Option (List Piece)
  | chars _ => none
  | dot => none
  | gap _ => none
  | vanished => none
  | comment ps => some ps
  | skip ps => some ps
  | quoted ps => some ps
  | encoded ps => some ps
  | run ps => some ps

end Piece

/-! ### Blanks and comments -/

/-- The characters up to one of `ends` or a blank; a backslash takes the next character as it is. -/
def plainChars (ends : Point → Bool) : (escaped : Bool) → Text → Text × Text
  | _, [] => ([], [])
  | escaped, c :: cs =>
    if isGapChar c then ([], c :: cs)
    else if escaped then
      let (taken, rest) := plainChars ends false cs
      (c :: taken, rest)
    else if c = '\\' then plainChars ends true cs
    else if ends c then ([], c :: cs)
    else
      let (taken, rest) := plainChars ends false cs
      (c :: taken, rest)

def takeGap (cs : Text) : Piece × Text :=
  (.gap (cs.takeWhile (·.is Text.isBlank)), cs.dropWhile (·.is Text.isBlank))

/-- The parts of a comment after its opening parenthesis, and what follows the closing one. -/
def commentParts : (bound : Nat) → Text → List Piece × Text
  | 0, cs => ([], cs)
  | _, [] => ([], [])
  | bound + 1, c :: cs =>
    if c = ')' then ([], cs)
    else
      let (part, rest) :=
        if isGapChar c then takeGap (c :: cs)
        else if c = '(' then
          let (inner, rest) := commentParts bound cs
          (.comment inner, rest)
        else
          let (taken, rest) := plainChars (fun c => c == '(' || c == ')') false (c :: cs)
          (.gap taken, rest)
      let (more, rest) := commentParts bound rest
      (part :: more, rest)

/-- The blanks and comments at the head of a text. -/
def skipParts : (bound : Nat) → Text → List Piece × Text
  | 0, cs => ([], cs)
  | _, [] => ([], [])
  | bound + 1, c :: cs =>
    if opensSkip c then
      let (part, rest) :=
        if isGapChar c then takeGap (c :: cs)
        else
          let (inner, rest) := commentParts (cs.length + 1) cs
          (.comment inner, rest)
      let (more, rest) := skipParts bound rest
      (part :: more, rest)
    else ([], c :: cs)

def takeSkip (cs : Text) : List Piece × Text :=
  if startsWith opensSkip cs then
    let (parts, rest) := skipParts (cs.length + 1) cs
    ([.skip parts], rest)
  else ([], cs)

/-! ### Words -/

/-- Text as blanks and characters between them. -/
def gapsAndChars : (bound : Nat) → Text → List Piece
  | 0, _ => []
  | _, [] => []
  | bound + 1, c :: cs =>
    if isGapChar c then
      let (part, rest) := takeGap (c :: cs)
      part :: gapsAndChars bound rest
    else
      .chars ((c :: cs).takeWhile (!isGapChar ·)) ::
        gapsAndChars bound ((c :: cs).dropWhile (!isGapChar ·))

/-- An encoded word, if one opens a text. -/
def takeEncodedPiece? (cs : Text) : Option (Piece × Text) :=
  if opensWord cs then
    match takeEncodedWord cs with
    | .ok (text, rest) => some (.encoded (gapsAndChars (text.length + 1) text), rest)
    | .error _ => none
  else none

/-- Adds an encoded word to the parts of a quoted string before it, given in reverse. -/
def addEncodedPiece (p : Piece) (before : List Piece) : List Piece :=
  match before with
  | .gap _ :: .encoded qs :: rest => p :: .vanished :: .encoded qs :: rest
  | before => p :: before

/-- The parts of a quoted string after its opening quote, in reverse, and what follows the closing
one; `before` holds the earlier parts. -/
def quotedParts : (bound : Nat) → List Piece → Text → List Piece × Text
  | 0, before, cs => (before, cs)
  | _, before, [] => (before, [])
  | bound + 1, before, c :: cs =>
    if c = '"' then (before, cs)
    else if isGapChar c then
      let (part, rest) := takeGap (c :: cs)
      quotedParts bound (part :: before) rest
    else
      match takeEncodedPiece? (c :: cs) with
      | some (part, rest) => quotedParts bound (addEncodedPiece part before) rest
      | none =>
        let (taken, rest) := plainChars (· == '"') false (c :: cs)
        quotedParts bound (.chars taken :: before) rest

/-- A quoted string with the blanks and comments around it; the text begins with the quote. -/
def takeQuoted (cs : Text) : List Piece × Text :=
  let inner := cs.drop 1
  let start := if startsWith (· == '"') inner then [.chars []] else []
  let (parts, rest) := quotedParts (inner.length + 1) start inner
  let (after, rest) := takeSkip rest
  (.quoted parts.reverse :: after, rest)

/-- The characters of an atom. -/
def takeAtomChars : Reader Piece := fun cs =>
  match cs.takeWhile (!endsAtom ·) with
  | [] => .error .notThis
  | taken => .ok (.chars taken, cs.dropWhile (!endsAtom ·))

/-- The parts of an atom with the blanks and comments around it. -/
def takeAtom : Reader (List Piece) := fun cs => do
  let (before, cs) := takeSkip cs
  let (core, cs) ←
    match takeEncodedPiece? cs with
    | some taken => .ok taken
    | none => takeAtomChars cs
  let (after, cs) := takeSkip cs
  .ok (before ++ core :: after, cs)

/-- The parts of a word: an atom or a quoted string, with the blanks and comments around it. -/
def takeWord : Reader (List Piece) := fun cs => do
  let (before, cs) := takeSkip cs
  match cs with
  | [] => .error .notThis
  | c :: _ =>
    if c = '"' then
      let (word, rest) := takeQuoted cs
      .ok (before ++ word, rest)
    else if specials.contains c then .error .notThis
    else do
      let (word, rest) ← takeAtom cs
      .ok (before ++ word, rest)

/-- The words, dots and comments of a phrase from the second on. -/
def phraseParts : (bound : Nat) → Text → List Piece × Text
  | 0, cs => ([], cs)
  | _, [] => ([], [])
  | bound + 1, c :: cs =>
    if endsPhrase c then ([], c :: cs)
    else
      let (part, rest) :=
        if c = '.' then (Piece.dot, cs)
        else
          match takeWord (c :: cs) with
          | .ok (word, rest) => (Piece.run word, rest)
          | .error _ =>
            let (parts, rest) := skipParts (cs.length + 2) (c :: cs)
            (Piece.skip parts, rest)
      let (more, rest) := phraseParts bound rest
      (part :: more, rest)

/-- The parts of a phrase. -/
def takePhrase (cs : Text) : List Piece × Text :=
  let (first, rest) :=
    match takeWord cs with
    | .ok (word, rest) => ([Piece.run word], rest)
    | .error _ => ([], cs)
  let (more, rest) := phraseParts (rest.length + 1) rest
  (first ++ more, rest)

def dottedParts : (bound : Nat) → Text → List Piece × Text
  | 0, cs => ([], cs)
  | bound + 1, cs =>
    match takeAtomChars cs with
    | .error _ => ([], cs)
    | .ok (part, .char '.' :: rest) =>
      let (more, rest) := dottedParts bound rest
      (part :: .dot :: more, rest)
    | .ok (part, rest) => ([part], rest)

/-- A dotted name, which may not end in a dot. -/
def takeDotted : Reader Piece := fun cs =>
  match dottedParts (cs.length + 1) cs with
  | ([], _) => .error .notThis
  | (parts, rest) =>
    match parts.getLast? with
    | some .dot => .error .notThis
    | _ => .ok (Piece.run parts, rest)

/-- A dotted name or an encoded word, with the blanks and comments around it. -/
def takeDottedAtom : Reader (List Piece) := fun cs => do
  let (before, cs) := takeSkip cs
  let (core, cs) ←
    match takeEncodedPiece? cs with
    | some taken => .ok taken
    | none => takeDotted cs
  let (after, cs) := takeSkip cs
  .ok (before ++ core :: after, cs)

end AlertRelay.Mail
