import AlertRelay.Failure
import AlertRelay.Text.Lines
import AlertRelay.Mail.HeaderValue
import AlertRelay.Mail.Phrase

/-!
# Addresses

The recipients of a mail: mailboxes, with or without a name, and groups of them. `addressValue` is
the value of a header that lists addresses: each in its plain form, an address that cannot be made
out as an empty one. It fails only on text that no reading fits.
-/

namespace AlertRelay.Mail

def AddressFault.fault : AddressFault → Fault
  | .endsEarly => ⟨"IndexError", "string index out of range"⟩
  | .emptyName => ⟨"IndexError", "list index out of range"⟩
  | .openLiteral =>
    ⟨"AttributeError", "'InvalidHeaderDefect' object has no attribute 'all_defects'"⟩
  | .blankLiteral =>
    ⟨"UnboundLocalError",
      "cannot access local variable 'pos' where it is not associated with a value"⟩
  | .textAfterGroup => ⟨"AttributeError", "'Group' object has no attribute 'local_part'"⟩
  | .dotAtEdge => ⟨"AttributeError", "'str' object has no attribute 'token_type'"⟩
  | .dotAfterGap => ⟨"TypeError", "'ValueTerminal' object does not support item assignment"⟩
  | .lineBreak => ⟨"ValueError", "invalid arguments; address parts cannot contain CR or LF"⟩
  | .severalLines =>
    ⟨"ValueError", "Header values may not contain linefeed or carriage return characters"⟩
  | .tooDeep false => ⟨"RecursionError", "maximum recursion depth exceeded"⟩
  | .tooDeep true =>
    ⟨"RecursionError", "maximum recursion depth exceeded while calling a Python object"⟩

/-! ### Nesting -/

/-- How deep the comments of an address may lie within one another: up to `comments` the address is
read, and up to `readable` at least the comments are. How deep that is depends on the machine; the
numbers here are those of one. -/
structure Nesting where
  comments : Nat := 482
  readable : Nat := 966

/-- How many comments of a text lie within one another, where `depth` are open before it. A comment
may hold quotes, and quotes may hold parentheses; a backslash takes the next character as it is. -/
def commentDepth : (depth : Nat) → (inQuotes : Bool) → Text → Nat
  | depth, _, [] => depth
  | depth, inQuotes, .char '\\' :: _ :: cs => commentDepth depth inQuotes cs
  | depth, inQuotes, c :: cs =>
    if inQuotes then commentDepth depth (c != '"') cs
    else if c = '(' then commentDepth (depth + 1) false cs
    else if c = ')' then max depth (commentDepth (depth - 1) false cs)
    else commentDepth depth (depth == 0 && c == '"') cs

/-! ### Local parts and domains -/

def looseLocalParts : (bound : Nat) → Text → List Piece × Text
  | 0, cs => ([], cs)
  | _, [] => ([], [])
  | bound + 1, c :: cs =>
    if c != '\\' && endsPhrase c then ([], c :: cs)
    else
      let (part, rest) :=
        if c = '.' then (Piece.dot, cs)
        else if c = '\\' then (Piece.chars ['\\'], cs)
        else
          match takeWord (c :: cs) with
          | .ok (word, rest) => (Piece.run word, rest)
          | .error _ =>
            let (parts, rest) := skipParts (cs.length + 2) (c :: cs)
            (Piece.skip parts, rest)
      let (more, rest) := looseLocalParts bound rest
      (part :: more, rest)

def takeLocal : Reader (List Piece) := fun cs => do
  if cs.isEmpty then throw (.broken .endsEarly)
  let (before, cs) := takeSkip cs
  if cs.isEmpty then throw .notThis
  let (core, cs) ←
    match takeDottedAtom cs with
    | .ok taken => .ok taken
    | .error (.broken f) => .error (.broken f)
    | .error .notThis =>
      match takeWord cs with
      | .ok taken => .ok taken
      | .error (.broken f) => .error (.broken f)
      | .error .notThis =>
        if startsWith (fun c => c != '\\' && endsPhrase c) cs then .error .notThis
        else .ok ([], cs)
  let parts := before ++ core
  if startsWith (fun c => c = '\\' || !endsPhrase c) cs then
    let whole := Piece.sources parts ++ cs
    match looseLocalParts (whole.length + 1) whole with
    | ([], _) => .error (.broken .emptyName)
    | ([.skip _], _) => .error (.broken .emptyName)
    | taken => .ok taken
  else .ok (parts, cs)

/-- The end of a domain in brackets, after its text. -/
def closeLiteral (parts : List Piece) : Reader (List Piece × Bool) := fun cs =>
  if cs.isEmpty then .ok ((parts, true), cs)
  else
    let (after, cs) := if startsWith isGapChar cs then takeGap cs else (.vanished, cs)
    match cs with
    | [] => .ok ((parts, true), [])
    | .char ']' :: cs =>
      let (skip, cs) := takeSkip cs
      .ok ((parts ++ [after, .chars [']']] ++ skip, false), cs)
    | _ => .error .notThis

/-- A domain in brackets, which opens the text, and whether it is never closed. -/
def takeLiteral : Reader (List Piece × Bool) := fun cs =>
  let cs := cs.drop 1
  if cs.isEmpty then .ok (([], true), cs)
  else
    let (before, cs) := if startsWith isGapChar cs then takeGap cs else (.vanished, cs)
    if cs.isEmpty then .error (.broken .blankLiteral)
    else
      let (taken, cs) := plainChars (fun c => c == '[' || c == ']') false cs
      closeLiteral [.chars ['['], before, .chars taken] cs

/-- The further atoms of a domain with blanks around its dots. -/
def looseDomainParts : (bound : Nat) → Reader (List Piece)
  | 0, cs => .ok ([], cs)
  | bound + 1, .char '.' :: cs => do
    let (atom, cs) ← takeAtom cs
    let (more, cs) ← looseDomainParts bound cs
    .ok (.dot :: .run atom :: more, cs)
  | _, cs => .ok ([], cs)

/-- The parts of a domain, and whether it is a bracket that is never closed. -/
def takeDomain : Reader (List Piece × Bool) := fun cs => do
  if cs.isEmpty then throw (.broken .endsEarly)
  let (before, cs) := takeSkip cs
  if cs.isEmpty then throw .notThis
  if startsWith (· == '[') cs then
    let ((parts, isOpen), cs) ← takeLiteral cs
    .ok ((before ++ parts, isOpen), cs)
  else
    let (core, cs) ←
      match takeDottedAtom cs with
      | .ok taken => .ok taken
      | .error (.broken f) => .error (.broken f)
      | .error .notThis => takeAtom cs
    if startsWith (· == '@') cs then throw .notThis
    let (more, cs) ← looseDomainParts (cs.length + 1) cs
    .ok ((before ++ core ++ more, false), cs)

/-! ### Mailboxes -/

/-- What stands before and after the at sign. `isOpen` marks a domain whose bracket is never
closed. -/
structure AddrSpec where
  localParts : List Piece
  domain : Option (List Piece)
  isOpen : Bool

def takeAddrSpec : Reader AddrSpec := fun cs => do
  let (localParts, cs) ← takeLocal cs
  match cs with
  | .char '@' :: cs => do
    let ((domain, isOpen), cs) ← takeDomain cs
    .ok (⟨localParts, some domain, isOpen⟩, cs)
  | cs => .ok (⟨localParts, none, false⟩, cs)

def dropRouteGaps : (bound : Nat) → Text → Text
  | 0, cs => cs
  | _, [] => []
  | bound + 1, c :: cs =>
    if c = ',' then dropRouteGaps bound cs
    else if opensSkip c then dropRouteGaps bound (takeSkip (c :: cs)).2
    else c :: cs

/-- The further domains of a route; what remains after them. -/
def routeRest : (bound : Nat) → Text → Except Refusal Text
  | 0, cs => .ok cs
  | bound + 1, .char ',' :: cs =>
    match (takeSkip cs).2 with
    | [] => if cs.isEmpty then .ok [] else .error (.broken .endsEarly)
    | .char '@' :: cs => do
      let (_, cs) ← takeDomain cs
      routeRest bound cs
    | cs => routeRest bound cs
  | _, cs => .ok cs

/-- What remains after the route of an address, which ends in a colon. -/
def dropRoute (cs : Text) : Except Refusal Text :=
  match dropRouteGaps (cs.length + 1) cs with
  | .char '@' :: cs => do
    let (_, cs) ← takeDomain cs
    let cs ← routeRest (cs.length + 1) cs
    match cs with
    | .char ':' :: cs => .ok cs
    | _ => .error .notThis
  | _ => .error .notThis

/-- An address in angle brackets; none for empty brackets. -/
def takeAngle : Reader (Option AddrSpec) := fun cs => do
  let (_, cs) := takeSkip cs
  match cs with
  | .char '<' :: cs =>
    match cs with
    | [] => .error (.broken .endsEarly)
    | .char '>' :: cs => .ok (none, cs)
    | cs => do
      let (spec, cs) ←
        match takeAddrSpec cs with
        | .ok taken => .ok taken
        | .error (.broken f) => .error (.broken f)
        | .error .notThis => do
          let cs ← dropRoute cs
          takeAddrSpec cs
      let cs := match cs with
        | .char '>' :: cs => cs
        | cs => cs
      .ok (some spec, (takeSkip cs).2)
  | _ => .error .notThis

inductive Mailbox where
  /-- An address in angle brackets, perhaps with a name before it. -/
  | named (name : Option (List Piece)) (spec : Option AddrSpec)
  /-- An address alone. -/
  | bare (spec : AddrSpec)
  /-- Text that is no address. -/
  | unreadable

/-- Puts blanks and comments before the first part of a phrase. -/
def prependGap (before phrase : List Piece) : Except Refusal (List Piece) :=
  match before, phrase with
  | [], phrase => .ok phrase
  | before, .run ps :: rest => .ok (.run (before ++ ps) :: rest)
  | before, .skip ps :: rest => .ok (.skip (before ++ ps) :: rest)
  | _, .dot :: _ => .error (.broken .dotAfterGap)
  | _, phrase => .ok phrase

def takeNamed : Reader Mailbox := fun cs => do
  let (before, cs) := takeSkip cs
  if cs.isEmpty then throw .notThis
  if startsWith (· == '<') cs then
    let (spec, cs) ← takeAngle cs
    .ok (.named none spec, cs)
  else
    if startsWith endsPhrase cs then throw .notThis
    let (phrase, cs) := takePhrase cs
    if cs.isEmpty then throw .notThis
    let phrase ← prependGap before phrase
    let (spec, cs) ← takeAngle cs
    .ok (.named (some phrase) spec, cs)

/-- Whether a mailbox has a domain whose bracket is never closed. -/
def Mailbox.isOpen : Mailbox → Bool
  | named _ (some spec) => spec.isOpen
  | named _ none => false
  | bare spec => spec.isOpen
  | unreadable => false

def takeMailbox : Reader Mailbox := fun cs => do
  let (mailbox, rest) ←
    match takeNamed cs with
    | .ok taken => .ok taken
    | .error (.broken f) => .error (.broken f)
    | .error .notThis => do
      let (spec, rest) ← takeAddrSpec cs
      .ok (.bare spec, rest)
  if mailbox.isOpen then .error (.broken .openLiteral) else .ok (mailbox, rest)

/-- Drops text that is no address, up to one of `ends`. -/
def dropUnreadable (ends : Point → Bool) : (bound : Nat) → Text → Text
  | 0, cs => cs
  | _, [] => []
  | bound + 1, c :: cs =>
    if ends c then c :: cs
    else if endsPhrase c then dropUnreadable ends bound cs
    else dropUnreadable ends bound (takePhrase (c :: cs)).2

/-- A mailbox of a list, or the text up to the next separator if there is none. -/
def takeMember (isEnd : Point → Bool) (cs : Text) : Except Refusal (List Mailbox × Text) :=
  match takeMailbox cs with
  | .error (.broken f) => .error (.broken f)
  | .ok (mailbox, rest) =>
    if startsWith (fun c => !isEnd c) rest then
      .ok ([mailbox], dropUnreadable isEnd (rest.length + 1) rest)
    else .ok ([mailbox], rest)
  | .error .notThis =>
    let (before, rest) := takeSkip cs
    if rest.isEmpty || startsWith isEnd rest then
      if before.isEmpty && !startsWith (· == ',') rest then
        .ok ([.unreadable], dropUnreadable isEnd (rest.length + 1) rest)
      else .ok ([], rest)
    else .ok ([.unreadable], dropUnreadable isEnd (rest.length + 1) rest)

/-- The mailboxes of a group, up to the semicolon. -/
def groupMembers : (bound : Nat) → Text → Except Refusal (List Mailbox × Text)
  | 0, cs => .ok ([], cs)
  | _, [] => .ok ([], [])
  | bound + 1, c :: cs =>
    if c = ';' then .ok ([], c :: cs)
    else do
      let (members, rest) ← takeMember (fun c => c == ',' || c == ';') (c :: cs)
      let rest := match rest with
        | .char ',' :: rest => rest
        | rest => rest
      let (more, rest) ← groupMembers bound rest
      .ok (members ++ more, rest)

/-! ### Entries of a header -/

inductive AddressEntry where
  | mailbox (m : Mailbox)
  | group (name : List Piece) (members : List Mailbox)
  /-- A group with further text after it. -/
  | overlongGroup (name : List Piece)

/-- A group: a name, a colon, mailboxes and a semicolon, which may be missing at the end. -/
def takeGroup : Reader (List Piece × List Mailbox) := fun cs =>
  let (name, cs) := takePhrase cs
  match cs with
  | .char ':' :: .char ';' :: cs => .ok ((name, []), cs)
  | .char ':' :: cs => do
    let (_, cs) := takeSkip cs
    let (members, cs) ← groupMembers (cs.length + 1) cs
    .ok ((name, members), (takeSkip (cs.drop 1)).2)
  | _ => .error .notThis

/-- An entry at the head of a text, if one can be read, and what follows up to the next comma. -/
def takeEntry (cs : Text) : Except Refusal (List AddressEntry × Text) :=
  let isEnd (c : Point) : Bool := c == ','
  match takeGroup cs with
  | .ok ((name, members), rest) =>
    if startsWith (!isEnd ·) rest then
      .ok ([.overlongGroup name], dropUnreadable isEnd (rest.length + 1) rest)
    else .ok ([.group name members], rest)
  | .error (.broken f) => .error (.broken f)
  | .error .notThis => do
    let (members, rest) ← takeMember isEnd cs
    .ok (members.map .mailbox, rest)

def addressEntries : (bound : Nat) → Text → Except Refusal (List AddressEntry)
  | 0, _ => .ok []
  | _, [] => .ok []
  | bound + 1, c :: cs => do
    let (entries, rest) ← takeEntry (c :: cs)
    let more ← addressEntries bound (rest.drop 1)
    .ok (entries ++ more)

/-! ### The plain form -/

def unsnoc? {α : Type} (xs : List α) : Option (List α × α) :=
  xs.getLast?.map fun x => (xs.dropLast, x)

def trimPhraseStart : List Piece → Except AddressFault (List Piece)
  | .skip _ :: rest => .ok rest
  | .run (p :: ps) :: rest => .ok (.run (if p.isSkip then ps else p :: ps) :: rest)
  | .run [] :: _ => .error .emptyName
  | .dot :: _ => .error .dotAtEdge
  | phrase => .ok phrase

def trimPhraseEnd (phrase : List Piece) : Except AddressFault (List Piece) :=
  match unsnoc? phrase with
  | none => .error .emptyName
  | some (rest, .skip _) => .ok rest
  | some (rest, .run ps) =>
    match unsnoc? ps with
    | none => .error .emptyName
    | some (qs, p) => .ok (if p.isSkip then rest ++ [.run qs] else phrase)
  | some (_, .dot) => .error .dotAtEdge
  | some (_, _) => .ok phrase

def nameText (phrase : List Piece) : Except AddressFault Text :=
  if phrase.isEmpty then .ok []
  else do
    let phrase ← trimPhraseStart phrase
    let phrase ← trimPhraseEnd phrase
    .ok (Piece.values phrase)

/-- A part of a local part without the blanks that precede the next dot. -/
def trimBeforeDot (p : Piece) : Except AddressFault Piece :=
  match p.parts? with
  | none => .ok p
  | some ps =>
    match unsnoc? ps with
    | none => .error .emptyName
    | some (qs, q) => .ok (if q.isSkip then .run qs else p)

/-- A part of a local part without the blanks that follow the dot before it. -/
def trimAfterDot (p : Piece) : Except AddressFault Piece :=
  match p.parts? with
  | none => .ok p
  | some [] => .error .emptyName
  | some (q :: qs) => .ok (if q.isSkip then .run qs else p)

def Piece.isDot : Piece → Bool
  | .dot => true
  | _ => false

/-- The parts of a local part without blanks around its dots; `last` is the part before them, a dot
at the beginning. A dot stands after the last part. -/
def tightParts (last : Piece) : List Piece → Except AddressFault (List Piece)
  | [] => do
    let last ← trimBeforeDot last
    .ok [last]
  | p :: ps =>
    if p.isSkip then tightParts last ps
    else do
      let done ← if p.isDot then trimBeforeDot last else .ok last
      let p ← if last.isDot then trimAfterDot p else .ok p
      let more ← tightParts p ps
      .ok (done :: more)

def localText (parts : List Piece) : Except AddressFault Text := do
  let tight ← tightParts .dot parts
  .ok (Piece.values (tight.drop 1))

/-- The text of a domain, without any white space. -/
def domainText (parts : List Piece) : Text :=
  (Piece.values parts).filter fun c => !c.is Text.isBlank

def plainAddress (name localPart domain : Text) : Text :=
  let quotedLocal :=
    if localPart.any (fun c => endsAtom c && c != '.') then doubleQuoted localPart else localPart
  let spec := if domain.isEmpty then quotedLocal else quotedLocal ++ .char '@' :: domain
  if name.isEmpty then (if spec.isEmpty then Text.ofString "<>" else spec)
  else
    let shown := if name.any specials.contains then doubleQuoted name else name
    shown ++ Text.ofString " <" ++ spec ++ Text.ofString ">"

/-- The plain form of an address, which may not hold a line break. -/
def checkedAddress (name localPart domain : Text) : Except AddressFault Text :=
  if (name ++ localPart ++ domain).any (fun c => c == '\r' || c == '\n') then .error .lineBreak
  else .ok (plainAddress name localPart domain)

def Mailbox.plain (m : Mailbox) : Except AddressFault Text :=
  let specTexts (spec : AddrSpec) : Except AddressFault (Text × Text) := do
    let localPart ← localText spec.localParts
    .ok (localPart, (spec.domain.map domainText).getD [])
  match m with
  | .named name spec => do
    let name ← match name with
      | some phrase => nameText phrase
      | none => .ok []
    let (localPart, domain) ← match spec with
      | some spec => specTexts spec
      | none => .ok ([], [])
    checkedAddress name localPart domain
  | .bare spec => do
    let (localPart, domain) ← specTexts spec
    checkedAddress [] localPart domain
  | .unreadable => checkedAddress [] [] []

def AddressEntry.plain : AddressEntry → Except AddressFault Text
  | .mailbox m => m.plain
  | .group name members => do
    let name ← nameText name
    let members ← members.mapM Mailbox.plain
    let shown := if name.any specials.contains then doubleQuoted name else name
    let list := Text.joinWith (Text.ofString ", ") members
    .ok (shown ++ .char ':' :: (if list.isEmpty then [] else .char ' ' :: list) ++ [.char ';'])
  | .overlongGroup name => do
    let _ ← nameText name
    .error .textAfterGroup

def plainAddresses (nesting : Nesting) (cs : Text) : Except AddressFault Text :=
  if 1 < (Text.lines cs).length then .error .severalLines
  else if nesting.comments < commentDepth 0 false cs then
    .error (.tooDeep (nesting.readable < commentDepth 0 false cs))
  else
    match addressEntries (cs.length + 1) cs with
    | .error (.broken f) => .error f
    | .error .notThis => .error .emptyName
    | .ok entries => do
      let plain ← entries.mapM AddressEntry.plain
      .ok (Text.joinWith (Text.ofString ", ") plain)

/-- The value of a header that lists addresses. -/
def addressValue (nesting : Nesting) (cs : Text) : Except Fault Text := do
  let plain ← (plainAddresses nesting cs).mapError AddressFault.fault
  headerValue plain

end AlertRelay.Mail
