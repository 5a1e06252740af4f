import AlertRelay.Text.Blank
import AlertRelay.Text.Lines
import AlertRelay.Mail.EncodedWord
import AlertRelay.Mail.HeaderValue

/-!
# Subjects

`subjectLine` folds a message of several lines into one line. `subjectValue` is the value of a
header that holds free text: encoded words in it are decoded, and the blanks between two of them
vanish.
-/

namespace AlertRelay.Mail

/-- The lines of a text that are not blank, trimmed and joined with single blanks. -/
def subjectLine (message : Text) : Text :=
  Text.joinWith (Text.ofString " ") (((Text.lines message).map Text.strip).filter (!·.isEmpty))

inductive SubjectPart where
  /-- Blanks; they vanish between encoded words. -/
  | blanks (cs : Text) (hidden : Bool)
  /-- The text of an encoded word. -/
  | encoded (text : Text)
  /-- Plain text. -/
  | plain (cs : Text)

def isWordGap (c : Point) : Bool := c == ' ' || c == '\t'

def opensEncodedWord (cs : Text) : Bool :=
  match cs with
  | .char '=' :: .char '?' :: cs =>
    match cs.dropWhile (· != .char '?') with
    | .char '?' :: m :: .char '?' :: cs =>
      m.is ("qQbB".contains ·) &&
        match splitAtMark "?=" cs with
        | some (inner, _) => !inner.contains (.char '\n')
        | none => false
    | _ => false
  | _ => false

def holdsEncodedWord : Text → Bool
  | [] => false
  | c :: cs => opensEncodedWord (c :: cs) || holdsEncodedWord cs

/-- Adds an encoded word to the parts before it, given in reverse. -/
def addEncoded (text : Text) (before : List SubjectPart) : List SubjectPart :=
  match before with
  | .blanks cs _ :: .encoded t :: rest => .encoded text :: .blanks cs true :: .encoded t :: rest
  | before => .encoded text :: before

/-- The next piece of plain text, up to a blank, or up to an encoded word within it. -/
def takePlain (splitWords : Bool) (cs : Text) : Text × Text :=
  let word := cs.takeWhile (!isWordGap ·)
  if splitWords && holdsEncodedWord word then
    match splitAtMark "=?" cs with
    | some (before, after) => (before, .char '=' :: .char '?' :: after)
    | none => (cs, [])
  else (word, cs.dropWhile (!isWordGap ·))

/-- The parts of a text of at most `bound` characters, in reverse; `before` holds the earlier
ones. -/
def subjectParts : (bound : Nat) → List SubjectPart → Text → List SubjectPart
  | 0, before, _ => before
  | _, before, [] => before
  | bound + 1, before, c :: cs =>
    if isWordGap c then
      let gap := (c :: cs).takeWhile (·.is Text.isBlank)
      subjectParts bound (.blanks gap false :: before) ((c :: cs).dropWhile (·.is Text.isBlank))
    else
      let plain (splitWords : Bool) :=
        let (word, rest) := takePlain splitWords (c :: cs)
        subjectParts bound (.plain word :: before) rest
      if opensWord (c :: cs) then
        match takeEncodedWord (c :: cs) with
        | .ok (text, rest) => subjectParts bound (addEncoded text before) rest
        | .error .invalid => plain false
        | .error .unclosed => plain true
      else plain true

def SubjectPart.text : SubjectPart → Text
  | .blanks _ true => []
  | .blanks cs false => cs
  | .encoded text => text
  | .plain cs => cs

def subjectValue (cs : Text) : Except Fault Text :=
  headerValue ((subjectParts (2 * cs.length + 1) [] cs).reverse.flatMap SubjectPart.text)

end AlertRelay.Mail
