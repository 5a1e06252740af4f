import AlertRelay.Failure
import AlertRelay.Text.Utf8

/-!
# Header values

The value of a header, put together from its parts, may keep stray bytes as halves of surrogate
pairs. Stray bytes of several parts may make up characters together, so the whole value is judged
once more as UTF-8: `headerValue` gives the characters that its bytes stand for.
-/

namespace AlertRelay.Mail

/-- The first run of halves that keep no byte: its place and how many halves follow, less the halves
before it that keep one. `before` counts the points before the text. -/
def unkeptRun? (before : Nat) : Text → Option (Nat × Nat)
  | [] => none
  | p :: ps =>
    if p.isHalf && (Text.keptByte? p).isNone then
      some (before, (ps.takeWhile Point.isHalf).length)
    else unkeptRun? (before + 1) ps

/-- The fault of a text that has no bytes: where its halves lie and how many there are beyond the
first. -/
def unwritable (t : Text) (place more : Nat) : Fault :=
  let what :=
    if more = 0 then
      "character " ++ Text.quoted ((t.drop place).take 1) ++ " in position " ++ toString place
    else
      "characters in position " ++ toString place ++ "-" ++ toString (place + more)
  ⟨"UnicodeEncodeError", "'utf-8' codec can't encode " ++ what ++ ": surrogates not allowed"⟩

def headerValue (t : Text) : Except Fault Text :=
  if !t.holdsHalf then .ok t
  else
    match Text.utf8Escaped? t with
    | some bytes => .ok (Text.ofChars (Text.ofUtf8 bytes))
    | none =>
      let (place, more) := (unkeptRun? 0 t).getD (0, 0)
      .error (unwritable t place more)

/-- The characters of a text that is written out as it is, so that no half may stand in it. -/
def writtenChars (t : Text) : Except Fault (List Char) :=
  match t.chars? with
  | some cs => .ok cs
  | none =>
    let place := t.findIdx Point.isHalf
    .error (unwritable t place ((t.drop place).takeWhile Point.isHalf).length.pred)

end AlertRelay.Mail
