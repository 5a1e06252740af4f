import AlertRelay.Text.Nameprep
import AlertRelay.Text.Punycode

/-!
# Names of hosts in other scripts

A label of a host's name in ASCII: a label that is not ASCII is brought into its plain form and, if
it still is not, written in Punycode behind the mark `xn--`. `toUnicode?` reads a label back.
-/

namespace AlertRelay.Idna

/-- What stands before a label in Punycode. -/
def mark : List Char := "xn--".toList

def isAscii (cs : List Char) : Bool := cs.all (·.toNat < 0x80)

/-- A label that is neither empty nor too long. -/
def sized? (cs : List Char) : Option (List Char) :=
  if 0 < cs.length ∧ cs.length < 64 then some cs else none

def toAscii? (cs : List Char) : Option (List Char) :=
  if isAscii cs then sized? cs
  else do
    let plain ← Text.nameprep? cs
    if isAscii plain then sized? plain
    else if mark.isPrefixOf plain then none
    else sized? (mark ++ Text.Punycode.encode plain)

/-- The text of a label of bytes: it is ASCII once it is in its plain form, and behind the mark it
is in Punycode and comes from its text alone. -/
def toUnicode? (label : List Char) : Option (List Char) :=
  if !isAscii label then none
  else if !mark.isPrefixOf label then some label
  else do
    let text ← Text.Punycode.decode? (label.drop mark.length)
    let cs ← text.chars?
    let back ← toAscii? cs
    if label.map Char.toLower = back then some cs else none

end AlertRelay.Idna
