import AlertRelay.Text.CaseTable
import AlertRelay.Text.Point

/-!
# Letter case

`lower` is lower-casing by the full Unicode rules: one small letter for each capital, two code
points for the dotted capital I, and the final form of sigma at the end of a word. `asciiUpper?` is
the part of upper-casing that can end in a name of plain ASCII letters.
-/

namespace AlertRelay.Text

/-- Whether the nearest character of `cs` that is not ignorable in a word is a letter with case. -/
def meetsCased (cs : Text) : Bool :=
  match cs.dropWhile (fun c => inRanges caseIgnorableRanges c.toNat) with
  | [] => false
  | c :: _ => inRanges casedRanges c.toNat

/-- The small form of one point, except that of the capital sigma. -/
def lowerPoint (c : Point) : Text :=
  let n := c.toNat
  if n = 0x130 then "i\u0307"
  else
    match capitalRuns.findSome? (·.lower? n) with
    | some m => [.ofNat m]
    | none => [c]

/-- Lower-cases the second list; the first holds, in reverse, what stands before it. A capital sigma
becomes final when a letter stands before it and none after it. -/
def lowerFrom (before : Text) : Text → Text
  | [] => []
  | c :: cs =>
    if c.toNat = 0x3A3 then
      let final := meetsCased before && !meetsCased cs
      .ofNat (if final then 0x3C2 else 0x3C3) :: lowerFrom (c :: before) cs
    else lowerPoint c ++ lowerFrom (c :: before) cs

def lower (t : Text) : Text := lowerFrom [] t

/-- The capital form of one character where it consists of ASCII characters only. -/
def asciiUpperChar? (c : Char) : Option (List Char) :=
  if c.toNat < 128 then some [c.toUpper]
  else
    match c.toNat with
    | 0xDF => some ['S', 'S']
    | 0x131 => some ['I']
    | 0x17F => some ['S']
    | 0xFB00 => some ['F', 'F']
    | 0xFB01 => some ['F', 'I']
    | 0xFB02 => some ['F', 'L']
    | 0xFB03 => some ['F', 'F', 'I']
    | 0xFB04 => some ['F', 'F', 'L']
    | 0xFB05 => some ['S', 'T']
    | 0xFB06 => some ['S', 'T']
    | _ => none

def asciiUpper? (t : Text) : Option String := do
  let parts ← (← t.chars?).mapM asciiUpperChar?
  some (String.ofList parts.flatten)

end AlertRelay.Text
