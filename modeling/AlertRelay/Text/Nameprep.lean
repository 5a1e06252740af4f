import AlertRelay.Text.Case
import AlertRelay.Text.Composition
import AlertRelay.Text.NamingTable

/-!
# The plain form of a name

Names that differ only in capitals, in how their characters are put together or in characters
without a visible form are one name. `nameprep?` gives the plain form of a name; it refuses a name
with a character that no name holds, and one that mixes both directions of writing.
-/

namespace AlertRelay.Text

namespace Naming

def within (ranges : List (Nat × Nat)) (c : Char) : Bool :=
  ranges.any fun (low, high) => low ≤ c.toNat && c.toNat ≤ high

/-- Characters that are folded to several others. -/
def foldedWords : List (Char × List Char) := Composition.wordsOf foldWords

/-- What a character is folded to: by the tables, or to its small letter. -/
def folded (c : Char) : List Char :=
  match Composition.inRuns? foldRuns c with
  | some d => [d]
  | none =>
    match foldedWords.lookup c with
    | some word => word
    | none => ((lower [.char c]).chars?).getD [c]

/-- Whether the directions of writing agree: with a letter from right to left there is none from
left to right, and such letters stand at both ends. -/
def directionsAgree (cs : List Char) : Bool :=
  !cs.any (within rightToLeft) ||
    (!cs.any (within leftToRight) && cs.head?.any (within rightToLeft) &&
      cs.getLast?.any (within rightToLeft))

end Naming

def nameprep? (cs : List Char) : Option (List Char) :=
  let kept := cs.filter (!Naming.within Naming.vanishing ·)
  let plain := Composition.normal (kept.flatMap Naming.folded)
  if plain.any (Naming.within Naming.prohibited) || !Naming.directionsAgree plain then none
  else some plain

end AlertRelay.Text
