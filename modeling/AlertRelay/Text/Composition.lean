import AlertRelay.Text.CompositionTable
import AlertRelay.Text.Lines

/-!
# Composed characters

Many characters are made up of others. `decomposed` takes a text apart as far as it goes and puts
the marks behind each character in order; `composed` then joins a character and the marks behind it
again, as far as they make up one character. `normal` is the form that both give together, so texts
that differ only in how their characters are put together have one normal form.
-/

namespace AlertRelay.Text.Composition

/-- The triples of a text: each character with the two that it is made of. -/
def triples : List Char → List (Char × Char × Char)
  | c :: a :: b :: cs => (c, a, b) :: triples cs
  | _ => []

/-- The composed characters that are taken apart, each with the two that it is made of. -/
def pairs : List (Char × Char × Char) := triples pairTable.toList

/-- The composed characters that are never taken apart. -/
def latePairChars : List (Char × Char × Char) :=
  latePairs.map fun (c, a, b) => (Char.ofNat c, Char.ofNat a, Char.ofNat b)

/-- The entries of a table of words: a character and what it stands for, with a bar behind each. -/
def wordsOf (table : String) : List (Char × List Char) :=
  (fields '|' table.toList).filterMap fun
    | c :: word => some (c, word)
    | [] => none

def inRuns? (runs : List (Nat × String)) (c : Char) : Option Char :=
  let n := c.toNat
  (runs.find? fun (first, run) => first ≤ n && n < first + run.length).bind fun (first, run) =>
    run.toList[n - first]?

def words : List (Char × List Char) := wordsOf wordTable

/-- The class of a mark; zero for all other characters. -/
def combiningClass (c : Char) : Nat :=
  let n := c.toNat
  match combiningClasses.find? fun (first, last, _) => first ≤ n && n ≤ last with
  | some (_, _, k) => k
  | none => 0

/-! ### Taking apart -/

def syllableLetters? (c : Char) : Option (List Char) :=
  let n := c.toNat
  if 0xAC00 ≤ n ∧ n < 0xD7A4 then
    let i := n - 0xAC00
    let opening := [Char.ofNat (0x1100 + i / 588), Char.ofNat (0x1161 + i % 588 / 28)]
    some (if i % 28 = 0 then opening else opening ++ [Char.ofNat (0x11A7 + i % 28)])
  else none

/-- The characters that a character is made of in the end; `depth` bounds how often a part is taken
apart once more. -/
def apart : (depth : Nat) → Char → List Char
  | 0, c => [c]
  | depth + 1, c =>
    if c.toNat < 0x80 then [c]
    else
      match syllableLetters? c with
      | some letters => letters
      | none =>
        match pairs.find? (·.1 = c) with
        | some (_, a, b) => apart depth a ++ apart depth b
        | none =>
          match inRuns? singleRuns c with
          | some a => [a]
          | none => (words.lookup c).getD [c]

/-- Puts a mark behind those of its class and of lower ones; `before` holds the marks in reverse. -/
def insertMark (c : Char) : (before : List Char) → List Char
  | [] => [c]
  | d :: before =>
    if combiningClass c < combiningClass d then d :: insertMark c before else c :: d :: before

/-- A text with the marks behind each character in order; `marks` holds those so far in reverse. -/
def ordered (marks : List Char) : List Char → List Char
  | [] => marks.reverse
  | c :: cs =>
    if combiningClass c = 0 then marks.reverse ++ c :: ordered [] cs
    else ordered (insertMark c marks) cs

def decomposed (cs : List Char) : List Char := ordered [] (cs.flatMap (apart 4))

/-! ### Putting together -/

def syllable? (a b : Char) : Option Char :=
  let m := a.toNat
  let n := b.toNat
  if 0x1100 ≤ m ∧ m < 0x1113 ∧ 0x1161 ≤ n ∧ n < 0x1176 then
    some (Char.ofNat (0xAC00 + ((m - 0x1100) * 21 + (n - 0x1161)) * 28))
  else if 0xAC00 ≤ m ∧ m < 0xD7A4 ∧ (m - 0xAC00) % 28 = 0 ∧ 0x11A7 < n ∧ n < 0x11C3 then
    some (Char.ofNat (m + (n - 0x11A7)))
  else none

def pair? (a b : Char) : Option Char :=
  match syllable? a b with
  | some c => some c
  | none => ((pairs ++ latePairChars).find? fun (_, x, y) => x = a && y = b).map (·.1)

/-- Joins a character with what follows it: each mark that no mark of its class or a higher one
stands between. `kept` holds in reverse the marks that stay, and `top` the class of the last of
them. -/
def joined (c : Char) (kept : List Char) (top : Nat) : List Char → List Char
  | [] => c :: kept.reverse
  | d :: ds =>
    let k := combiningClass d
    if top ≠ 0 ∧ k = 0 then c :: kept.reverse ++ joined d [] 0 ds
    else if top ≠ 0 ∧ k ≤ top then joined c (d :: kept) top ds
    else
      match pair? c d with
      | some e => joined e kept top ds
      | none =>
        if k = 0 then c :: kept.reverse ++ joined d [] 0 ds else joined c (d :: kept) k ds

def composed : List Char → List Char
  | [] => []
  | c :: cs => joined c [] 0 cs

def normal (cs : List Char) : List Char := composed (decomposed cs)

end AlertRelay.Text.Composition
