import AlertRelay.Yaml.Meaning

/-!
# Reading a document

A text holds at most one document; one without any is null. Line ends come in three forms, and
control characters may not occur.
-/

namespace AlertRelay.Yaml

/-- The same characters with every line end as a line feed. -/
def withLineFeeds : List Char → List Char
  | '\r' :: '\n' :: cs => '\n' :: withLineFeeds cs
  | '\r' :: cs => '\n' :: withLineFeeds cs
  | c :: cs => c :: withLineFeeds cs
  | [] => []

def isAllowed (c : Char) : Bool :=
  let n := c.toNat
  n == 9 || n == 10 || n == 13 || (0x20 ≤ n && n ≤ 0x7E) || n == 0x85 || (0xA0 ≤ n && n ≤ 0xFFFD) ||
    0x10000 ≤ n

def read (s : String) : Except Error Value := do
  let cs := withLineFeeds s.toList
  if !cs.all isAllowed then .error .malformed
  else
    match ← Document.ofTokens (Token.scan cs) with
    | none => .ok .null
    | some d => d.value

end AlertRelay.Yaml
