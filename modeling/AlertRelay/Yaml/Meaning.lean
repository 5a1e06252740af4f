import AlertRelay.Mail.Base64
import AlertRelay.Yaml.Node
import AlertRelay.Yaml.Number

/-!
# The values of nodes

What the nodes of a document mean. A node has one value however often it occurs. A collection begins
empty and waits until it is its turn to be filled; the collections that are met while one is filled
wait behind all others, so that a collection may hold itself. Of several impossible values the one
that is met first counts.

Before a map is filled, the entries of the maps that are merged into it are put in front of its own,
which win, and its value keys become texts.

Once all collections are filled, `valueOf` makes the value of each of them once, so that a document
is no larger than its text however often its collections occur in one another.
-/

namespace AlertRelay.Yaml

namespace Meaning

/-- A value in the making: one that needs no other node, or the collection of a numbered node. -/
inductive Part where
  | whole (v : Value)
  | collection (number : Nat)

inductive Content where
  | list (items : List Part)
  | pairs (items : List (Part × Part))
  | set (keys : List Value)
  | map (entries : List (Value × Part))

/-- The values of a document in the making: its nodes, the parts that are known by number, what the
collections hold, and which of them wait to be filled. -/
structure Making where
  nodes : Array Node
  parts : Array (Option Part) := nodes.map fun _ => none
  contents : Array (Option Content) := nodes.map fun _ => none
  waiting : List Nat := []

abbrev Make := StateT Making (Except Error)

/-- Ends the making of values of a malformed document. -/
def refuse {α : Type} : Make α := throw .malformed

def nodeAt (number : Nat) : Make Node := do pure (← get).nodes[number]!

def changeNode (number : Nat) (n : Node) : Make Unit :=
  modify fun m => { m with nodes := m.nodes.set! number n }

def entriesAt (number : Nat) : Make (List (Nat × Nat)) := do
  match ← nodeAt number with
  | .map _ entries => pure entries
  | _ => refuse

/-! ### Scalars -/

/-- The text of a node of a scalar kind: a map stands for the value under its value key, which may
stand for itself. -/
def textAt : (fuel : Nat) → (number : Nat) → Make Text
  | 0, _ => throw (.invalid depthFault)
  | fuel + 1, number => do
    match ← nodeAt number with
    | .scalar _ s => pure s.text
    | .list _ _ => refuse
    | .map _ entries =>
      match ← entries.findM? fun (key, _) => do pure ((← nodeAt key).tag == Tag.value) with
      | some (_, value) => textAt fuel value
      | none => refuse

def timestampValue (t : Text) : Except Fault Value :=
  match t.chars?.bind fun cs => Timestamp.read? (Tag.withoutFinalBreak cs) with
  | some t => t.toValue
  | none => .error ⟨"AttributeError", "'NoneType' object has no attribute 'groupdict'"⟩

def binaryValue (t : Text) : Except Error Value :=
  match t.chars? with
  | none => .error .malformed
  | some cs =>
    match if cs.all (·.toNat < 128) then Mail.Base64.decode? false cs else none with
    | some bytes => .ok (.bytes bytes)
    | none => .error .malformed

def scalarValue (tag : Tag) (t : Text) : Except Error Value :=
  match tag with
  | .null => .ok .null
  | .bool => ((Number.truth t).map .bool).mapError .invalid
  | .int => ((Number.integer t).map .int).mapError .invalid
  | .float => ((Number.float t).map .float).mapError .invalid
  | .timestamp => (timestampValue t).mapError .invalid
  | .binary => binaryValue t
  | .text => .ok (.text t)
  | _ => .error .malformed

/-- The fault of a point of time that is no scalar. -/
def noTextFault : Fault := ⟨"TypeError", "expected string or bytes-like object, got 'list'"⟩

def scalarAt (tag : Tag) (number : Nat) : Make Value := do
  let t ← textAt ((← get).nodes.size + 1) number
  match tag, ← nodeAt number with
  | .timestamp, .map _ _ => throw (.invalid noTextFault)
  | tag, _ => liftM (scalarValue tag t)

/-! ### Parts -/

/-- The part of a node: its value, or a collection that begins to wait. -/
def begin (number : Nat) : Make Part := do
  match (← nodeAt number).tag with
  | .list | .map | .set | .pairs | .orderedMap =>
    modify fun m => { m with waiting := m.waiting ++ [number] }
    pure (.collection number)
  | .merge | .value | .unknown => refuse
  | tag => do pure (.whole (← scalarAt tag number))

/-- The part of a node, which is the same wherever the node occurs. -/
def partAt (number : Nat) : Make Part := do
  match (← get).parts[number]? with
  | some (some part) => pure part
  | _ =>
    let part ← begin number
    modify fun m => { m with parts := m.parts.set! number (some part) }
    pure part

/-- The key that a part is; a collection is none. -/
def keyOf : Part → Make Value
  | .whole v => pure v
  | .collection _ => refuse

/-! ### Merging -/

mutual

/-- Puts the entries of merged maps in front of those of a map, and makes its value keys texts. -/
def merge : (fuel : Nat) → (number : Nat) → Make Unit
  | 0, _ => pure ()
  | fuel + 1, number => mergeFrom fuel number 0 []

/-- Goes through the entries of a map from an index on; `merged` holds the entries that are
merged. -/
def mergeFrom : (fuel : Nat) → (number index : Nat) → (merged : List (Nat × Nat)) → Make Unit
  | 0, _, _, _ => pure ()
  | fuel + 1, number, index, merged => do
    let entries ← entriesAt number
    match entries[index]? with
    | none => changeNode number (.map (← nodeAt number).tag (merged ++ entries))
    | some (key, value) =>
      let keyNode ← nodeAt key
      match keyNode.tag with
      | .merge =>
        changeNode number (.map (← nodeAt number).tag (entries.eraseIdx index))
        let more ← mergedEntries fuel value
        mergeFrom fuel number index (merged ++ more)
      | .value =>
        changeNode key (keyNode.withTag .text)
        mergeFrom fuel number (index + 1) merged
      | _ => mergeFrom fuel number (index + 1) merged

/-- The entries that a merged map brings in, or a list of them, of which the last counts first. -/
def mergedEntries : (fuel : Nat) → (number : Nat) → Make (List (Nat × Nat))
  | 0, _ => pure []
  | fuel + 1, number => do
    match ← nodeAt number with
    | .scalar _ _ => refuse
    | .map _ _ =>
      merge fuel number
      entriesAt number
    | .list _ items => do pure (← mergedItems fuel items).reverse.flatten

/-- The entries of each of several merged maps. -/
def mergedItems : (fuel : Nat) → List Nat → Make (List (List (Nat × Nat)))
  | 0, _ => pure []
  | _, [] => pure []
  | fuel + 1, number :: rest => do
    let _ ← entriesAt number
    merge fuel number
    let entries ← entriesAt number
    let more ← mergedItems fuel rest
    pure (entries :: more)

end

/-- The number of all parts of all nodes. -/
def Making.size (m : Making) : Nat :=
  m.nodes.foldl (fun n node => n + 1 + match node with
    | .scalar _ _ => 0
    | .list _ items => items.length
    | .map _ entries => entries.length) 0

/-! ### Filling -/

/-- The parts of the only key and value of a map. -/
def pairAt (number : Nat) : Make (Part × Part) := do
  match ← entriesAt number with
  | [(key, value)] =>
    let key ← partAt key
    let value ← partAt value
    pure (key, value)
  | _ => refuse

def mapEntries (number : Nat) : Make (List (Value × Part)) := do
  let _ ← entriesAt number
  merge (Nat.pow ((← get).size + 2) 2) number
  (← entriesAt number).foldlM (fun es (key, value) => do
    let key ← keyOf (← partAt key)
    let value ← partAt value
    pure (Value.enter es key value)) []

/-- What the collection of a node holds. -/
def contentAt (number : Nat) : Make Content := do
  match ← nodeAt number with
  | .list .list items => do pure (.list (← items.mapM partAt))
  | .list .pairs items => do pure (.pairs (← items.mapM pairAt))
  | .list .orderedMap items => do pure (.pairs (← items.mapM pairAt))
  | .map .map _ => do pure (.map (← mapEntries number))
  | .map .set _ => do pure (.set ((← mapEntries number).map (·.1)))
  | _ => refuse

def fillAll : (fuel : Nat) → Make Unit
  | 0 => pure ()
  | fuel + 1 => do
    match (← get).waiting with
    | [] => pure ()
    | number :: rest =>
      modify fun m => { m with waiting := rest }
      let content ← contentAt number
      modify fun m => { m with contents := m.contents.set! number (some content) }
      fillAll fuel

/-! ### Values -/

/-- How often a collection can be met within itself: more often than configurations are nested. -/
def reach : Nat := 7

/-- The values of collections by number, as far as they are known. -/
abbrev Known := Array (Option Value)

/-- The value of a part. The value of a collection is made once; one that is met within itself has
the value that was known `before`. -/
def valueOf (contents : Array (Option Content)) (before : Known) :
    (fuel : Nat) → Part → StateM Known Value
  | _, .whole v => pure v
  | 0, .collection _ => pure .null
  | fuel + 1, .collection number => do
    match (← get)[number]! with
    | some v => pure v
    | none =>
      modify fun known => known.set! number (some (before[number]!.getD .null))
      let inner := valueOf contents before fuel
      let v ← match contents[number]! with
        | some (.list items) => do pure (Value.list (← items.mapM inner))
        | some (.pairs items) => do
          pure (Value.list (← items.mapM fun (k, v) => do pure (Value.list [← inner k, ← inner v])))
        | some (.set keys) => pure (Value.set keys)
        | some (.map entries) => do
          pure (Value.map (← entries.mapM fun (k, v) => do pure (k, ← inner v)))
        | none => pure Value.null
      modify fun known => known.set! number (some v)
      pure v

/-- The values of the collections in a part after some rounds, each of which knows those of the
round before. -/
def Making.known (m : Making) (part : Part) : (rounds : Nat) → Known
  | 0 => m.nodes.map fun _ => none
  | rounds + 1 =>
    let before := m.known part rounds
    (valueOf m.contents before (m.nodes.size + 1) part (m.nodes.map fun _ => none)).run.2

def Making.value (m : Making) (part : Part) : Value :=
  match part with
  | .whole v => v
  | .collection number => (m.known part (reach + 1))[number]!.getD .null

end Meaning

open Meaning in
def Document.value (d : Document) : Except Error Value := do
  let n := d.nodes.size
  let (part, m) ← (do
    let part ← partAt d.root
    fillAll (n + 1)
    pure part : Make Part).run { nodes := d.nodes }
  pure (m.value part)

end AlertRelay.Yaml
