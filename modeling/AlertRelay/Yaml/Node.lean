import AlertRelay.Yaml.Tag
import AlertRelay.Yaml.Token

/-!
# Nodes of a document

What the tokens of a document form: scalars, lists and maps, each of a kind. The nodes are numbered
in the order in which they begin, and a collection holds the numbers of its parts, so that an alias
is the number of the node of its name, even within that very node.

The reading functions take a bound on the number of steps that is computed from the number of
tokens, since every other step takes one. Where the tokens end in an error, it is the error of the
document as soon as the reading asks for what follows them; what is wrong before counts first.
-/

namespace AlertRelay.Yaml

/-- The fault of a document in which too many values lie within one another. -/
def depthFault : Fault := ⟨"RecursionError", "maximum recursion depth exceeded"⟩

/-- A node of a document; its parts are known by number. -/
inductive Node where
  | scalar (tag : Tag) (s : Scalar)
  | list (tag : Tag) (items : List Nat)
  | map (tag : Tag) (entries : List (Nat × Nat))

instance : Inhabited Node := ⟨.list .list []⟩

def Node.tag : Node → Tag
  | scalar tag _ => tag
  | list tag _ => tag
  | map tag _ => tag

def Node.withTag (tag : Tag) : Node → Node
  | scalar _ s => scalar tag s
  | list _ items => list tag items
  | map _ entries => map tag entries

structure Document where
  nodes : Array Node
  root : Nat

namespace Document

/-- What is read so far: the tokens that are left with the error after them, the nodes that have
begun, the names that were given to nodes, and the number of collections around the place that is
reached. -/
structure Reading where
  tokens : List Token
  error : Option Error
  nodes : Array Node := #[]
  names : List (String × Nat) := []
  depth : Nat := 0

abbrev Read := StateT Reading (Except Error)

def refuse {α : Type} : Read α := throw .malformed

def peek : Read (Option Token) := do
  match (← get).tokens, (← get).error with
  | t :: _, _ => pure (some t)
  | [], some e => throw e
  | [], none => pure none

def pass : Read Unit := modify fun r => { r with tokens := r.tokens.drop 1 }

def add (n : Node) : Read Nat := do
  let number := (← get).nodes.size
  modify fun r => { r with nodes := r.nodes.push n }
  pure number

def complete (number : Nat) (n : Node) : Read Unit :=
  modify fun r => { r with nodes := r.nodes.set! number n }

/-! ### Nesting -/

/-- How many collections may lie within one another. -/
def depthLimit : Nat := 490

def within {α : Type} (parts : Read α) : Read α := do
  let depth := (← get).depth
  if depth = depthLimit then throw (.invalid depthFault)
  modify fun r => { r with depth := depth + 1 }
  let read ← parts
  modify fun r => { r with depth := depth }
  pure read

/-! ### Properties -/

abbrev Handles := List (String × String)

def defaultHandles : Handles := [("!", "!"), ("!!", Tag.base)]

/-- What stands before a node: its name, and the full name of its tag. -/
structure Properties where
  anchor : Option String := none
  tag : Option String := none

def fullName (handles : Handles) (handle : Option String) (suffix : String) : Read String :=
  match handle with
  | none => pure suffix
  | some handle =>
    match handles.lookup handle with
    | some base => pure (base ++ suffix)
    | none => refuse

def takeAnchor : Read (Option String) := do
  match ← peek with
  | some (.anchor name) =>
    pass
    pure (some name)
  | _ => pure none

def takeTag : Read (Option (Option String × String)) := do
  match ← peek with
  | some (.tag handle suffix) =>
    pass
    pure (some (handle, suffix))
  | _ => pure none

def takeProperties (handles : Handles) : Read Properties := do
  let anchor ← takeAnchor
  let tag ← takeTag
  let anchor ← if anchor.isNone && tag.isSome then takeAnchor else pure anchor
  match tag with
  | some (handle, suffix) => pure ⟨anchor, some (← fullName handles handle suffix)⟩
  | none => pure ⟨anchor, none⟩

/-- The kind of a scalar: its form decides if it is plain, or if its tag is a mere exclamation
mark. -/
def scalarTag (tag : Option String) (s : Scalar) : Tag :=
  match tag with
  | none => if s.isPlain then Tag.ofForm s.text else .text
  | some "!" => Tag.ofForm s.text
  | some name => Tag.ofName name

def collectionTag (tag : Option String) (default : Tag) : Tag :=
  match tag with
  | none => default
  | some "!" => default
  | some name => Tag.ofName name

def begin (p : Properties) (n : Node) : Read Nat := do
  match p.anchor with
  | none => add n
  | some name =>
    if ((← get).names.lookup name).isSome then refuse
    else
      let number ← add n
      modify fun r => { r with names := (name, number) :: r.names }
      pure number

def beginScalar (p : Properties) (s : Scalar) : Read Nat := begin p (.scalar (scalarTag p.tag s) s)

/-- A node for a place where nothing stands. -/
def emptyNode : Read Nat := beginScalar {} ⟨[], true⟩

/-- A node of which only the properties stand. -/
def ofProperties (p : Properties) : Read Nat :=
  if p.anchor.isNone && p.tag.isNone then refuse else beginScalar p ⟨[], true⟩

inductive Place where
  /-- In a flow collection, where no block can stand. -/
  | flow
  /-- In a block. -/
  | block
  /-- In a map that is a block, where a list needs no indentation. -/
  | blockEntry
  deriving DecidableEq

/-! ### Which tokens leave a place empty -/

/-- Whether the entry of a list that is a block is empty. -/
def isEmptyItem : Option Token → Bool
  | some .blockEntry => true
  | some .blockEnd => true
  | _ => false

/-- Whether the key or value of a map that is a block is empty. -/
def isEmptyPart : Option Token → Bool
  | some .key => true
  | some .value => true
  | some .blockEnd => true
  | _ => false

/-- Whether the entry of a list without indentation is empty. -/
def isEmptyFlushItem (t : Option Token) : Bool := isEmptyItem t || isEmptyPart t

def isEmptyFlowValue : Option Token → Bool
  | some .flowEntry => true
  | some .flowListEnd => true
  | some .flowMapEnd => true
  | _ => false

def isEmptyFlowKey : Option Token → Bool
  | some .value => true
  | t => isEmptyFlowValue t

/-! ### Reading -/

/-- Passes over the comma before every entry of a flow collection but the first. -/
def passComma (isFirst : Bool) : Read Unit := do
  if !isFirst then
    match ← peek with
    | some .flowEntry => pass
    | _ => refuse

def takeList (p : Properties) (items : Read (List Nat)) : Read Nat := do
  let tag := collectionTag p.tag .list
  let number ← begin p (.list tag [])
  complete number (.list tag (← within items))
  pure number

def takeMap (p : Properties) (entries : Read (List (Nat × Nat))) : Read Nat := do
  let tag := collectionTag p.tag .map
  let number ← begin p (.map tag [])
  complete number (.map tag (← within entries))
  pure number

mutual

def take (handles : Handles) (place : Place) : (fuel : Nat) → Read Nat
  | 0 => refuse
  | fuel + 1 => do
    match ← peek with
    | some (.alias name) =>
      pass
      match (← get).names.lookup name with
      | some number => pure number
      | none => refuse
    | _ => takeContent handles place (← takeProperties handles) fuel

/-- The number of the node after its properties. -/
def takeContent (handles : Handles) (place : Place) (p : Properties) : (fuel : Nat) → Read Nat
  | 0 => refuse
  | fuel + 1 => do
    match ← peek with
    | some (.scalar s) =>
      pass
      beginScalar p s
    | some .flowListStart =>
      pass
      takeList p (takeFlowItems handles true fuel)
    | some .flowMapStart =>
      pass
      takeMap p (takeFlowEntries handles true fuel)
    | some .blockListStart =>
      if place = .flow then ofProperties p
      else
        pass
        takeList p (takeItems handles fuel)
    | some .blockMapStart =>
      if place = .flow then ofProperties p
      else
        pass
        takeMap p (takeEntries handles fuel)
    | some .blockEntry =>
      if place = .blockEntry then takeList p (takeFlushItems handles fuel) else ofProperties p
    | _ => ofProperties p

/-- The number of the next node, or of an empty one where nothing stands. -/
def takeUnless (handles : Handles) (place : Place) (isEmpty : Option Token → Bool) :
    (fuel : Nat) → Read Nat
  | 0 => refuse
  | fuel + 1 => do if isEmpty (← peek) then emptyNode else take handles place fuel

def takeItems (handles : Handles) : (fuel : Nat) → Read (List Nat)
  | 0 => refuse
  | fuel + 1 => do
    match ← peek with
    | some .blockEntry =>
      pass
      let n ← takeUnless handles .block isEmptyItem fuel
      let ns ← takeItems handles fuel
      pure (n :: ns)
    | some .blockEnd =>
      pass
      pure []
    | _ => refuse

def takeFlushItems (handles : Handles) : (fuel : Nat) → Read (List Nat)
  | 0 => refuse
  | fuel + 1 => do
    match ← peek with
    | some .blockEntry =>
      pass
      let n ← takeUnless handles .block isEmptyFlushItem fuel
      let ns ← takeFlushItems handles fuel
      pure (n :: ns)
    | _ => pure []

def takeEntries (handles : Handles) : (fuel : Nat) → Read (List (Nat × Nat))
  | 0 => refuse
  | fuel + 1 => do
    match ← peek with
    | some .key =>
      pass
      let k ← takeUnless handles .blockEntry isEmptyPart fuel
      let v ← takeBlockValue handles fuel
      let es ← takeEntries handles fuel
      pure ((k, v) :: es)
    | some .blockEnd =>
      pass
      pure []
    | _ => refuse

def takeBlockValue (handles : Handles) : (fuel : Nat) → Read Nat
  | 0 => refuse
  | fuel + 1 => do
    match ← peek with
    | some .value =>
      pass
      takeUnless handles .blockEntry isEmptyPart fuel
    | _ => emptyNode

def takeFlowValue (handles : Handles) : (fuel : Nat) → Read Nat
  | 0 => refuse
  | fuel + 1 => do
    match ← peek with
    | some .value =>
      pass
      takeUnless handles .flow isEmptyFlowValue fuel
    | _ => emptyNode

def takeFlowItems (handles : Handles) (isFirst : Bool) : (fuel : Nat) → Read (List Nat)
  | 0 => refuse
  | fuel + 1 => do
    match ← peek with
    | some .flowListEnd =>
      pass
      pure []
    | _ =>
      passComma isFirst
      match ← peek with
      | some .flowListEnd =>
        pass
        pure []
      | some .key =>
        pass
        let number ← add (.map .map [])
        let entry ← within do
          let k ← takeUnless handles .flow isEmptyFlowKey fuel
          let v ← takeFlowValue handles fuel
          pure (k, v)
        complete number (.map .map [entry])
        let ns ← takeFlowItems handles false fuel
        pure (number :: ns)
      | _ =>
        let n ← take handles .flow fuel
        let ns ← takeFlowItems handles false fuel
        pure (n :: ns)

def takeFlowEntries (handles : Handles) (isFirst : Bool) : (fuel : Nat) → Read (List (Nat × Nat))
  | 0 => refuse
  | fuel + 1 => do
    match ← peek with
    | some .flowMapEnd =>
      pass
      pure []
    | _ =>
      passComma isFirst
      match ← peek with
      | some .flowMapEnd =>
        pass
        pure []
      | some .key =>
        pass
        let k ← takeUnless handles .flow isEmptyFlowKey fuel
        let v ← takeFlowValue handles fuel
        let es ← takeFlowEntries handles false fuel
        pure ((k, v) :: es)
      | _ =>
        let k ← take handles .flow fuel
        let v ← emptyNode
        let es ← takeFlowEntries handles false fuel
        pure ((k, v) :: es)

end

/-! ### Documents -/

/-- The directives before a document: whether there is a version, and the handles; no version may be
given twice, no handle explained twice, and the version is one of the first. -/
def takeDirectives (hasVersion : Bool) (handles : Handles) : (fuel : Nat) → Read Handles
  | 0 => refuse
  | fuel + 1 => do
    match ← peek with
    | some (.directive (.version major)) =>
      pass
      if hasVersion || major != 1 then refuse else takeDirectives true handles fuel
    | some (.directive (.tag handle base)) =>
      pass
      if (handles.lookup handle).isSome then refuse
      else takeDirectives hasVersion ((handle, base) :: handles) fuel
    | some (.directive .reserved) =>
      pass
      takeDirectives hasVersion handles fuel
    | _ => pure (handles ++ defaultHandles)

def isEmptyDocument : Option Token → Bool
  | none => true
  | some (.directive _) => true
  | some .documentStart => true
  | some .documentEnd => true
  | _ => false

def hasStart : Token → Bool
  | .directive _ => true
  | .documentStart => true
  | _ => false

/-- Passes over the marks of the end of a document, after which nothing may follow. -/
def passEnd : (fuel : Nat) → Read Unit
  | 0 => refuse
  | fuel + 1 => do
    match ← peek with
    | none => pure ()
    | some .documentEnd =>
      pass
      passEnd fuel
    | _ => refuse

/-- The number of the outermost node of the only document, if there is one. -/
def takeDocument (fuel : Nat) : Read (Option Nat) := do
  match ← peek with
  | none => pure none
  | some t =>
    let root ←
      if hasStart t then do
        let handles ← takeDirectives false [] fuel
        match ← peek with
        | some .documentStart =>
          pass
          takeUnless handles .block isEmptyDocument fuel
        | _ => refuse
      else take defaultHandles .block fuel
    passEnd fuel
    pure (some root)

/-- The only document that tokens form, if there is one. -/
def ofTokens (ts : Tokens) : Except Error (Option Document) := do
  let (root, reading) ←
    takeDocument (8 * ts.list.length + 8) { tokens := ts.list, error := ts.error }
  pure (root.map fun root => ⟨reading.nodes, root⟩)

end Document

end AlertRelay.Yaml
