import AlertRelay.Alert
import AlertRelay.Text.Blank
import AlertRelay.Text.Digit
import AlertRelay.Text.Lines
import AlertRelay.Text.Quoted

/-!
# Options of the command

The command takes options with one argument each, which follows or is attached with an equals sign.
An option may be shortened as long as only one option starts that way. What starts with a dash is an
option unless it is a negative number or holds a blank; after two dashes alone nothing is.
-/

namespace AlertRelay.Command

structure Options where
  config : Option String := none
  logLevel : Option String := none
  datacenter : Option String := none
  node : String
  service : String := ""
  tag : String := ""
  status : String := "critical"
  message : String
  details : String := ""
  deriving DecidableEq

inductive Switch where
  | config
  | logLevel
  | datacenter
  | node
  | service
  | tag
  | status
  | message
  | details
  deriving DecidableEq

def Switch.name : Switch → String
  | config => "--config"
  | logLevel => "--log-level"
  | datacenter => "--datacenter"
  | node => "--node"
  | service => "--service"
  | tag => "--tag"
  | status => "--status"
  | message => "--message"
  | details => "--details"

/-- Every option with an argument, in the order in which they are listed. -/
def Switch.all : List Switch :=
  [config, logLevel, datacenter, node, service, tag, status, message, details]

inductive UsageError where
  | ambiguous (word : String) (names : List String)
  | expectedArgument (s : Switch)
  | ignoredArgument (text : String)
  | invalidStatus (text : String)
  | required (missing : List Switch)
  | unrecognized (words : List String)
  deriving DecidableEq

/-- The names of the statuses that can be chosen. -/
def statusNames : List String := HealthStatus.all.map HealthStatus.name

def UsageError.message : UsageError → String
  | ambiguous word names =>
    "ambiguous option: " ++ word ++ " could match " ++ String.intercalate ", " names
  | expectedArgument s => "argument " ++ s.name ++ ": expected one argument"
  | ignoredArgument text =>
    "argument -h/--help: ignored explicit argument " ++ Text.quoted text
  | invalidStatus text =>
    "argument --status: invalid choice: " ++ Text.quoted text ++ " (choose from " ++
      String.intercalate ", " (statusNames.map fun s => Text.quoted (Text.ofString s)) ++ ")"
  | required missing =>
    "the following arguments are required: " ++ String.intercalate ", " (missing.map Switch.name)
  | unrecognized words => "unrecognized arguments: " ++ String.intercalate " " words

/-! ### Words -/

inductive Word where
  | argument (s : String)
  /-- Two dashes alone, after which no word is an option. -/
  | separator
  | unknown (s : String)
  | switch (s : Switch) (attached : Option String)
  | help (attached : Option String)
  /-- The short form of help with letters after it, or after an equals sign behind it. -/
  | helpLetters (letters : String)

/-- The names of all options that start with a text. -/
def namesFrom (start : String) : List String :=
  ("--help" :: Switch.all.map Switch.name).filter fun name => start.toList.isPrefixOf name.toList

/-- A word cut at its first equals sign: what stands before it, and what after it if there is
one. -/
def cutAtSign (word : String) : String × Option String :=
  let cs := word.toList
  let name := cs.takeWhile (· != '=')
  (String.ofList name,
    match cs.drop name.length with
    | [] => none
    | _ :: rest => some (String.ofList rest))

def ofName? (name : String) (attached : Option String) : Option Word :=
  if name = "--help" then some (.help attached)
  else (Switch.all.find? (·.name == name)).map fun s => .switch s attached

/-- Whether a word is a negative number: digits of any script, or digits with a point before at
least one. A line feed may end it. -/
def isNegativeNumber (word : String) : Bool :=
  match word.toList with
  | '-' :: cs =>
    let cs := if cs.getLast? = some '\n' then cs.dropLast else cs
    match cs.dropWhile Text.isDigit with
    | [] => !cs.isEmpty
    | '.' :: rest => !rest.isEmpty && rest.all Text.isDigit
    | _ => false
  | _ => false

/-- What a word that starts with a dash and names no option is. -/
def otherWord (word : String) : Word :=
  if isNegativeNumber word || ' ' ∈ word.toList then .argument word else .unknown word

/-- What a word that starts with two dashes is. -/
def longWord (word : String) : Except UsageError Word :=
  let (name, attached) := cutAtSign word
  match ofName? name attached with
  | some w => .ok w
  | none =>
    match namesFrom name with
    | [] => .ok (otherWord word)
    | [full] => .ok ((ofName? full attached).getD (.unknown word))
    | names => .error (.ambiguous word names)

/-- What a word is, if no two dashes stand before it. -/
def readWord (word : String) : Except UsageError Word :=
  match word.toList with
  | ['-'] => .ok (.argument word)
  | ['-', 'h'] => .ok (.help none)
  | '-' :: 'h' :: '=' :: rest => .ok (.helpLetters (String.ofList rest))
  | '-' :: 'h' :: rest => .ok (.helpLetters (String.ofList rest))
  | '-' :: '-' :: _ => longWord word
  | '-' :: _ => .ok (otherWord word)
  | _ => .ok (.argument word)

def readWords : List String → Except UsageError (List Word)
  | [] => .ok []
  | "--" :: rest => .ok (.separator :: rest.map .argument)
  | word :: rest => do
    let w ← readWord word
    let ws ← readWords rest
    .ok (w :: ws)

/-! ### The whole command line -/

inductive Request where
  | help
  | run (o : Options)
  deriving DecidableEq

/-- What is known after some words: the arguments given so far, the last one first, and the words
that belong nowhere. -/
structure Draft where
  given : List (Switch × String) := []
  stray : List String := []

namespace Draft

/-- Notes the argument of an option; a status must be one of those that can be chosen. -/
def set (d : Draft) (s : Switch) (text : String) : Except UsageError Draft :=
  if s = .status && !statusNames.contains text then .error (.invalidStatus text)
  else .ok { d with given := (s, text) :: d.given }

/-- Notes a word that belongs nowhere. -/
def addStray (d : Draft) (word : String) : Draft := { d with stray := d.stray ++ [word] }

def get? (d : Draft) (s : Switch) : Option String := d.given.lookup s

def finish (d : Draft) : Except UsageError Options :=
  match d.get? .node, d.get? .message with
  | some node, some message =>
    if d.stray.isEmpty then
      .ok
        { config := d.get? .config
          logLevel := d.get? .logLevel
          datacenter := d.get? .datacenter
          node := node
          service := (d.get? .service).getD ""
          tag := (d.get? .tag).getD ""
          status := (d.get? .status).getD "critical"
          message := message
          details := (d.get? .details).getD "" }
    else .error (.unrecognized d.stray)
  | _, _ => .error (.required ([.node, .message].filter fun s => (d.get? s).isNone))

end Draft

/-- Whether the letters after the short form of help only ask for help again; anything else is an
argument, which help does not take. -/
def checkLetters : List Char → Except UsageError Unit
  | [] => .error (.ignoredArgument "")
  | ['h'] => .ok ()
  | 'h' :: cs => checkLetters cs
  | cs => .error (.ignoredArgument (String.ofList cs))

/-- Reads words in order; nothing is left to ask for once help is. -/
def readFrom (d : Draft) : List Word → Except UsageError Request
  | [] => d.finish.map .run
  | .argument s :: rest => readFrom (d.addStray s) rest
  | .separator :: rest => readFrom (d.addStray "--") rest
  | .unknown s :: rest => readFrom (d.addStray s) rest
  | .help none :: _ => .ok .help
  | .help (some text) :: _ => .error (.ignoredArgument text)
  | .helpLetters letters :: _ => do
    checkLetters letters.toList
    .ok .help
  | .switch s (some text) :: rest => do readFrom (← d.set s text) rest
  | .switch s none :: .argument text :: rest => do readFrom (← d.set s text) rest
  | .switch s none :: _ => .error (.expectedArgument s)

def Request.ofArguments (arguments : List String) : Except UsageError Request := do
  readFrom {} (← readWords arguments)

end AlertRelay.Command
