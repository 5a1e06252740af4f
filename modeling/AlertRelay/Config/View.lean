import AlertRelay.Config.Settings

/-!
# Records as they are shown

`View` is a record with its field names, as it is printed for a person or handed to another program.
A secret shows whether it is set and nothing else. A view can be changed field by field: the options
of a channel and an alert are fixed once they are built; other records take any value for a field
they have.
-/

namespace AlertRelay

open Config

inductive View where
  | plain (v : Value)
  | secret (s : Text)
  | status (s : HealthStatus)
  | items (vs : List View)
  | entries (es : List (Text × View))
  | record (name : String) (fixed : Bool) (fields : List (String × View))

namespace View

def text (s : Text) : View := plain (.text s)

def count (n : Nat) : View := plain (.int n)

def texts (ss : List Text) : View := plain (.list (ss.map .text))

/-- Whether a field is not shown: its name begins with an underscore. -/
def isHidden (name : String) : Bool := name.toList.head? == some '_'

/-- The written form of a secret: only whether there is one. -/
def writtenSecret (s : Text) : String :=
  "SecretStr(" ++ Text.quoted (if s.isEmpty then "" else "**********") ++ ")"

mutual

def written : View → String
  | plain v => v.written
  | secret s => writtenSecret s
  | status s => "<HealthStatus." ++ s.symbol ++ ": " ++ Text.quoted s.name ++ ">"
  | items vs => "[" ++ commaSeparated (writtenItems vs) ++ "]"
  | entries es => "\x7b" ++ commaSeparated (writtenEntries es) ++ "\x7d"
  | record name _ fields => name ++ "(" ++ commaSeparated (writtenFields fields) ++ ")"

def writtenItems : List View → List String
  | [] => []
  | v :: vs => v.written :: writtenItems vs

def writtenEntries : List (Text × View) → List String
  | [] => []
  | (k, v) :: es => (Text.quoted k ++ ": " ++ v.written) :: writtenEntries es

def writtenFields : List (String × View) → List String
  | [] => []
  | (k, v) :: es =>
    if isHidden k then writtenFields es else (k ++ "=" ++ v.written) :: writtenFields es

end

/-! ### Changing a view -/

inductive PathError where
  | noPart (owner name : String)
  | noKey (name : String)

inductive ChangeError where
  | rejected (r : Rejection)
  | noField (record name : String)
  | noPart (owner name : String)
  | fixedPart (owner name : String)

def kindName : View → String
  | plain v => v.kindName
  | secret _ => "SecretStr"
  | status _ => "HealthStatus"
  | items _ => "list"
  | entries _ => "dict"
  | record name _ _ => name

/-- The parts that every value of a kind has and that cannot be changed. -/
def fixedParts (kind : String) : List String :=
  match kind with
  | "dict" =>
    ["clear", "copy", "fromkeys", "get", "items", "keys", "pop", "popitem", "setdefault", "update",
      "values"]
  | "list" =>
    ["append", "clear", "copy", "count", "extend", "index", "insert", "pop", "remove", "reverse",
      "sort"]
  | "str" =>
    ["capitalize", "casefold", "center", "count", "encode", "endswith", "expandtabs", "find",
      "format", "format_map", "index", "isalnum", "isalpha", "isascii", "isdecimal", "isdigit",
      "isidentifier", "islower", "isnumeric", "isprintable", "isspace", "istitle", "isupper",
      "join", "ljust", "lower", "lstrip", "maketrans", "partition", "removeprefix", "removesuffix",
      "replace", "rfind", "rindex", "rjust", "rpartition", "rsplit", "rstrip", "split",
      "splitlines", "startswith", "strip", "swapcase", "title", "translate", "upper", "zfill"]
  | _ => []

/-- Replaces the view under a name that is present. -/
def replace {ν : Type} [DecidableEq ν] (name : ν) (v : View) : List (ν × View) → List (ν × View)
  | [] => []
  | (n, w) :: rest => if n = name then (n, v) :: rest else (n, w) :: replace name v rest

/-- Changes the part of a view under a name. A record takes any value for a field that it has, and
for one that is not shown whether it has it or not; a fixed record refuses every other change. Only
records and secrets have parts that can be changed. -/
def assignPart (v : View) (name : String) (new : Value) : Except ChangeError View :=
  match v with
  | record title fixed fields =>
    if isHidden name then .ok (record title fixed (enterName fields name (plain new)))
    else if fixed then .error (.rejected ⟨title, [⟨[.name name], .frozen⟩]⟩)
    else if (fields.lookup name).isSome then
      .ok (record title fixed (replace name (plain new) fields))
    else .error (.noField title name)
  | secret s => .ok (secret s)
  | status s => .ok (status s)
  | v =>
    if name ∈ fixedParts v.kindName then .error (.fixedPart v.kindName name)
    else .error (.noPart v.kindName name)

/-- Changes the part of a view at a path, whose last name is that of the part. -/
def assign (v : View) (path : List String) (new : Value) :
    Except PathError (Except ChangeError View) :=
  match path, v with
  | [], v => .ok (.ok v)
  | [name], v => .ok (v.assignPart name new)
  | name :: more, record title fixed fields =>
    match fields.lookup name with
    | none => .error (.noPart title name)
    | some part => (part.assign more new).map fun changed =>
      changed.map fun part => record title fixed (replace name part fields)
  | name :: more, entries es =>
    match es.lookup (Text.ofString name) with
    | none => .error (.noKey name)
    | some part => (part.assign more new).map fun changed =>
      changed.map fun part => entries (replace (Text.ofString name) part es)
  | name :: more, plain (.map es) =>
    match Value.lookup? es name with
    | none => .error (.noKey name)
    | some part => ((plain part).assign more new).map fun changed =>
      changed.map fun
        | plain value => plain (.map (Value.enter es (.text name) value))
        | _ => plain (.map es)
  | name :: _, v => .error (.noPart v.kindName name)
termination_by path.length

end View

/-! ### The views of the records -/

def Alert.view (a : Alert) : View :=
  .record "AlertState" true
    [("node", .text a.node), ("service", .text a.service), ("tag", .text a.tag),
      ("status", .status a.status), ("message", .text a.message), ("details", .text a.details)]

def ConsoleConfig.view (c : ConsoleConfig) : View :=
  .record "ConsoleConfig" true [("log_level", .text c.logLevel)]

def EmailConfig.view (c : EmailConfig) : View :=
  .record "EmailConfig" true
    [("recipients", .texts c.recipients), ("max_retries", .count c.maxRetries)]

def PagerDutyConfig.view (c : PagerDutyConfig) : View :=
  .record "PagerDutyConfig" true
    [("service_key", .secret c.serviceKey), ("max_retries", .count c.maxRetries)]

def SlackConfig.view (c : SlackConfig) : View :=
  .record "SlackConfig" true
    [("api_token", .secret c.apiToken), ("channel_name", .text c.channelName),
      ("max_retries", .count c.maxRetries)]

def HandlersConfig.view (c : HandlersConfig) : View :=
  .record "HandlersConfig" false
    [("stdout", .entries (c.stdout.map fun (n, h) => (n, h.view))),
      ("email", .entries (c.email.map fun (n, h) => (n, h.view))),
      ("pagerduty", .entries (c.pagerduty.map fun (n, h) => (n, h.view))),
      ("slack", .entries (c.slack.map fun (n, h) => (n, h.view)))]

def DispatchConfig.view (c : DispatchConfig) : View :=
  .record "DispatchConfig" false
    [("concurrent", .plain (.bool c.concurrent)),
      ("retry_delay_secs", .plain (.float c.retryDelaySecs))]

def LoggingConfig.view (c : LoggingConfig) : View :=
  .record "LoggingConfig" false [("level", .text c.level), ("format", .text c.format)]

def Settings.view (s : Settings) : View :=
  .record "Settings" false
    [("datacenter", .text s.datacenter), ("handlers", s.handlers.view),
      ("dispatch", s.dispatch.view), ("logging", s.logging.view)]

end AlertRelay
