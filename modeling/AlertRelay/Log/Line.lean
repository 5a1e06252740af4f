import AlertRelay.Json.Writer
import AlertRelay.Log.Setup
import AlertRelay.LogCall
import AlertRelay.Text.Lines

/-!
# Lines of the log

How one call of the log is written: as a JSON object whose keys keep their order, or for a console
with the keys sorted. A failure that is being handled is shown by its last line. `Root.write` gives
the lines that a log writes for a call.
-/

namespace AlertRelay.Log

abbrev Fields := List (String × Value)

/-- Where the kinds of failure have their home; the others need none. -/
def homes : List (String × List String) :=
  [("consul_alerting.notify.exceptions",
      ["NotificationError", "ResolutionError", "DeliveryError", "PagerDutyError", "ConsolePanic"]),
    ("aiohttp.client_exceptions",
      ["ClientError", "ClientConnectionError", "ClientOSError", "ClientConnectorError",
        "ClientResponseError", "ClientPayloadError", "ContentTypeError", "InvalidURL",
        "ServerConnectionError", "ServerDisconnectedError", "ServerTimeoutError"]),
    ("aiosmtplib.errors",
      ["SMTPException", "SMTPServerDisconnected", "SMTPConnectError", "SMTPTimeoutError",
        "SMTPConnectTimeoutError", "SMTPReadTimeoutError", "SMTPNotSupported",
        "SMTPConnectResponseError", "SMTPResponseException", "SMTPHeloError", "SMTPDataError",
        "SMTPAuthenticationError", "SMTPSenderRefused", "SMTPRecipientRefused",
        "SMTPRecipientsRefused"]),
    ("dns.exception", ["DNSException", "Timeout"]),
    ("dns.resolver", ["NXDOMAIN", "YXDOMAIN", "NoAnswer", "NoNameservers"]),
    ("dns.name", ["EmptyLabel", "LabelTooLong"])]

def fullKind (kind : String) : String :=
  match homes.find? (·.2.contains kind) with
  | some (home, _) => home ++ "." ++ kind
  | none => kind

def kindAndText : Failure → String × Text
  | .fault f => (f.kind, f.text)
  | .panic text => ("ConsolePanic", text)
  | .stop .null => ("SystemExit", [])
  | .stop code => ("SystemExit", code.display)

/-- The last line of a text that is trimmed as a whole. -/
def lastLine (t : Text) : Text := ((Text.lines (Text.strip t)).getLast?).getD []

/-- The last line of what is told of a failure. -/
def toldOf (f : Failure) : Text :=
  let (kind, text) := kindAndText f
  lastLine (if text.isEmpty then fullKind kind else fullKind kind ++ ": " ++ text)

structure Call where
  severity : Severity
  logger : String
  event : Text
  fields : Fields := []
  /-- The fields that the logger brings along. -/
  bound : Fields := []
  /-- The fields that the context brings along. -/
  context : Fields := []
  /-- The failure that is being handled. -/
  handled : Option Failure := none

/-- The names of fields that are consumed before a line is written: whether the failure that is
being handled is told, whether the stack is, and two that belong to the log itself. -/
def consumed : List String := ["exc_info", "stack_info", "_record", "_from_structlog"]

/-- The name of a logger on a line; the one without a name is the root of all. -/
def shownLogger (name : String) : String := if name.isEmpty then "root" else name

namespace Call

/-- Enters fields in order: each in its old place if it is there already, else at the end. -/
def enterAll (es : Fields) (new : Fields) : Fields :=
  new.foldl (fun es (name, v) => Config.enterName es name v) es

/-- The fields that the call brings along, in order; those of the context come last and only where
the call has none of the name. -/
def merged (c : Call) : Fields :=
  let es := enterAll (enterAll c.bound c.fields) [("event", .text c.event)]
  es ++ c.context.filter fun (name, _) => (es.lookup name).isNone

def entries (c : Call) (time : String) : Fields :=
  let es := enterAll c.merged
    [("logger", .text (shownLogger c.logger)), ("level", .text c.severity.name),
      ("timestamp", .text time)]
  es.filter fun (name, _) => !consumed.contains name

def told (c : Call) : Option Failure :=
  match c.merged.lookup "exc_info" with
  | some v => if v.isTruthy then c.handled else none
  | none => none

/-! ### The two formats -/

def json (c : Call) (time : String) : String :=
  let es := c.entries time
  let es := match c.told with
    | some f => Config.enterName es "exception" (.text (toldOf f))
    | none => es
  Json.write (.map (es.map fun (name, v) => (.text name, v)))

/-- A text made as long as a width by blanks. -/
def padded (width : Nat) (t : Text) : Text :=
  t ++ List.replicate (width - t.length) (.char ' ')

/-- Whether a character makes a text need quotes on the console. -/
def needsQuotes (c : Char) : Bool := c ∈ [' ', '\t', '=', '\r', '\n', '"', '\'']

def consoleValue : Value → Text
  | .text t => if t.any (·.is needsQuotes) then Text.quoted t else t
  | v => v.written

def consoleField (name : String) (v : Value) : Text := name ++ "=" ++ consoleValue v

/-- The columns at the head of a console line: the field without a name, the time, the level, the
event and the name of the logger. -/
def columns (es : Fields) : List Text :=
  let column (name : String) (form : Text → Text) : List Text :=
    (es.lookup name).toList.map fun v => form v.display
  let bracketed (t : Text) : Text := "[" ++ t ++ "]"
  (es.lookup "").toList.map (consoleField "") ++ column "timestamp" id
    ++ column "level" (fun t => bracketed (padded 9 t)) ++ column "event" (padded 30)
    ++ column "logger" bracketed ++ column "logger_name" bracketed

/-- The names of the columns, and of what is told below the line. -/
def columnNames : List String :=
  ["", "timestamp", "level", "event", "logger", "logger_name", "stack", "exception"]

def consoleHead (es : Fields) : Text :=
  let others := es.filter fun (name, _) => !columnNames.contains name
  let sorted := others.mergeSort fun a b => !decide (b.1 < a.1)
  let parts := (columns es ++ sorted.map fun (name, v) => consoleField name v).filter (!·.isEmpty)
  Text.trimEnd (· == .char ' ') (Text.joinWith [.char ' '] parts)

/-- The text of a field that is told below the line; none if it is no text. -/
def below? (es : Fields) (name : String) : Option (Option Text) :=
  match es.lookup name with
  | none => some none
  | some .null => some none
  | some (.text t) => some (some t)
  | some _ => none

/-- What a console shows of a call: its line, and below it a stack and an exception that its fields
hold. Nothing is shown if one of them is no text. -/
def console (c : Call) (time : String) : Option Text := do
  let es := c.entries time
  let stack ← below? es "stack"
  let exception ← if c.told.isSome then some none else below? es "exception"
  let rule := Text.ofChars (List.replicate 79 '=')
  let stackText : Text := match stack with
    | some t => "\n" ++ t ++ (if exception.isSome then "\n\n" ++ rule ++ "\n" else "")
    | none => []
  let exceptionText : Text := match exception with
    | some t => "\n" ++ t
    | none => []
  some (consoleHead es ++ stackText ++ exceptionText)

def lines (c : Call) (format : Format) (time : String) : List Text :=
  match format with
  | .json => [c.json time]
  | .console => ((c.console time).map Text.lines).getD []

/-- The fault of a call that brings along, as a field, what the log itself keeps there. -/
def fault? (c : Call) : Option Fault :=
  match c.merged.lookup "_record" with
  | none => none
  | some .null => none
  | some v =>
    some ⟨"AttributeError", Text.quoted v.kindName ++ " object has no attribute 'name'"⟩

end Call

/-- The lines that a log writes for a call: none below its level. -/
def Root.write (root : Root) (c : Call) (time : String) : Except Fault (List Text) :=
  if root.level ≤ c.severity.rank then
    match c.fault? with
    | some f => .error f
    | none => .ok (root.writers.flatMap fun writer => c.lines writer.format time)
  else .ok []

def Call.ofLogCall (l : LogCall) : Call :=
  let mark : Fields := if l.raised.isSome then [("exc_info", .bool true)] else []
  { severity := l.severity, logger := l.logger.name, event := l.event, fields := l.fields ++ mark,
    handled := l.raised }

end AlertRelay.Log
