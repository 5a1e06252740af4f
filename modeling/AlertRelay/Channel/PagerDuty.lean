import AlertRelay.Handler
import AlertRelay.Retry
import AlertRelay.Config.Settings
import AlertRelay.Json.Reader

/-!
# The PagerDuty channel

Opens an incident for an alert of trouble and ends it once the same entity reports health. Failures
of transport, limits of rate and faults of the server are retried; every other reply is final and
tells what was wrong with the event.
-/

namespace AlertRelay.PagerDuty

def eventsUrl : String := "https://events.pagerduty.com/generic/2010-04-15/create_event.json"

def clientName : String := "consul-alerting"

/-- How long a post may take, in seconds. -/
def postTimeout : Seconds := .fraction 10.0

/-! ### Replies -/

/-- A reply to an event, read. It is a success if it names no error. -/
structure Response where
  status : Text := []
  message : Text := []
  incidentKey : Text := []
  httpStatus : Int := 0
  attempts : Nat := 0
  errors : List Text := []
  deriving DecidableEq

def Response.ok (r : Response) : Bool := r.errors.isEmpty

def entry (body : List (Value × Value)) (name : String) : Value :=
  (Value.lookup? body name).getD .null

/-- The text of an entry; one that counts as nothing has none. -/
def entryText (body : List (Value × Value)) (name : String) : Text :=
  let v := entry body name
  if v.isTruthy then v.display else ""

def itemTexts : Value → Except Fault (List Text)
  | .text s => .ok (s.map fun c => [c])
  | .bytes bs => .ok (bs.map fun b => Text.ofString (toString b.toNat))
  | .list vs => .ok (vs.map Value.display)
  | .set vs => .ok (vs.map Value.display)
  | .map es => .ok (es.map fun e => e.1.display)
  | v => .error ⟨"TypeError", Text.quoted v.kindName ++ " object is not iterable"⟩

/-- Reads the body of a final reply. A reply other than 200 that names no error has one: its message
or its status. -/
def parseResponse (httpStatus : Int) (body : List (Value × Value)) : Except Fault Response := do
  let reported := entry body "errors"
  let errors ← if reported.isTruthy then itemTexts reported else .ok []
  let message := entryText body "message"
  let errors : List Text :=
    if httpStatus ≠ 200 ∧ errors.isEmpty then
      [if message.isEmpty then ("HTTP " ++ toString httpStatus : String) else message]
    else errors
  .ok ⟨entryText body "status", message, entryText body "incident_key", httpStatus, 0, errors⟩

/-- The fault of a body in which too many values lie within one another. -/
def depthFault (isObject : Bool) : Fault :=
  ⟨"RecursionError", "maximum recursion depth exceeded while decoding a JSON " ++
    (if isObject then "object" else "array") ++ " from a unicode string"⟩

/-- The entries of a body that may be nested up to a limit: those of a JSON object, none for other
JSON or no text, and the beginning of other text as a message. -/
def bodyEntries (depthLimit : Nat) (body : String) : Except Fault (List (Value × Value)) :=
  let stripped := Text.trim Text.isAsciiBlank body.toList
  if stripped.isEmpty then .ok []
  else
    match Json.read depthLimit (String.ofList stripped) with
    | .ok (.map es) => .ok es
    | .ok _ => .ok []
    | .error .malformed => .ok [(.text "message", .text (Text.ofChars (body.toList.take 200)))]
    | .error (.tooDeep isObject) => .error (depthFault isObject)

/-- Whether a status asks for another attempt: the limits of rate, and faults of the server. -/
def isTransient (status : Int) : Bool := status == 403 || status == 429 || 500 ≤ status

/-- The fault of a reply that asks for another attempt. -/
def transientFault (status : Int) (body : List (Value × Value)) : Fault :=
  let message := entry body "message"
  let reason : Text := if message.isTruthy then message.display else "unavailable"
  ⟨"PagerDutyError", "HTTP " ++ toString status ++ ": " ++ reason⟩

def readReply (reply : HttpReply) : Except Failure Response :=
  match reply.unreadable with
  | some f => .error f
  | none =>
    match bodyEntries reply.depthLimit reply.body with
    | .error f => .error (.fault f)
    | .ok body =>
      if isTransient reply.status then .error (.fault (transientFault reply.status body))
      else (parseResponse reply.status body).mapError .fault

/-! ### The client -/

/-- A client of the service: its key, where it posts, and the slot of its session. -/
structure Client where
  serviceKey : Text
  retry : RetryPolicy
  url : Text := eventsUrl
  timeout : Seconds := postTimeout
  logger : Logger := .pagerduty
  slot : Nat := 0

namespace Client

def postOnce (c : Client) (e : IncidentEvent) : Program Response := do
  let session ← Program.acquire c.slot c.timeout
  let reply ← Program.post session c.url (.event e)
  Program.ofExcept (readReply reply)

def postEvent (c : Client) (e : IncidentEvent) : Program Response := do
  let context := [("event_type", .text e.kind.name), ("incident_key", .text e.incidentKey)]
  let result ← c.retry.run ⟨c.logger, "pagerduty_request", context⟩ fun _ => c.postOnce e
  match result.value with
  | some response => pure { response with attempts := result.attempts }
  | none => pure { status := "failed", attempts := result.attempts, errors := result.errors }

def trigger (c : Client) (key description details client clientUrl : Text) : Program Response :=
  c.postEvent ⟨c.serviceKey, .trigger, key, description, details, some client,
    if clientUrl.isEmpty then none else some clientUrl⟩

def resolve (c : Client) (key description details : Text) : Program Response :=
  c.postEvent ⟨c.serviceKey, .resolve, key, description, details, none, none⟩

def close (c : Client) : Program Unit := Program.release c.slot

end Client

/-! ### Delivery -/

def Client.ofConfig (c : PagerDutyConfig) (delay : Seconds) (logger : Logger) (slot : Nat) :
    Except Fault Client := do
  let retry ← RetryPolicy.ofNumbers c.maxRetries delay
  .ok { serviceKey := c.serviceKey, retry := retry, logger := logger, slot := slot }

def logErrors (logger : Logger) (a : Alert) (key : Text) : List Text → Program Unit
  | [] => pure ()
  | e :: rest => do
    Program.log .error logger "pagerduty_send_failed"
      [("error", .text e), ("details", .text a.details), ("message", .text a.message),
        ("incident_key", .text key)]
    logErrors logger a key rest

def eventKind (a : Alert) : EventKind := if a.isPassing then .resolve else .trigger

def postAlert (c : Client) (key : Text) (a : Alert) : Program Response :=
  if a.isPassing then c.resolve key a.message a.details
  else c.trigger key a.message a.details clientName ""

def deliver (c : Client) (name : Text) (datacenter : Text) (a : Alert) : Program Outcome := do
  let key := a.incidentKey datacenter
  let response ← postAlert c key a
  logErrors c.logger a key response.errors
  if response.ok then
    Program.log .info c.logger "pagerduty_event_sent"
      [("event_type", .text (eventKind a).name), ("incident_key", .text key)]
  pure ⟨name, response.ok, response.attempts, response.errors, []⟩

def handler (c : Client) (name : Text) : Handler :=
  ⟨name, "PagerDutyHandler", deliver c name, c.close⟩

end AlertRelay.PagerDuty
