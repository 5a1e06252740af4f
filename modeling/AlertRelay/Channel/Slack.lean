import AlertRelay.Handler
import AlertRelay.Retry
import AlertRelay.Config.Settings

/-!
# The Slack channel

Posts an alert as a note with one attachment to a webhook. Every reply other than 200 is a failure
and is retried.
-/

namespace AlertRelay.Slack

/-- The address below which webhooks lie. -/
def webhookBase : String := "https://hooks.slack.com/services/"

/-- How long a post may take, in seconds. -/
def postTimeout : Seconds := .fraction 10.0

/-- The address of a webhook, given whole or as its path below the base. -/
def webhookUrl (token : Text) : Text :=
  let path := Text.strip token
  if (Text.ofString "https://").isPrefixOf path || (Text.ofString "http://").isPrefixOf path then
    path
  else webhookBase ++ Text.trimStart (· == .char '/') path

/-- The text of a note: the message in bold, and the details below it. -/
def noteText (a : Alert) : Text := "\n*" ++ a.message ++ "*\n" ++ a.details ++ "\n"

/-- The fault of a clock reading that is no number of seconds. -/
def clockFault (t : Seconds) : Fault :=
  match t with
  | .fraction x =>
    if x.isNaN then ⟨"ValueError", "cannot convert float NaN to integer"⟩
    else ⟨"OverflowError", "cannot convert float infinity to integer"⟩
  | .whole _ => ⟨"OverflowError", "cannot convert float infinity to integer"⟩

/-- The fault of a reply that is no success: its status and the beginning of its body. -/
def replyFault (status : Int) (body : String) : Fault :=
  ⟨"DeliveryError",
    "HTTP " ++ toString status ++ ": " ++ String.ofList (body.toList.take 200)⟩

/-- Reads a reply; the body counts only if the status is no success. -/
def readReply (reply : HttpReply) : Except Failure Unit :=
  if reply.status = 200 then .ok ()
  else
    match reply.unreadable with
    | some f => .error f
    | none => .error (.fault (replyFault reply.status reply.body))

/-- A webhook as it is set up: its address, the name of the room, and the slot of its session. -/
structure Webhook where
  url : Text
  room : Text
  retry : RetryPolicy
  timeout : Seconds := postTimeout
  logger : Logger := .channels
  slot : Nat := 0

namespace Webhook

def ofConfig (c : SlackConfig) (delay timeout : Seconds) (logger : Logger) (slot : Nat) :
    Except Fault Webhook := do
  let retry ← RetryPolicy.ofNumbers c.maxRetries delay
  .ok ⟨webhookUrl c.apiToken, c.channelName, retry, timeout, logger, slot⟩

def postOnce (w : Webhook) (text : Text) : Program Unit := do
  let now ← Program.readClock
  match now.truncate? with
  | none => Program.fail (.fault (clockFault now))
  | some timestamp =>
    let session ← Program.acquire w.slot w.timeout
    let reply ← Program.post session w.url (.attachment ⟨text, timestamp⟩)
    Program.ofExcept (readReply reply)

def deliver (w : Webhook) (name : Text) (_datacenter : Text) (a : Alert) : Program Outcome := do
  let context := [("channel", .text w.room)]
  let result ← w.retry.run ⟨w.logger, "slack_send", context⟩ fun _ => w.postOnce (noteText a)
  if result.succeeded then
    Program.log .info w.logger "slack_sent" (context ++ [("attempts", .int result.attempts)])
  pure ⟨name, result.succeeded, result.attempts, result.errors, []⟩

def close (w : Webhook) : Program Unit := Program.release w.slot

def handler (w : Webhook) (name : Text) : Handler :=
  ⟨name, "SlackHandler", w.deliver name, w.close⟩

end Webhook

end AlertRelay.Slack
