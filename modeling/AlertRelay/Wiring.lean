import AlertRelay.Channel.Console
import AlertRelay.Channel.Email
import AlertRelay.Channel.PagerDuty
import AlertRelay.Channel.Slack
import AlertRelay.Dispatch

/-!
# Handlers of the settings

Every configured channel becomes one handler: the console channels first, then those for email,
PagerDuty and Slack, each kind in the order of the configuration. All share the configured delay
between attempts; a handler's place in the list is the slot of its session.
-/

namespace AlertRelay

inductive ChannelConfig where
  | console (name : Text) (c : ConsoleConfig)
  | email (name : Text) (c : EmailConfig)
  | pagerduty (name : Text) (c : PagerDutyConfig)
  | slack (name : Text) (c : SlackConfig)

def HandlersConfig.channels (c : HandlersConfig) : List ChannelConfig :=
  c.stdout.map (fun (name, c) => .console name c) ++ c.email.map (fun (name, c) => .email name c)
    ++ c.pagerduty.map (fun (name, c) => .pagerduty name c)
    ++ c.slack.map (fun (name, c) => .slack name c)

def ChannelConfig.handler (delay : Seconds) (slot : Nat) : ChannelConfig → Except Fault Handler
  | .console name c => .ok (Console.handler c name .channels)
  | .email name c => do
    .ok (Email.handler (← Email.Mailer.ofConfig c delay .channels Email.lookupServer) name)
  | .pagerduty name c => do
    .ok (PagerDuty.handler (← PagerDuty.Client.ofConfig c delay .channels slot) name)
  | .slack name c => do
    .ok ((← Slack.Webhook.ofConfig c delay Slack.postTimeout .channels slot).handler name)

/-- The handlers of channels, the first of which has the given slot. -/
def handlersOf (delay : Seconds) : Nat → List ChannelConfig → Except Fault (List Handler)
  | _, [] => .ok []
  | slot, c :: cs => do
    let h ← c.handler delay slot
    let hs ← handlersOf delay (slot + 1) cs
    .ok (h :: hs)

namespace Settings

def handlerList (s : Settings) : Except Fault (List Handler) :=
  handlersOf (.fraction s.dispatch.retryDelaySecs) 0 s.handlers.channels

def dispatcher (s : Settings) : Except Fault Dispatcher := do
  .ok ⟨← s.handlerList, s.dispatch.concurrent⟩

end Settings

end AlertRelay
