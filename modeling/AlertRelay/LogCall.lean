import AlertRelay.Failure

/-!
# Log calls

A call of the log: how severe it is, which part of the program makes it, the name of the event and
the fields that describe it, in order.
-/

namespace AlertRelay

inductive Severity where
  | debug
  | info
  | warning
  | error
  | critical
  deriving DecidableEq

def Severity.name : Severity → String
  | .debug => "debug"
  | .info => "info"
  | .warning => "warning"
  | .error => "error"
  | .critical => "critical"

def Severity.rank : Severity → Nat
  | .debug => 10
  | .info => 20
  | .warning => 30
  | .error => 40
  | .critical => 50

inductive Logger where
  | retry
  | channels
  | pagerduty
  | dispatcher
  | command
  | named (name : String)
  deriving DecidableEq

def Logger.name : Logger → String
  | .retry => "consul_alerting.notify.retry"
  | .channels => "consul_alerting.notify.channels"
  | .pagerduty => "consul_alerting.notify.pagerduty"
  | .dispatcher => "consul_alerting.notify.dispatcher"
  | .command => "scripts.send_alert"
  | .named name => name

/-- One call of the log. `raised` is the failure being handled, for calls that report one. -/
structure LogCall where
  severity : Severity
  logger : Logger
  event : Text
  fields : List (String × Value)
  raised : Option Failure

end AlertRelay
