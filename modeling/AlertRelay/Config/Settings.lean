import AlertRelay.Alert
import AlertRelay.Config.Check
import AlertRelay.Text.Case

/-!
# Settings

The options of each kind of channel, of the dispatcher and of the log, their defaults, and the
checks that build them from a value without a form. Channels of one kind are named by the operator
and keep the order in which they are configured.
-/

namespace AlertRelay

open Config

structure ConsoleConfig where
  logLevel : Text := "info"
  deriving DecidableEq

structure EmailConfig where
  recipients : List Text := []
  maxRetries : Nat := 0
  deriving DecidableEq

structure PagerDutyConfig where
  serviceKey : Text := ""
  maxRetries : Nat := 0
  deriving DecidableEq

structure SlackConfig where
  apiToken : Text := ""
  channelName : Text := ""
  maxRetries : Nat := 0
  deriving DecidableEq

/-- The configured channels of each kind with their names. -/
structure HandlersConfig where
  stdout : List (Text × ConsoleConfig) := []
  email : List (Text × EmailConfig) := []
  pagerduty : List (Text × PagerDutyConfig) := []
  slack : List (Text × SlackConfig) := []

structure DispatchConfig where
  concurrent : Bool := false
  retryDelaySecs : Float := 5.0

structure LoggingConfig where
  level : Text := "INFO"
  format : Text := "json"
  deriving DecidableEq

structure Settings where
  datacenter : Text := "dc1"
  handlers : HandlersConfig := {}
  dispatch : DispatchConfig := {}
  logging : LoggingConfig := {}

/-! ### Building settings from values -/

def ConsoleConfig.check (es : List (Value × Value)) : Checked ConsoleConfig :=
  ConsoleConfig.mk <$> optional es "log_level" "info" asText

def EmailConfig.check (es : List (Value × Value)) : Checked EmailConfig :=
  EmailConfig.mk <$> optional es "recipients" [] (asList asText)
    <*> optional es "max_retries" 0 asCount

def PagerDutyConfig.check (es : List (Value × Value)) : Checked PagerDutyConfig :=
  PagerDutyConfig.mk <$> optional es "service_key" "" asText
    <*> optional es "max_retries" 0 asCount

def SlackConfig.check (es : List (Value × Value)) : Checked SlackConfig :=
  SlackConfig.mk <$> optional es "api_token" "" asText <*> optional es "channel_name" "" asText
    <*> optional es "max_retries" 0 asCount

def HandlersConfig.check (es : List (Value × Value)) : Checked HandlersConfig :=
  HandlersConfig.mk
    <$> optional es "stdout" [] (asMap (asRecord "ConsoleConfig" ConsoleConfig.check))
    <*> optional es "email" [] (asMap (asRecord "EmailConfig" EmailConfig.check))
    <*> optional es "pagerduty" [] (asMap (asRecord "PagerDutyConfig" PagerDutyConfig.check))
    <*> optional es "slack" [] (asMap (asRecord "SlackConfig" SlackConfig.check))

def DispatchConfig.check (es : List (Value × Value)) : Checked DispatchConfig :=
  DispatchConfig.mk <$> optional es "concurrent" false asTruth
    <*> optional es "retry_delay_secs" 5.0 asDuration

def LoggingConfig.check (es : List (Value × Value)) : Checked LoggingConfig :=
  LoggingConfig.mk <$> optional es "level" "INFO" asText <*> optional es "format" "json" asText

def Settings.check (es : List (Value × Value)) : Checked Settings :=
  Settings.mk <$> optional es "datacenter" "dc1" asText
    <*> optional es "handlers" {} (asRecord "HandlersConfig" HandlersConfig.check)
    <*> optional es "dispatch" {} (asRecord "DispatchConfig" DispatchConfig.check)
    <*> optional es "logging" {} (asRecord "LoggingConfig" LoggingConfig.check)

def Settings.ofEntries (es : List (Value × Value)) : Except Rejection Settings :=
  (Settings.check es).toExcept "Settings"

/-! ### Building alerts from values -/

/-- A status by its name, in any case and with blanks around it. -/
def asStatus : Value → Checked HealthStatus
  | .text s =>
    match HealthStatus.ofName? (Text.lower (Text.strip s)) with
    | some status => .accepted status
    | none => .fail .unknownStatus
  | _ => .fail .unknownStatus

def Alert.check (es : List (Value × Value)) : Checked Alert :=
  Alert.mk <$> required es "node" asText <*> optional es "service" "" asText
    <*> optional es "tag" "" asText <*> required es "status" asStatus
    <*> required es "message" asText <*> optional es "details" "" asText

def Alert.ofEntries (es : List (Value × Value)) : Except Rejection Alert :=
  (Alert.check es).toExcept "AlertState"

end AlertRelay
