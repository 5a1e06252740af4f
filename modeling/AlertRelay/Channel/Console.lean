import AlertRelay.Handler
import AlertRelay.Config.Settings
import AlertRelay.Text.Lines

/-!
# The console channel

Writes an alert to the log, one call per line, at the configured level. At the levels panic and
fatal every line is logged before the delivery ends for all channels.
-/

namespace AlertRelay.Console

inductive Level where
  | panic
  | fatal
  | error
  | warning
  | info
  | debug
  deriving DecidableEq

namespace Level

def ofName? (name : Text) : Option Level :=
  match name.string? with
  | some "panic" => some panic
  | some "fatal" => some fatal
  | some "error" => some error
  | some "warn" => some warning
  | some "warning" => some warning
  | some "info" => some info
  | some "debug" => some debug
  | _ => none

def severity : Level → Severity
  | panic => .critical
  | fatal => .critical
  | error => .error
  | warning => .warning
  | info => .info
  | debug => .debug

end Level

/-- The lines of an alert: its message, and the details cut at every line feed if there are any. -/
def lines (a : Alert) : List Text :=
  a.message :: if a.details.isEmpty then [] else Text.fields (.char '\n') a.details

/-- The configured level in small letters without blanks around it. -/
def levelName (c : ConsoleConfig) : Text := Text.lower (Text.strip c.logLevel)

def logLines (logger : Logger) (severity : Severity) (fields : List (String × Value)) :
    List Text → Program Unit
  | [] => pure ()
  | line :: rest => do
    Program.log severity logger line fields
    logLines logger severity fields rest

def deliver (c : ConsoleConfig) (name : Text) (logger : Logger) (datacenter : Text) (a : Alert) :
    Program Outcome :=
  match Level.ofName? (levelName c) with
  | none =>
    pure ⟨name, false, 0, ["unknown log level: " ++ Text.quoted (levelName c)], []⟩
  | some level => do
    logLines logger level.severity
      [("datacenter", .text datacenter), ("node", .text a.node), ("service", .text a.service)]
      (lines a)
    match level with
    | .panic => Program.fail (.panic a.message)
    | .fatal => Program.fail (.stop (.int 1))
    | _ => pure ⟨name, true, 1, [], []⟩

def handler (c : ConsoleConfig) (name : Text) (logger : Logger) : Handler :=
  ⟨name, "ConsoleHandler", deliver c name logger, pure ()⟩

end AlertRelay.Console
