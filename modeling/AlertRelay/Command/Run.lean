import AlertRelay.Command.Options
import AlertRelay.Config.Load
import AlertRelay.Log.Line
import AlertRelay.Wiring

/-!
# Running the command

The command loads the settings, sets up the log, delivers the alert that its options describe
through every configured handler, and closes the handlers whatever came of it. Its exit code says
whether every handler succeeded.
-/

namespace AlertRelay.Command

inductive Ending where
  | exit (code : Value)
  | failed (f : Failure)
  | notLoaded (e : Config.LoadError)
  | rejected (r : Config.Rejection)

/-- A run of the command: how it ended, what was seen, and how the log was set up. -/
structure Report where
  ending : Ending
  world : World
  log : Log.Root

/-- The text with a line feed for every backslash that an n follows. -/
def unescapeLines : List Char → List Char
  | '\\' :: 'n' :: cs => '\n' :: unescapeLines cs
  | c :: cs => c :: unescapeLines cs
  | [] => []

def Options.alert (o : Options) : Except Config.Rejection Alert :=
  let details := String.ofList (unescapeLines o.details.toList)
  Alert.ofEntries
    [named "node" (.text o.node), named "service" (.text o.service), named "tag" (.text o.tag),
      named "status" (.text o.status), named "message" (.text o.message),
      named "details" (.text details)]

/-- The datacenter of the options, or else that of the settings. -/
def Options.datacenterOr (o : Options) (s : Settings) : Text :=
  Log.override (o.datacenter.map Text.ofString) s.datacenter

def noHandlers (o : Options) : LogCall :=
  ⟨.warning, .command, "no_handlers_configured",
    [("config", (o.config.map fun s => .text s).getD .null)], none⟩

def handlerOutcome (outcome : Outcome) : LogCall :=
  ⟨.info, .command, "handler_outcome",
    [("handler", .text outcome.channel), ("succeeded", .bool outcome.succeeded),
      ("attempts", .int outcome.attempts), ("errors", .list (outcome.errors.map .text))], none⟩

/-- The end that a failure is. -/
def Ending.ofFailure : Failure → Ending
  | .stop code => .exit code
  | f => .failed f

def deliver (d : Dispatcher) (o : Options) (datacenter : Text) (a : Alert) (w : World) :
    Ending × World :=
  let w := if d.handlers.isEmpty then w.see (.log (noHandlers o)) else w
  let (result, w) := d.deliver datacenter a w
  let (closed, w) := d.close w
  match closed, result with
  | .error f, _ => (.ofFailure f, w)
  | .ok (), .error f => (.ofFailure f, w)
  | .ok (), .ok result =>
    (.exit (.int (if result.allSucceeded then 0 else 1)),
      result.outcomes.foldl (fun w outcome => w.see (.log (handlerOutcome outcome))) w)

def run (files : Config.Files) (network : Network) (o : Options) : Report :=
  let w : World := { network := network }
  match ({} : Config.Cache).load files o.config with
  | (.error e, _) => ⟨.notLoaded e, w, {}⟩
  | (.ok loaded, _) =>
    let settings := loaded.settings
    match ({} : Log.Root).setUp settings.logging (o.logLevel.map Text.ofString) none with
    | (.error f, log) => ⟨.failed (.fault f), w, log⟩
    | (.ok (), log) =>
      match o.alert, settings.dispatcher with
      | .error r, _ => ⟨.rejected r, w, log⟩
      | .ok _, .error f => ⟨.failed (.fault f), w, log⟩
      | .ok a, .ok d =>
        let (ending, w) := deliver d o (o.datacenterOr settings) a w
        ⟨ending, w, log⟩

/-- The lines of the log of a run; its calls bring along nothing that the log keeps for itself. -/
def Report.lines (r : Report) (time : String) : List Text :=
  r.world.trace.flatMap fun
    | .log call => ((r.log.write (Log.Call.ofLogCall call) time).toOption).getD []
    | _ => []

/-! ### The whole command -/

def programName : String := "send_alert.py"

inductive Result where
  | help
  | misused (e : UsageError)
  | finished (r : Report)

def perform (files : Config.Files) (network : Network) (arguments : List String) : Result :=
  match Request.ofArguments arguments with
  | .error e => .misused e
  | .ok .help => .help
  | .ok (.run o) => .finished (run files network o)

def UsageError.report (e : UsageError) : Text := programName ++ ": error: " ++ e.message

end AlertRelay.Command
