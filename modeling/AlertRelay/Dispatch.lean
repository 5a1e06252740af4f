import AlertRelay.Handler
import AlertRelay.Schedule

/-!
# Dispatching

Every alert goes through every handler, one after another or side by side, and the outcomes are
reported in the order of the handlers either way. A fault that a handler lets through is logged and
recorded as a failed outcome; the other handlers are not affected. Only a panic or a stop ends the
dispatch itself.
-/

namespace AlertRelay

/-- Runs programs one after another and gathers their results. -/
def Program.inTurn {α : Type} : List (Program α) → Program (List α)
  | [] => pure []
  | p :: ps => do
    let a ← p
    let rest ← inTurn ps
    pure (a :: rest)

structure Dispatcher where
  handlers : List Handler := []
  concurrent : Bool := false

namespace Dispatcher

/-- Delivers through one handler; a fault becomes a failed outcome. -/
def deliverThrough (h : Handler) (datacenter : Text) (a : Alert) : Program Outcome := do
  match ← (h.deliver datacenter a).attempt with
  | .ok outcome => pure outcome
  | .error f =>
    Program.logFailure .dispatcher "handler_dispatch_error"
      [("handler", .text h.name), ("handler_type", .text h.kind), ("message", .text a.message)]
      (.fault f)
    pure ⟨h.name, false, 0, [f.reason], []⟩

def logReceived (d : Dispatcher) (datacenter : Text) (a : Alert) : LogCall :=
  ⟨.info, .dispatcher, "alert_received",
    [("datacenter", .text datacenter), ("node", .text a.node), ("service", .text a.service),
      ("tag", .text a.tag), ("status", .text a.status.name),
      ("handlers", .int d.handlers.length)], none⟩

def logPartial (a : Alert) (r : DispatchResult) : LogCall :=
  ⟨.warning, .dispatcher, "alert_partially_delivered",
    [("datacenter", .text r.datacenter), ("node", .text a.node), ("service", .text a.service),
      ("failed", .list (r.failedChannels.map .text))], none⟩

def deliveries (d : Dispatcher) (datacenter : Text) (a : Alert) : List (Program Outcome) :=
  d.handlers.map (deliverThrough · datacenter a)

/-- Carries out deliveries side by side or one after another. -/
def runAll (d : Dispatcher) (ps : List (Program Outcome)) (w : World) :
    Except Failure (List Outcome) × World :=
  if d.concurrent then runTogether ps w else (Program.inTurn ps).run w

def deliver (d : Dispatcher) (datacenter : Text) (a : Alert) (w : World) :
    Except Failure DispatchResult × World :=
  match d.runAll (d.deliveries datacenter a) (w.see (.log (d.logReceived datacenter a))) with
  | (.error f, w) => (.error f, w)
  | (.ok outcomes, w) =>
    let result : DispatchResult := ⟨datacenter, outcomes⟩
    (.ok result,
      if result.allSucceeded then w else w.see (.log (logPartial a result)))

/-- Closes one handler; a fault is logged. -/
def closeHandler (h : Handler) : Program Unit := do
  match ← h.close.attempt with
  | .ok () => pure ()
  | .error f =>
    Program.logFailure .dispatcher "handler_close_error" [("handler", .text h.name)] (.fault f)

def closeAll : List Handler → Program Unit
  | [] => pure ()
  | h :: hs => do
    closeHandler h
    closeAll hs

def close (d : Dispatcher) (w : World) : Except Failure Unit × World := (closeAll d.handlers).run w

end Dispatcher

end AlertRelay
