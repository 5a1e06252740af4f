import AlertRelay.Handler

/-!
# Stand-in handlers

A handler without a channel behind it, for drills of the dispatcher. It shows that it starts, waits
for a set time, shows that it finishes and then ends as it was told; if it is cancelled while it
waits, it shows that.
-/

namespace AlertRelay

structure StandIn where
  name : Text
  kind : String := "StandIn"
  delay : Option Seconds := none
  /-- How its deliveries end. -/
  result : Except Failure Outcome
  /-- Whether its closing is seen. -/
  showsClose : Bool := true
  /-- The failure of its closing. -/
  closeFailure : Option Failure := none

namespace StandIn

def deliver (s : StandIn) (datacenter : Text) (a : Alert) : Program Outcome := do
  Program.note (.start s.name)
  match s.delay with
  | some length => Program.effect (.pause length [.cancelled s.name])
  | none => pure ()
  Program.note (.finish s.name datacenter a.message)
  Program.ofExcept s.result

def close (s : StandIn) : Program Unit := do
  if s.showsClose then
    Program.note (.close s.name)
    match s.closeFailure with
    | some f => Program.fail f
    | none => pure ()

def handler (s : StandIn) : Handler := ⟨s.name, s.kind, s.deliver, s.close⟩

end StandIn

end AlertRelay
