import AlertRelay.Outcome
import AlertRelay.Program

/-!
# Handlers

A handler delivers alerts through one channel. What delivering and closing do is a program with
effects; faults that such a program lets through are the dispatcher's concern.
-/

namespace AlertRelay

structure Handler where
  name : Text
  kind : String
  /-- Delivers an alert of a datacenter. -/
  deliver : Text → Alert → Program Outcome
  /-- Releases what the handler holds. -/
  close : Program Unit

def Handler.written (h : Handler) : String := h.kind ++ "(name=" ++ Text.quoted h.name ++ ")"

end AlertRelay
