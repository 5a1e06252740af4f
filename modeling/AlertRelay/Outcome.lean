import AlertRelay.Config.Check

/-!
# Outcomes of deliveries

What one channel did with one alert, and the outcomes of all channels together.
-/

namespace AlertRelay

open Config

/-- What one channel did with one alert. `targets` tells apart the destinations of a channel that
has several. -/
structure Outcome where
  channel : Text
  succeeded : Bool
  attempts : Int := 0
  errors : List Text := []
  targets : List (Text × Bool) := []
  deriving DecidableEq

structure DispatchResult where
  datacenter : Text
  outcomes : List Outcome := []
  deriving DecidableEq

namespace DispatchResult

def allSucceeded (r : DispatchResult) : Bool := r.outcomes.all (·.succeeded)

def failedChannels (r : DispatchResult) : List Text :=
  (r.outcomes.filter (!·.succeeded)).map (·.channel)

end DispatchResult

def Outcome.check (es : List (Value × Value)) : Checked Outcome :=
  Outcome.mk <$> required es "channel" asText <*> required es "succeeded" asTruth
    <*> optional es "attempts" 0 asInteger <*> optional es "errors" [] (asList asText)
    <*> optional es "targets" [] (asMap asTruth)

def DispatchResult.check (es : List (Value × Value)) : Checked DispatchResult :=
  DispatchResult.mk <$> required es "datacenter" asText
    <*> optional es "outcomes" [] (asList (asRecord "DeliveryOutcome" Outcome.check))

def DispatchResult.ofEntries (es : List (Value × Value)) : Except Rejection DispatchResult :=
  (DispatchResult.check es).toExcept "DispatchResult"

def Outcome.ofEntries (es : List (Value × Value)) : Except Rejection Outcome :=
  (Outcome.check es).toExcept "DeliveryOutcome"

end AlertRelay
