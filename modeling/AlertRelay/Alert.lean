import AlertRelay.Text.Lines

/-!
# Alerts

One change of health of a service instance, or of a whole node, and the key under which an alert and
the later end of its trouble are correlated.
-/

namespace AlertRelay

inductive HealthStatus where
  | passing
  | warning
  | critical
  | maintenance
  deriving DecidableEq

namespace HealthStatus

/-- Every status, in the order in which they are named to a user. -/
def all : List HealthStatus := [passing, warning, critical, maintenance]

def name : HealthStatus → String
  | passing => "passing"
  | warning => "warning"
  | critical => "critical"
  | maintenance => "maintenance"

def symbol : HealthStatus → String
  | passing => "PASSING"
  | warning => "WARNING"
  | critical => "CRITICAL"
  | maintenance => "MAINTENANCE"

def ofName? (s : Text) : Option HealthStatus := all.find? (s == ·.name)

@[simp] theorem ofName?_name (s : HealthStatus) : ofName? s.name = some s := by
  cases s <;> decide

end HealthStatus

/-- An alert. `service` and `tag` are empty when it is about a whole node. -/
structure Alert where
  node : Text
  service : Text
  tag : Text
  status : HealthStatus
  message : Text
  details : Text
  deriving DecidableEq

namespace Alert

def isPassing (a : Alert) : Bool := a.status = .passing

/-- The key that correlates the trigger of an incident with its end: datacenter, service, tag and
node with a dash between each two. -/
def incidentKey (datacenter : Text) (a : Alert) : Text :=
  Text.joinWith "-" [datacenter, a.service, a.tag, a.node]

end Alert

end AlertRelay
