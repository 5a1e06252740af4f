import AlertRelay.Value

/-!
# Posted messages

The two kinds of message that are posted to a service: an event of an incident, and a note with one
attachment for a chat room, together with their form as values.
-/

namespace AlertRelay

inductive EventKind where
  | trigger
  | resolve
  deriving DecidableEq

def EventKind.name : EventKind → String
  | .trigger => "trigger"
  | .resolve => "resolve"

structure IncidentEvent where
  serviceKey : Text
  kind : EventKind
  incidentKey : Text
  description : Text
  details : Text
  client : Option Text
  clientUrl : Option Text
  deriving DecidableEq

/-- The attachment of a note: its text and the time of its making in whole seconds. -/
structure Attachment where
  text : Text
  timestamp : Int
  deriving DecidableEq

inductive Payload where
  | event (e : IncidentEvent)
  | attachment (a : Attachment)
  deriving DecidableEq

def named (name : String) (v : Value) : Value × Value := (.text name, v)

/-- An entry for a text that may be missing. -/
def namedText? (name : String) : Option Text → List (Value × Value)
  | none => []
  | some s => [named name (.text s)]

def IncidentEvent.toValue (e : IncidentEvent) : Value :=
  .map ([named "service_key" (.text e.serviceKey), named "event_type" (.text e.kind.name),
    named "incident_key" (.text e.incidentKey), named "description" (.text e.description),
    named "details" (.text e.details)] ++ namedText? "client" e.client ++
    namedText? "client_url" e.clientUrl)

/-- What every attachment says of its sender. -/
def branding : List (String × String) :=
  [("color", "good"),
    ("fallback", ""),
    ("author_name", "https://github.com/kyhavlov/consul-alerting"),
    ("author_subname", "github.com"),
    ("author_link", "https://github.com/kyhavlov"),
    ("author_icon", "https://avatars2.githubusercontent.com/u/4177697?s=400&v=4"),
    ("footer", "consul-alerting"),
    ("footer_icon", "https://platform.slack-edge.com/img/default_application_icon.png")]

def Attachment.toValue (a : Attachment) : Value :=
  .map (branding.map (fun (name, text) => named name (.text text)) ++
    [named "text" (.text a.text), named "ts" (.int a.timestamp)])

def Payload.toValue : Payload → Value
  | .event e => e.toValue
  | .attachment a => .map [named "attachments" (.list [a.toValue])]

end AlertRelay
