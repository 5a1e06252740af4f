import AlertRelay.Alert
import AlertRelay.Mail.Address
import AlertRelay.Mail.Subject
import AlertRelay.Mail.Body

/-!
# Mail messages

The mail that tells one recipient of an alert: the sender is fixed, the subject is the message on
one line and the body holds the details. A mail cannot be written to an address that no reading
fits, or with text that has no bytes.
-/

namespace AlertRelay.Mail

structure Message where
  recipient : Text
  subject : Text
  body : Body
  deriving DecidableEq

/-- The sender of every mail. -/
def sender : String := "Consul Alerting <consul-alerting@noreply.com>"

/-- The mail that tells a recipient of an alert. -/
def compose (nesting : Nesting) (recipient : Text) (alert : Alert) : Except Fault Message := do
  let address ← addressValue nesting recipient
  let subject ← subjectValue (subjectLine alert.message)
  let details ← writtenChars alert.details
  .ok ⟨address, subject, Body.ofText details⟩

def Message.headers (m : Message) : List (String × Text) :=
  [("From", sender),
    ("To", m.recipient),
    ("Subject", m.subject),
    ("Content-Type", "text/plain; charset=\"utf-8\""),
    ("Content-Transfer-Encoding", m.body.encoding.name),
    ("MIME-Version", "1.0")]

end AlertRelay.Mail
