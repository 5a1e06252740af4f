import AlertRelay.Handler
import AlertRelay.Retry
import AlertRelay.Config.Settings

/-!
# The email channel

Mails an alert to every configured recipient, straight to the mail server of the recipient's domain.
A recipient whose server cannot be found, whose mail cannot be written or to whom it cannot be sent
does not keep the others from their mail.
-/

namespace AlertRelay.Email

def serverPort : Nat := 25

/-- How long sending a mail may take, in seconds. -/
def sendTimeout : Float := 30.0

/-- The fault of a recipient whose mail server cannot be determined. -/
def unresolved (text : Text) : Fault := ⟨"ResolutionError", text⟩

/-- What stands behind the last at sign, if there is one. -/
def afterLastAt? : Text → Option Text
  | [] => none
  | c :: cs =>
    match afterLastAt? cs with
    | some rest => some rest
    | none => if c = '@' then some cs else none

/-- The domain of a recipient: what follows the last at sign, which may not be empty. -/
def recipientDomain (recipient : Text) : Except Fault Text :=
  match afterLastAt? recipient with
  | some (c :: cs) => .ok (c :: cs)
  | _ => .error (unresolved ("invalid recipient address: " ++ Text.quoted recipient))

/-! ### Mail servers -/

/-- The first of the records with the lowest preference. -/
def preferred? : List MxRecord → Option MxRecord
  | [] => none
  | r :: rs =>
    match preferred? rs with
    | none => some r
    | some s => some (if r.preference ≤ s.preference then r else s)

/-- The host that takes the mail of a domain by the answer about it; the root, or no name at all,
stands for a domain that accepts no mail. -/
def hostOf (domain : Text) : MxAnswer → Except Fault Text
  | .refused f =>
    .error (unresolved ("MX lookup for " ++ Text.quoted domain ++ " failed: " ++ f.text))
  | .records rs =>
    match preferred? rs with
    | none => .error (unresolved ("no MX records for " ++ Text.quoted domain))
    | some r =>
      if r.host = [] ∨ r.host = "." then
        .error (unresolved (Text.quoted domain ++ " does not accept mail (null MX)"))
      else .ok r.host

def ofResult {α : Type} : Except Fault α → Program α
  | .ok a => pure a
  | .error f => .fail (.fault f)

def lookupServer (domain : Text) : Program Text := do
  let answer ← Program.queryMx domain
  ofResult (hostOf domain answer)

/-! ### Delivery -/

/-- The mail channel as it is set up: where domains are looked up, how sending is retried, and how
addresses may be nested. -/
structure Mailer where
  recipients : List Text
  retry : RetryPolicy
  logger : Logger
  lookup : Text → Program Text
  nesting : Mail.Nesting := {}

/-- A mail channel of a configuration, with the delay between attempts. -/
def Mailer.ofConfig (c : EmailConfig) (delay : Seconds) (logger : Logger)
    (lookup : Text → Program Text) : Except Fault Mailer := do
  let retry ← RetryPolicy.ofNumbers c.maxRetries delay
  .ok { recipients := c.recipients, retry, logger, lookup }

/-- What is known after the deliveries to some recipients. -/
structure Progress where
  attempts : Nat := 0
  errors : List Text := []
  targets : List (Text × Bool) := []

def Progress.add (p : Progress) (recipient : Text) (attempts : Nat) (errors : List Text)
    (succeeded : Bool) : Progress :=
  ⟨p.attempts + attempts, p.errors ++ errors, Config.enterName p.targets recipient succeeded⟩

structure Attempted where
  attempts : Nat
  errors : List Text
  succeeded : Bool

/-- A recipient who is not mailed because of a fault, which is logged. -/
def notMailed (m : Mailer) (event : String) (recipient : Text) (f : Fault) : Program Attempted := do
  Program.log .error m.logger event [("recipient", .text recipient), ("error", .text f.text)]
  pure ⟨0, [f.text], false⟩

def deliverTo (m : Mailer) (a : Alert) (recipient : Text) : Program Attempted := do
  match ← (ofResult (recipientDomain recipient) >>= m.lookup).attempt with
  | .error f => notMailed m "email_server_lookup_failed" recipient f
  | .ok host =>
    match Mail.compose m.nesting recipient a with
    | .error f => notMailed m "email_compose_failed" recipient f
    | .ok message =>
      let context := [("recipient", .text recipient), ("mail_server", .text host)]
      let result ← m.retry.run ⟨m.logger, "email_send", context⟩ fun _ =>
        Program.send ⟨host, serverPort, false, false, sendTimeout, message⟩
      if result.succeeded then
        Program.log .info m.logger "email_sent" (context ++ [("attempts", .int result.attempts)])
      pure ⟨result.attempts, result.errors, result.succeeded⟩

def deliverAll (m : Mailer) (a : Alert) (p : Progress) : List Text → Program Progress
  | [] => pure p
  | recipient :: rest => do
    let r ← deliverTo m a recipient
    deliverAll m a (p.add recipient r.attempts r.errors r.succeeded) rest

/-- Delivers an alert. The channel succeeds if the last result of every recipient is a success. -/
def deliver (m : Mailer) (name _datacenter : Text) (a : Alert) : Program Outcome := do
  let p ← deliverAll m a {} m.recipients
  pure ⟨name, p.targets.all (·.2), p.attempts, p.errors, p.targets⟩

def handler (m : Mailer) (name : Text) : Handler :=
  ⟨name, "EmailHandler", deliver m name, pure ()⟩

end AlertRelay.Email
