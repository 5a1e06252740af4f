import AlertRelay.Channel.Email
import AlertRelay.Proofs.Entries
import AlertRelay.Proofs.Retry

/-!
# Mailings

A `Mailing` is what became of one recipient in a delivery, and `mailings` lists them in the order of
the recipients. The outcome of a delivery that returns is told by its mailings alone
(`eq_of_deliver_eq_ok`).
-/

namespace AlertRelay.Email

open Program

/-! ## The mailing of one recipient -/

inductive Mailing where
  /-- No mail server was found. -/
  | unaddressed (x : Failure)
  /-- The mail could not be composed. -/
  | unwritten (f : Fault)
  /-- The mail was sent until it got through or no attempt was left. -/
  | sent (sends : List (RetryPolicy.Attempt Unit))

namespace Mailing

def sends : Mailing → List (RetryPolicy.Attempt Unit)
  | sent sends => sends
  | _ => []

/-- Whether one of the sends got through. -/
def Delivered (x : Mailing) : Prop := ∃ s ∈ x.sends, s.result = .ok ()

/-- What is recorded for everything that failed, in order. -/
def failures : Mailing → List Text
  | unaddressed (.fault f) => [f.text]
  | unaddressed _ => []
  | unwritten f => [f.text]
  | sent sends => RetryPolicy.failures sends

def attempted (x : Mailing) : Attempted :=
  ⟨x.sends.length, x.failures, (RetryPolicy.valueOf x.sends).isSome⟩

/-- Only a delivered mailing counts as a success. -/
theorem succeeded_attempted_iff {x : Mailing} : x.attempted.succeeded = true ↔ x.Delivered := by
  rw [attempted, RetryPolicy.valueOf_isSome_iff]
  constructor
  · rintro ⟨s, hs, ⟨⟩, hresult⟩
    exact ⟨s, hs, hresult⟩
  · rintro ⟨s, hs, hresult⟩
    exact ⟨s, hs, (), hresult⟩

end Mailing

def findServer (m : Mailer) (recipient : Text) : Program Text :=
  ofResult (recipientDomain recipient) >>= m.lookup

def sendLog (m : Mailer) (recipient host : Text) : RetryLog :=
  ⟨m.logger, "email_send", [("recipient", .text recipient), ("mail_server", .text host)]⟩

/-- A mail on its way to the server of its recipient. -/
def submission (host : Text) (message : Mail.Message) : Submission :=
  ⟨host, serverPort, false, false, sendTimeout, message⟩

def sendTo (host : Text) (message : Mail.Message) : Program Unit := send (submission host message)

/-- Sends a mail to a server as often as needed. -/
def mailTo (m : Mailer) (recipient host : Text) (message : Mail.Message) : Program Attempted := do
  let result ← m.retry.run (sendLog m recipient host) fun _ => sendTo host message
  if result.succeeded then
    Program.log .info m.logger "email_sent"
      ((sendLog m recipient host).context ++ [("attempts", .int result.attempts)])
  pure ⟨result.attempts, result.errors, result.succeeded⟩

/-- The mailing of a recipient that begins in a world. -/
def mailing (m : Mailer) (a : Alert) (recipient : Text) (w : World) : Mailing :=
  match (findServer m recipient).run w with
  | (.error x, _) => .unaddressed x
  | (.ok host, w') =>
    match Mail.compose m.nesting recipient a with
    | .error f => .unwritten f
    | .ok message =>
      .sent (m.retry.attempts (sendLog m recipient host) (fun _ => sendTo host message)
        m.retry.maxRetries 1 w')

/-- The recipients with their mailings, one after another. -/
def mailings (m : Mailer) (a : Alert) : List Text → World → List (Text × Mailing)
  | [], _ => []
  | recipient :: rest, w =>
    (recipient, mailing m a recipient w) ::
      mailings m a rest ((deliverTo m a recipient).run w).2

variable {m : Mailer} {a : Alert} {recipient host : Text} {message : Mail.Message}
  {w w' : World}

theorem mailing_of_unaddressed {x : Failure}
    (h : (findServer m recipient).run w = (.error x, w')) :
    mailing m a recipient w = .unaddressed x := by
  simp only [mailing, h]

theorem mailing_of_unwritten {f : Fault} (h : (findServer m recipient).run w = (.ok host, w'))
    (hf : Mail.compose m.nesting recipient a = .error f) :
    mailing m a recipient w = .unwritten f := by
  simp only [mailing, h, hf]

theorem mailing_of_sent (h : (findServer m recipient).run w = (.ok host, w'))
    (hmessage : Mail.compose m.nesting recipient a = .ok message) :
    mailing m a recipient w =
      .sent (m.retry.attempts (sendLog m recipient host) (fun _ => sendTo host message)
        m.retry.maxRetries 1 w') := by
  simp only [mailing, h, hmessage]

/-- No mailing sends more often than the policy has attempts. -/
theorem length_sends_le (m : Mailer) (a : Alert) (recipient : Text) (w : World) :
    (mailing m a recipient w).sends.length ≤ m.retry.maxAttempts := by
  unfold mailing
  split
  · exact Nat.zero_le _
  · split
    · exact Nat.zero_le _
    · exact RetryPolicy.length_attempts_le _ _ _

@[simp] theorem map_recipient_mailings (m : Mailer) (a : Alert) (recipients : List Text)
    (w : World) : (mailings m a recipients w).map (·.1) = recipients := by
  induction recipients generalizing w with
  | nil => rfl
  | cons recipient rest ih => exact congrArg (recipient :: ·) (ih _)

theorem exists_mailing_of_mem {recipients : List Text} {x : Text × Mailing}
    (hx : x ∈ mailings m a recipients w) : ∃ w', x.2 = mailing m a x.1 w' := by
  induction recipients generalizing w with
  | nil => cases hx
  | cons recipient rest ih =>
    rcases List.mem_cons.mp hx with rfl | hx
    · exact ⟨w, rfl⟩
    · exact ih hx

/-! ## The sends of a mailing -/

/-- The reply that awaits the next mail to a recipient. -/
def mailReply (w : World) (recipient : Text) : Delayed Unit :=
  ((w.network.smtp.lookup recipient).bind (scripted? · (countOf w.mails recipient))).getD
    ⟨none, .ok ()⟩

theorem run_sendTo (host : Text) (message : Mail.Message) (w : World) :
    ∃ w', (sendTo host message).run w = ((mailReply w message.recipient).outcome, w') ∧
      w'.mails = countUp w.mails message.recipient :=
  ⟨_, run_await (mailReply w message.recipient) _, rfl⟩

theorem seen_sendTo (host : Text) (message : Mail.Message) (w : World) :
    (sendTo host message).seen w = [.send (submission host message)] := by
  have h : (sendTo host message).seen w = .send (submission host message) ::
      (await (mailReply w message.recipient)).seen
        (w.perform (.send (submission host message))).2 := rfl
  rw [h, seen_await]

/-- Whether an attempt sends the mail of an alert to a recipient, once, and comes to the reply that
awaits it. -/
def Mails (m : Mailer) (a : Alert) (recipient : Text) (s : RetryPolicy.Attempt Unit) : Prop :=
  ∃ host message, Mail.compose m.nesting recipient a = .ok message ∧
    s.shown = [.send (submission host message)] ∧
    s.result = (mailReply s.world message.recipient).outcome

/-- Each send of a mailing carries the mail of its alert to its recipient. -/
theorem mails_of_mem_sends {s : RetryPolicy.Attempt Unit}
    (hs : s ∈ (mailing m a recipient w).sends) : Mails m a recipient s := by
  cases hserver : (findServer m recipient).run w with
  | mk result w' =>
    cases result with
    | error x =>
      rw [mailing_of_unaddressed hserver] at hs
      cases hs
    | ok host =>
      cases hmessage : Mail.compose m.nesting recipient a with
      | error f =>
        rw [mailing_of_unwritten hserver hmessage] at hs
        cases hs
      | ok message =>
        rw [mailing_of_sent hserver hmessage] at hs
        obtain ⟨_, hresult, hshown⟩ := RetryPolicy.exists_of_mem_attempts hs
        obtain ⟨w₁, hrun, -⟩ := run_sendTo host message s.world
        refine ⟨host, message, hmessage, ?_, ?_⟩
        · rw [hshown, seen_sendTo]
        · rw [hresult, hrun]

/-! ## What a mailing comes to -/

theorem run_deliverTo_of_fault {f : Fault}
    (h : (findServer m recipient).run w = (.error (.fault f), w')) :
    (deliverTo m a recipient).run w =
      (notMailed m "email_server_lookup_failed" recipient f).run w' :=
  run_bind_ok (run_attempt_fault h) _

theorem run_deliverTo_of_error {x : Failure}
    (h : (findServer m recipient).run w = (.error x, w')) (hx : x.Breaks) :
    (deliverTo m a recipient).run w = (.error x, w') :=
  run_bind_error (run_attempt_error h hx) _

theorem run_deliverTo_of_unwritten {f : Fault}
    (h : (findServer m recipient).run w = (.ok host, w'))
    (hf : Mail.compose m.nesting recipient a = .error f) :
    (deliverTo m a recipient).run w = (notMailed m "email_compose_failed" recipient f).run w' := by
  refine (run_bind_ok (run_attempt_ok h) _).trans ?_
  simp only [hf]

theorem run_deliverTo_of_composed (h : (findServer m recipient).run w = (.ok host, w'))
    (hmessage : Mail.compose m.nesting recipient a = .ok message) :
    (deliverTo m a recipient).run w = (mailTo m recipient host message).run w' := by
  refine (run_bind_ok (run_attempt_ok h) _).trans ?_
  simp only [hmessage]
  rfl

theorem eq_of_mailTo_eq_ok {r : Attempted}
    (h : ((mailTo m recipient host message).run w).1 = .ok r) :
    r = (Mailing.sent (m.retry.attempts (sendLog m recipient host) (fun _ => sendTo host message)
      m.retry.maxRetries 1 w)).attempted := by
  obtain ⟨result, w', hsends, h⟩ := exists_of_run_bind_eq_ok h
  have hr : r = ⟨result.attempts, result.errors, result.succeeded⟩ := by
    -- Logging a success changes nothing.
    split at h
    · exact (Except.ok.inj h).symm
    · exact (Except.ok.inj h).symm
  have hpos : 0 < (m.retry.attempts (sendLog m recipient host) (fun _ => sendTo host message)
      m.retry.maxRetries 1 w).length := RetryPolicy.length_attempts_pos _ _ _
  rw [hr, RetryPolicy.eq_of_run_eq_ok (congrArg Prod.fst hsends)]
  simp only [RetryPolicy.summary, Mailing.attempted, Mailing.sends, Mailing.failures,
    List.nil_append, Attempted.mk.injEq, and_true]
  omega

/-- A recipient's result, when nothing broke, is what the mailing comes to. -/
theorem eq_of_deliverTo_eq_ok {r : Attempted}
    (h : ((deliverTo m a recipient).run w).1 = .ok r) :
    r = (mailing m a recipient w).attempted := by
  match hserver : (findServer m recipient).run w with
  | (.error (.panic text), _) =>
    rw [run_deliverTo_of_error hserver (Failure.breaks_panic text)] at h
    cases h
  | (.error (.stop code), _) =>
    rw [run_deliverTo_of_error hserver (Failure.breaks_stop code)] at h
    cases h
  | (.error (.fault f), _) =>
    rw [run_deliverTo_of_fault hserver] at h
    rw [mailing_of_unaddressed hserver]
    exact (Except.ok.inj h).symm
  | (.ok host, _) =>
    cases hmessage : Mail.compose m.nesting recipient a with
    | error f =>
      rw [run_deliverTo_of_unwritten hserver hmessage] at h
      rw [mailing_of_unwritten hserver hmessage]
      exact (Except.ok.inj h).symm
    | ok message =>
      rw [run_deliverTo_of_composed hserver hmessage] at h
      rw [mailing_of_sent hserver hmessage]
      exact eq_of_mailTo_eq_ok h

/-! ## What a delivery comes to -/

def results (xs : List (Text × Mailing)) : List (Text × Bool) :=
  xs.map fun x => (x.1, x.2.attempted.succeeded)

/-- What is known after some mailings, once something was known before. -/
def Progress.after (p : Progress) (xs : List (Text × Mailing)) : Progress :=
  ⟨p.attempts + (xs.flatMap (·.2.sends)).length, p.errors ++ xs.flatMap (·.2.failures),
    Config.enterAll p.targets (results xs)⟩

/-- What is known after a delivery is what its mailings came to, in order. -/
theorem eq_of_deliverAll_eq_ok {p q : Progress} {recipients : List Text}
    (h : ((deliverAll m a p recipients).run w).1 = .ok q) :
    q = p.after (mailings m a recipients w) := by
  -- The next recipient's mailing begins in the world that this one's left.
  induction recipients generalizing p w with
  | nil =>
    obtain rfl := Except.ok.inj h
    simp [Progress.after, mailings, results, Config.enterAll]
  | cons recipient rest ih =>
    obtain ⟨r, w₁, hrun, h⟩ := exists_of_run_bind_eq_ok h
    have hr := eq_of_deliverTo_eq_ok (congrArg Prod.fst hrun)
    have hw : w₁ = ((deliverTo m a recipient).run w).2 := (congrArg Prod.snd hrun).symm
    rw [ih h, hr, hw]
    simp [Progress.after, Progress.add, mailings, results, Config.enterAll, Mailing.attempted,
      Nat.add_assoc]

def outcomeOf (name : Text) (xs : List (Text × Mailing)) : Outcome :=
  let targets := Config.enterAll [] (results xs)
  ⟨name, targets.all (·.2), (xs.flatMap (·.2.sends)).length, xs.flatMap (·.2.failures), targets⟩

/-- A delivery that returns has the outcome of its mailings. -/
theorem eq_of_deliver_eq_ok {name datacenter : Text} {o : Outcome}
    (h : ((deliver m name datacenter a).run w).1 = .ok o) :
    o = outcomeOf name (mailings m a m.recipients w) := by
  obtain ⟨p, w₁, hrun, h⟩ := exists_of_run_bind_eq_ok h
  have hp := eq_of_deliverAll_eq_ok (congrArg Prod.fst hrun)
  rw [← Except.ok.inj h, hp]
  simp [outcomeOf, Progress.after]

end AlertRelay.Email
