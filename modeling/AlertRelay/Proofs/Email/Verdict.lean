import AlertRelay.Proofs.HandlerContract
import AlertRelay.Proofs.Email.Mailings
import AlertRelay.Proofs.Posts

/-!
# The verdict of the email channel

An outcome keeps one result for each recipient, that of the recipient's last mailing. So a channel
succeeds exactly if the last mailing of every recipient got through
(`succeeds_iff_last_mailings_delivered`), and a recipient who is listed again can hide an earlier
mailing that did not (`not_every_mailing_delivered`).
-/

namespace AlertRelay.Email

open Config Program

variable {m : Mailer} {a : Alert} {w : World}

/-- The last result for a recipient is that of its last mailing. -/
theorem lastOf_results_iff {xs : List (Text × Mailing)} {r : Text × Bool} :
    LastOf (results xs) r ↔ ∃ x, LastOf xs x ∧ r = (x.1, x.2.attempted.succeeded) :=
  lastOf_map_iff (f := fun x : Mailing => x.attempted.succeeded)

/-- Mailings make a success exactly if the last one of every recipient got through. -/
theorem succeeded_outcomeOf_iff (name : Text) (xs : List (Text × Mailing)) :
    (outcomeOf name xs).succeeded = true ↔ ∀ x, LastOf xs x → x.2.Delivered := by
  have htargets : (outcomeOf name xs).succeeded = true ↔
      ∀ r, LastOf (results xs) r → r.2 = true := by
    rw [outcomeOf, List.all_eq_true]
    exact forall_congr' fun r => imp_congr_left mem_enterAll_iff
  rw [htargets]
  constructor
  · intro h x hx
    exact Mailing.succeeded_attempted_iff.mp (h _ (lastOf_results_iff.mpr ⟨x, hx, rfl⟩))
  · intro h r hr
    obtain ⟨x, hx, rfl⟩ := lastOf_results_iff.mp hr
    exact Mailing.succeeded_attempted_iff.mpr (h x hx)

/-- A delivery on a network that raises only faults returns the outcome of its mailings. -/
theorem exists_run_deliver (hn : w.network.OnlyFaults)
    (hlookup : ∀ domain, (m.lookup domain).NeverBreaks w.network fun _ => True)
    (name datacenter : Text) (a : Alert) :
    ∃ w', (deliver m name datacenter a).run w =
      (.ok (outcomeOf name (mailings m a m.recipients w)), w') := by
  obtain ⟨o, w', hrun, -⟩ := (returns_deliver hn hlookup name datacenter a).exists_run
  have ho := eq_of_deliver_eq_ok (congrArg Prod.fst hrun)
  exact ⟨w', ho ▸ hrun⟩

/-- **The verdict on a delivery.** A delivery returns an outcome, and there is one mailing for each
position in the list of recipients, with at most as many sends as attempts are allowed, each of the
mail that was composed for the recipient. The outcome is a success exactly if the last mailing of
every recipient got through: that is so if all mailings did, and only then if no recipient is listed
twice. -/
theorem succeeds_iff_last_mailings_delivered (m : Mailer) (name datacenter : Text) (a : Alert)
    (w : World) (hn : w.network.OnlyFaults)
    (hlookup : ∀ domain, (m.lookup domain).NeverBreaks w.network fun _ => True) :
    let xs := mailings m a m.recipients w
    xs.map (·.1) = m.recipients ∧
      (∀ x ∈ xs, x.2.sends.length ≤ m.retry.maxAttempts ∧ ∀ s ∈ x.2.sends, Mails m a x.1 s) ∧
      ∃ o w', (deliver m name datacenter a).run w = (.ok o, w') ∧
        (o.succeeded = true ↔ ∀ x, LastOf xs x → x.2.Delivered) ∧
        ((∀ x ∈ xs, x.2.Delivered) → o.succeeded = true) ∧
        (m.recipients.Nodup → (o.succeeded = true ↔ ∀ x ∈ xs, x.2.Delivered)) := by
  intro xs
  have hrecipients : xs.map (·.1) = m.recipients := map_recipient_mailings m a m.recipients w
  obtain ⟨w', hrun⟩ := exists_run_deliver hn hlookup name datacenter a
  have hverdict := succeeded_outcomeOf_iff name xs
  refine ⟨hrecipients, fun x hx => ?_, _, w', hrun, hverdict, fun hall => ?_, fun hnodup => ?_⟩
  · obtain ⟨w₁, hx⟩ := exists_mailing_of_mem hx
    rw [hx]
    exact ⟨length_sends_le m a x.1 w₁, fun s hs => mails_of_mem_sends hs⟩
  · exact hverdict.mpr fun x hx => hall x hx.mem
  · rw [← hrecipients] at hnodup
    rw [hverdict]
    exact forall_congr' fun x => imp_congr_left (lastOf_iff_mem_of_nodup hnodup)

/-! ## A recipient who is listed twice -/

/-- A channel that mails one recipient twice, each time with one attempt. -/
def repeating (recipient : Text) : Mailer :=
  ⟨[recipient, recipient], {}, .channels, Program.resolve, {}⟩

/-- The failure of a mail whose connection is ended. -/
def disconnected : Fault := ⟨"SMTPServerDisconnected", "gone"⟩

/-- A network that ends the connection of the first mail to a recipient. -/
def disconnectingOnce (recipient : Text) : Network :=
  .ofMails recipient [⟨none, .error (.fault disconnected)⟩, ⟨none, .ok ()⟩]

theorem onlyFaults_disconnectingOnce (recipient : Text) :
    (disconnectingOnce recipient).OnlyFaults := by
  refine onlyFaults_ofMails (List.forall_mem_cons.mpr ⟨?_, List.forall_mem_singleton.mpr trivial⟩)
  exact Failure.not_breaks_fault disconnected

section Twice

variable {recipient : Text}

theorem mailReply_first (hn : w.network = disconnectingOnce recipient)
    (hcount : countOf w.mails recipient = 0) :
    (mailReply w recipient).outcome = .error (.fault disconnected) := by
  rw [mailReply, hn, hcount, disconnectingOnce, Network.ofMails, List.lookup_cons_self]
  rfl

theorem mailReply_second (hn : w.network = disconnectingOnce recipient)
    (hcount : countOf w.mails recipient = 1) : (mailReply w recipient).outcome = .ok () := by
  rw [mailReply, hn, hcount, disconnectingOnce, Network.ofMails, List.lookup_cons_self]
  rfl

theorem run_findServer_repeating {domain : Text} (hdomain : recipientDomain recipient = .ok domain)
    (hn : w.network = disconnectingOnce recipient) :
    (findServer (repeating recipient) recipient).run w =
      (.ok ("mx." ++ domain), w.see (.resolverCall domain)) := by
  have hanswer : (w.network.resolver.lookup domain).getD (.ok ("mx." ++ domain)) =
      .ok ("mx." ++ domain) := by
    rw [hn]
    rfl
  have hrun : (Program.resolve domain).run w =
      ((w.network.resolver.lookup domain).getD (.ok ("mx." ++ domain)),
        w.see (.resolverCall domain)) := run_ofExcept _ _
  rw [hanswer] at hrun
  rw [findServer, hdomain]
  exact hrun

variable {domain : Text} {message : Mail.Message}

/-- Where one attempt is allowed, a mail is sent once. -/
theorem attempts_repeating (l : RetryLog) (host : Text) (message : Mail.Message) (w : World) :
    (repeating recipient).retry.attempts l (fun _ => sendTo host message)
        (repeating recipient).retry.maxRetries 1 w =
      [⟨w, ((sendTo host message).run w).1, (sendTo host message).seen w⟩] := rfl

/-- The first mailing fails for good, and one mail is counted. -/
theorem first_mailing (hdomain : recipientDomain recipient = .ok domain)
    (hmessage : Mail.compose {} recipient a = .ok message)
    (hrecipient : message.recipient = recipient)
    (hn : w.network = disconnectingOnce recipient) (hcount : countOf w.mails recipient = 0) :
    ¬ (mailing (repeating recipient) a recipient w).Delivered ∧
      countOf ((deliverTo (repeating recipient) a recipient).run w).2.mails recipient = 1 := by
  have hserver := run_findServer_repeating hdomain hn
  obtain ⟨w', hsend, hmails⟩ :=
    run_sendTo ("mx." ++ domain) message (w.see (.resolverCall domain))
  rw [hrecipient] at hsend hmails
  rw [mailReply_first (w := w.see (.resolverCall domain)) hn hcount] at hsend
  constructor
  · rw [mailing_of_sent hserver hmessage, attempts_repeating, hsend]
    rintro ⟨s, hs, hresult⟩
    obtain rfl := List.mem_singleton.mp hs
    cases hresult
  · have hretry : ((repeating recipient).retry.run
        (sendLog (repeating recipient) recipient ("mx." ++ domain))
        fun _ => sendTo ("mx." ++ domain) message).run (w.see (.resolverCall domain)) = _ :=
      @RetryPolicy.run_runFrom_last _ _ _ (fun _ => sendTo ("mx." ++ domain) message) 1 _ _ _
        hsend []
    have hmailed : ((mailTo (repeating recipient) recipient ("mx." ++ domain) message).run
        (w.see (.resolverCall domain))).2.mails = w'.mails := by
      rw [mailTo, run_bind_ok hretry]
      rfl
    rw [run_deliverTo_of_composed hserver hmessage, hmailed, hmails, countOf_countUp]
    exact congrArg (· + 1) hcount

/-- The second mailing gets through. -/
theorem second_mailing (hdomain : recipientDomain recipient = .ok domain)
    (hmessage : Mail.compose {} recipient a = .ok message)
    (hrecipient : message.recipient = recipient)
    (hn : w.network = disconnectingOnce recipient) (hcount : countOf w.mails recipient = 1) :
    (mailing (repeating recipient) a recipient w).Delivered := by
  have hserver := run_findServer_repeating hdomain hn
  obtain ⟨w', hsend, -⟩ :=
    run_sendTo ("mx." ++ domain) message (w.see (.resolverCall domain))
  rw [hrecipient, mailReply_second (w := w.see (.resolverCall domain)) hn hcount] at hsend
  rw [mailing_of_sent hserver hmessage, attempts_repeating, hsend]
  exact ⟨_, List.mem_cons_self, rfl⟩

theorem mailings_repeating (recipient : Text) (a : Alert) (w : World) :
    mailings (repeating recipient) a (repeating recipient).recipients w =
      [(recipient, mailing (repeating recipient) a recipient w),
        (recipient, mailing (repeating recipient) a recipient
          ((deliverTo (repeating recipient) a recipient).run w).2)] := rfl

/-- Of two mailings to one recipient only the second counts. -/
theorem succeeded_pair_iff (name : Text) (x y : Mailing) :
    (outcomeOf name [(recipient, x), (recipient, y)]).succeeded = true ↔ y.Delivered := by
  rw [succeeded_outcomeOf_iff]
  constructor
  · intro h
    exact h (recipient, y) ⟨[(recipient, x)], [], rfl, List.not_mem_nil⟩
  · rintro hy e he
    rcases lastOf_cons.mp he with ⟨rfl, hafter⟩ | he
    · exact absurd List.mem_cons_self hafter
    · obtain rfl := List.mem_singleton.mp he.mem
      exact hy

end Twice

/-- An alert whose mail can be composed for a recipient. -/
def outage : Alert := ⟨"node1", "web", "v2", .critical, "down", ""⟩

theorem exists_compose_outage :
    ∃ message, Mail.compose {} "ops@example.org" outage = .ok message ∧
      message.recipient = "ops@example.org" := by
  have h : (Mail.compose {} "ops@example.org" outage).map (·.recipient) =
      .ok "ops@example.org" := by
    cbv
  cases hmessage : Mail.compose {} "ops@example.org" outage with
  | error f =>
    rw [hmessage] at h
    cases h
  | ok message =>
    rw [hmessage] at h
    exact ⟨message, rfl, Except.ok.inj h⟩

/-- A success does not always mean that every mailing got through. -/
theorem not_every_mailing_delivered :
    ¬ ∀ (m : Mailer) (name datacenter : Text) (a : Alert) (w : World) (o : Outcome),
      w.network.OnlyFaults →
      (∀ domain, (m.lookup domain).NeverBreaks w.network fun _ => True) →
      ((deliver m name datacenter a).run w).1 = .ok o →
      (o.succeeded = true ↔ ∀ x ∈ mailings m a m.recipients w, x.2.Delivered) := by
  intro h
  let w : World := { network := disconnectingOnce "ops@example.org" }
  have hn : w.network.OnlyFaults := onlyFaults_disconnectingOnce "ops@example.org"
  have hlookup : ∀ domain, ((repeating "ops@example.org").lookup domain).NeverBreaks w.network
      fun _ => True := neverBreaks_resolve hn
  have hdomain : recipientDomain "ops@example.org" = .ok "example.org" := by cbv
  obtain ⟨message, hmessage, hrecipient⟩ := exists_compose_outage
  obtain ⟨hfirst, hcount⟩ := first_mailing (w := w) hdomain hmessage hrecipient rfl rfl
  have hsecond := second_mailing hdomain hmessage hrecipient (network_run _ w) hcount
  obtain ⟨w', hrun⟩ := exists_run_deliver hn hlookup "email" "dc1" outage
  have hall := h _ _ _ _ w _ hn hlookup (congrArg Prod.fst hrun)
  -- Only the second mailing counts, and it got through; the first did not.
  rw [mailings_repeating, succeeded_pair_iff] at hall
  have hdelivered := hall.mp hsecond _ List.mem_cons_self
  dsimp only at hdelivered
  exact hfirst hdelivered

theorem succeeds_iff_last_mailings_delivered_repeating :
    let m := repeating "ops@example.org"
    let w : World := { network := disconnectingOnce "ops@example.org" }
    w.network.OnlyFaults ∧
      (∀ domain, (m.lookup domain).NeverBreaks w.network fun _ => True) ∧
      ∃ o w', (deliver m "email" "dc1" outage).run w = (.ok o, w') ∧
        (o.succeeded = true ↔
          ∀ x, LastOf (mailings m outage m.recipients w) x → x.2.Delivered) := by
  intro m w
  have hn : w.network.OnlyFaults := onlyFaults_disconnectingOnce "ops@example.org"
  have hlookup : ∀ domain, (m.lookup domain).NeverBreaks w.network fun _ => True :=
    neverBreaks_resolve hn
  obtain ⟨-, -, o, w', hrun, hverdict, -⟩ :=
    succeeds_iff_last_mailings_delivered m "email" "dc1" outage w hn hlookup
  exact ⟨hn, hlookup, o, w', hrun, hverdict⟩

end AlertRelay.Email
