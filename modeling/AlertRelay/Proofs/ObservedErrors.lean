import AlertRelay.Proofs.Email.Verdict
import AlertRelay.Proofs.PagerDuty.Correlation

/-!
# The errors of outcomes

What failed in a delivery is recorded attempt by attempt. The email and the Slack channel put all of
it into the outcome. The PagerDuty channel does so when no attempt came to a reply; otherwise its
outcome has the errors that the reply names, and what failed before the reply is lost
(`errors_tell_failures`, `reply_hides_failures`).
-/

namespace AlertRelay

open Program RetryPolicy

variable {w : World}

/-! ## The Slack channel -/

namespace Slack.Webhook

def attempts (hook : Webhook) (a : Alert) (w : World) : List (Attempt Unit) :=
  hook.retry.attempts ⟨hook.logger, "slack_send", [("channel", .text hook.room)]⟩
    (fun _ => hook.postOnce (noteText a)) hook.retry.maxRetries 1 w

/-- A delivery that returns tells what its retries came to. -/
theorem exists_retried_of_deliver_eq_ok {hook : Webhook} {name datacenter : Text} {a : Alert}
    {o : Outcome} (h : ((hook.deliver name datacenter a).run w).1 = .ok o) :
    ∃ r : Retried Unit, r = summary 1 [] (hook.attempts a w) ∧
      o = ⟨name, r.succeeded, r.attempts, r.errors, []⟩ := by
  obtain ⟨r, w', hrun, h⟩ := exists_of_run_bind_eq_ok h
  refine ⟨r, eq_of_run_eq_ok (congrArg Prod.fst hrun), ?_⟩
  -- Logging a success changes nothing.
  split at h
  · exact (Except.ok.inj h).symm
  · exact (Except.ok.inj h).symm

theorem errors_of_deliver_eq_ok {hook : Webhook} {name datacenter : Text} {a : Alert} {o : Outcome}
    (h : ((hook.deliver name datacenter a).run w).1 = .ok o) :
    o.errors = failures (hook.attempts a w) := by
  obtain ⟨r, hr, rfl⟩ := exists_retried_of_deliver_eq_ok h
  rw [hr]
  rfl

end Slack.Webhook

/-! ## The PagerDuty channel -/

namespace PagerDuty

/-- The errors of an event that no reply came to are its failures, and those of one with a reply are
the errors that the reply names. -/
theorem Client.errors_of_postEvent_eq_ok {c : Client} {e : IncidentEvent} {response : Response}
    (h : ((c.postEvent e).run w).1 = .ok response) :
    response.errors =
      match valueOf (c.attempts e w) with
      | none => failures (c.attempts e w)
      | some reply => reply.errors := by
  obtain ⟨r, w', hrun, h⟩ := exists_of_run_bind_eq_ok h
  have hr : r = summary 1 [] (c.attempts e w) := eq_of_run_eq_ok (congrArg Prod.fst hrun)
  have hvalue : r.value = valueOf (c.attempts e w) := by rw [hr]; rfl
  rw [← hvalue]
  cases hreply : r.value with
  | some reply =>
    rw [hreply] at h
    rw [← Except.ok.inj h]
  | none =>
    rw [hreply] at h
    rw [← Except.ok.inj h, hr]
    rfl

theorem errors_of_deliver_eq_ok {c : Client} {name datacenter : Text} {a : Alert} {o : Outcome}
    (h : ((deliver c name datacenter a).run w).1 = .ok o) :
    o.errors =
      match valueOf (c.attempts (alertEvent c datacenter a) w) with
      | none => failures (c.attempts (alertEvent c datacenter a) w)
      | some reply => reply.errors := by
  obtain ⟨response, w', hrun, rfl⟩ := exists_response_of_deliver_eq_ok h
  exact c.errors_of_postEvent_eq_ok (congrArg Prod.fst hrun)

end PagerDuty

/-! ## All channels -/

/-- **What outcomes tell of failures.** On a network and with a look-up of mail servers that raise
only faults, every delivery returns an outcome. That of the email channel has as its errors, in
order, what is recorded for every failed look-up, composition and send; that of the Slack channel
what is recorded for every failed attempt. That of the PagerDuty channel has what is recorded for
the failed attempts if none came to a reply, and otherwise the errors that the reply names: it tells
of the failures exactly if the reply happens to name them. -/
theorem errors_tell_failures (w : World) (hn : w.network.OnlyFaults) (name datacenter : Text)
    (a : Alert) (m : Email.Mailer)
    (hlookup : ∀ domain, (m.lookup domain).NeverBreaks w.network fun _ => True)
    (hook : Slack.Webhook) (c : PagerDuty.Client) :
    (∃ o w', (Email.deliver m name datacenter a).run w = (.ok o, w') ∧
      o.errors = (Email.mailings m a m.recipients w).flatMap (·.2.failures)) ∧
    (∃ o w', (hook.deliver name datacenter a).run w = (.ok o, w') ∧
      o.errors = failures (hook.attempts a w)) ∧
    (let tries := c.attempts (PagerDuty.alertEvent c datacenter a) w
     ∃ o w', (PagerDuty.deliver c name datacenter a).run w = (.ok o, w') ∧
      (valueOf tries = none → o.errors = failures tries) ∧
      (∀ reply, valueOf tries = some reply → o.errors = reply.errors) ∧
      ((failures tries).Sublist o.errors ↔
        ∀ reply, valueOf tries = some reply → (failures tries).Sublist reply.errors)) := by
  refine ⟨?_, ?_, ?_⟩
  · obtain ⟨w', hrun⟩ := Email.exists_run_deliver hn hlookup name datacenter a
    exact ⟨_, w', hrun, rfl⟩
  · obtain ⟨o, w', hrun, -⟩ :=
      (Slack.Webhook.returns_deliver hn hook name datacenter a).exists_run
    exact ⟨o, w', hrun, Slack.Webhook.errors_of_deliver_eq_ok (congrArg Prod.fst hrun)⟩
  · intro tries
    obtain ⟨o, w', hrun, -⟩ := (PagerDuty.returns_deliver hn c name datacenter a).exists_run
    have ho : o.errors = match valueOf tries with
        | none => failures tries
        | some reply => reply.errors :=
      PagerDuty.errors_of_deliver_eq_ok (congrArg Prod.fst hrun)
    refine ⟨o, w', hrun, ?_⟩
    cases hreply : valueOf tries with
    | none =>
      rw [hreply] at ho
      refine ⟨fun _ => ho, nofun, fun _ => nofun, fun _ => ?_⟩
      rw [ho]
    | some reply =>
      rw [hreply] at ho
      refine ⟨nofun, fun _ hr => Option.some.inj hr ▸ ho, ?_⟩
      rw [ho]
      simp only [Option.some.injEq, forall_eq']

/-! ## A reply that hides a failure -/

namespace PagerDuty

/-- A fault before a reply is recorded, and the reply is the value. -/
theorem Client.attempts_of_fault_then_reply {c : Client} {e : IncidentEvent} {f : Fault}
    {reply : Response} (hretries : c.retry.maxRetries = 1)
    (hfirst : answer (w.replyTo e.serviceKey 0) = .error (.fault f))
    (hsecond : answer (w.replyTo e.serviceKey 1) = .ok reply) :
    failures (c.attempts e w) = [f.reason] ∧ valueOf (c.attempts e w) = some reply := by
  obtain ⟨w₁, hrun, hnext⟩ := c.run_postOnce e w
  rw [hfirst] at hrun
  -- The log and the delay between the attempts leave the replies as they are.
  let w₂ := c.retry.worldAfterFault (c.retryLog e) 1 f w₁
  obtain ⟨w₃, hagain, -⟩ := c.run_postOnce e w₂
  rw [show w₂.replyTo e.serviceKey 0 = w.replyTo e.serviceKey 1 from hnext 0, hsecond] at hagain
  rw [Client.attempts, hretries, attempts_again hrun, attempts_ok hagain]
  exact ⟨rfl, rfl⟩

/-- The failure of a post whose connection is ended. -/
def disconnected : Fault := ⟨"ServerDisconnectedError", "Server disconnected"⟩

/-- A network that ends the connection of the first post under a key, and replies to the others that
the event was accepted. -/
def disconnectingPost (key : Text) : Network :=
  .ofPosts key [⟨none, .error (.fault disconnected)⟩, ⟨none, .ok ⟨200, "", none, 100⟩⟩]

theorem onlyFaults_disconnectingPost (key : Text) : (disconnectingPost key).OnlyFaults := by
  refine onlyFaults_ofPosts (List.forall_mem_cons.mpr ⟨?_, List.forall_mem_singleton.mpr ?_⟩)
  · exact Failure.not_breaks_fault disconnected
  · exact fun x hx => nomatch hx

/-- An outcome of the PagerDuty channel does not always tell of the failures that it observed. -/
theorem reply_hides_failures :
    ¬ ∀ (c : Client) (name datacenter : Text) (a : Alert) (w : World) (o : Outcome),
      w.network.OnlyFaults → ((deliver c name datacenter a).run w).1 = .ok o →
      (failures (c.attempts (alertEvent c datacenter a) w)).Sublist o.errors := by
  intro h
  let c : Client := { serviceKey := "key", retry := { maxRetries := 1 } }
  let w : World := { network := disconnectingPost "key" }
  let a : Alert := ⟨"node1", "web", "v2", .critical, "down", ""⟩
  have hn : w.network.OnlyFaults := onlyFaults_disconnectingPost "key"
  obtain ⟨o, w', hrun, -⟩ := (returns_deliver hn c "pagerduty" "dc1" a).exists_run
  have htold := h c "pagerduty" "dc1" a w o hn (congrArg Prod.fst hrun)
  have ho := errors_of_deliver_eq_ok (congrArg Prod.fst hrun)
  have hfirst : answer (w.replyTo c.serviceKey 0) = .error (.fault disconnected) := by rfl
  have hsecond : answer (w.replyTo c.serviceKey 1) = .ok { httpStatus := 200 } := by rfl
  obtain ⟨hfailures, hvalue⟩ :=
    c.attempts_of_fault_then_reply (e := alertEvent c "dc1" a) rfl hfirst hsecond
  rw [hvalue] at ho
  rw [hfailures, ho] at htold
  exact absurd (List.sublist_nil.mp htold) (List.cons_ne_nil _ _)

end PagerDuty

theorem errors_tell_failures_disconnectingPost :
    let w : World := { network := PagerDuty.disconnectingPost "key" }
    let c : PagerDuty.Client := { serviceKey := "key", retry := { maxRetries := 1 } }
    let m : Email.Mailer := ⟨["ops@example.org"], {}, .channels, Email.lookupServer, {}⟩
    let hook : Slack.Webhook := { url := Slack.webhookUrl "T0/B0/x", room := "alerts", retry := {} }
    let a : Alert := ⟨"node1", "web", "v2", .critical, "down", ""⟩
    w.network.OnlyFaults ∧
      (∀ domain, (m.lookup domain).NeverBreaks w.network fun _ => True) ∧
      (∃ o w', (Email.deliver m "email" "dc1" a).run w = (.ok o, w') ∧
        o.errors = (Email.mailings m a m.recipients w).flatMap (·.2.failures)) ∧
      (∃ o w', (hook.deliver "slack" "dc1" a).run w = (.ok o, w') ∧
        o.errors = failures (hook.attempts a w)) ∧
      ∃ o w', (PagerDuty.deliver c "pagerduty" "dc1" a).run w = (.ok o, w') := by
  intro w c m hook a
  have hn : w.network.OnlyFaults := PagerDuty.onlyFaults_disconnectingPost "key"
  have hlookup : ∀ domain, (m.lookup domain).NeverBreaks w.network fun _ => True :=
    Email.neverBreaks_lookupServer hn
  obtain ⟨hmail, -⟩ := errors_tell_failures w hn "email" "dc1" a m hlookup hook c
  obtain ⟨-, hslack, -⟩ := errors_tell_failures w hn "slack" "dc1" a m hlookup hook c
  obtain ⟨-, -, o, w', hrun, -⟩ :=
    errors_tell_failures w hn "pagerduty" "dc1" a m hlookup hook c
  exact ⟨hn, hlookup, hmail, hslack, o, w', hrun⟩

end AlertRelay
