import AlertRelay.Proofs.ObservedErrors
import AlertRelay.Proofs.Email.Parts
import AlertRelay.Proofs.Sessions.Holders

/-!
# Accounts of deliveries

An outcome counts attempts. The account of a delivery compares this number with what is seen: the
posts or the mails that are sent, and the delays between them. A run of retries leaves one delay
between each two transmissions, so a delivery is `Accounted` for if its attempts are the sum of its
delays and of the runs in which something was transmitted. The PagerDuty and the Slack channel have
one run for each delivery; the email channel has one for each position in the list of recipients,
and what is seen of it falls into `Email.parts` accordingly.
-/

namespace AlertRelay

open Program RetryPolicy

variable {w : World}

/-- Whether an outcome and what is seen of its delivery agree, when `runs` of at most `entries` runs
of retries transmitted something: the outcome counts the transmissions, there are no more of them
than the runs allow, and there is one delay of the configured length between each two of a run. -/
structure Accounted (o : Outcome) (p : RetryPolicy) (transmissions runs entries : Nat)
    (delays : List Seconds) : Prop where
  counted : o.attempts = transmissions
  limited : transmissions ≤ p.maxAttempts * entries
  delayed : ∃ k : Nat, delays = List.replicate k p.delay ∧ o.attempts = k + runs

/-- A single run of retries is accounted for. -/
theorem Accounted.of_run {o : Outcome} {p : RetryPolicy} {n : Nat} {delays : List Seconds}
    (ho : o.attempts = n) (hpos : 0 < n) (hle : n ≤ p.maxAttempts)
    (hdelays : delays = List.replicate (n - 1) p.delay) : Accounted o p n 1 1 delays where
  counted := ho
  limited := by rwa [Nat.mul_one]
  delayed := ⟨n - 1, hdelays, by omega⟩

/-! ## The email channel -/

namespace Email

/-- A delivery of mails is accounted for by the parts in which a mail is sent. -/
theorem accounted_deliver {m : Mailer} (hm : m.LooksUpOnly w.network) {name datacenter : Text}
    {a : Alert} {o : Outcome} (h : ((deliver m name datacenter a).run w).1 = .ok o) :
    let seen := (deliver m name datacenter a).seen w
    Accounted o m.retry (submissionsIn seen).length ((parts m a m.recipients w).countP Mailed)
      m.recipients.length (delaysIn seen) := by
  intro seen
  have hattempts : o.attempts = ((mailings m a m.recipients w).flatMap (·.2.sends)).length := by
    rw [eq_of_deliver_eq_ok h, outcomeOf]
  have hmails : (submissionsIn seen).length =
      ((mailings m a m.recipients w).flatMap (·.2.sends)).length := by
    rw [show seen = _ from seen_deliver h, length_submissionsIn_parts hm.sendsNone]
  obtain ⟨k, hdelays, hcount⟩ :=
    exists_delaysIn_parts hm.sendsNone hm.delaysNone a m.recipients w
  constructor
  · rw [hattempts, hmails]
  · rw [hmails]
    exact length_sends_mailings_le m a m.recipients w
  · refine ⟨k, ?_, ?_⟩
    · rw [show seen = _ from seen_deliver h, hdelays]
    · omega

end Email

/-! ## The PagerDuty channel -/

namespace PagerDuty

theorem Client.attempts_of_postEvent_eq_ok {c : Client} {e : IncidentEvent} {response : Response}
    (h : ((c.postEvent e).run w).1 = .ok response) :
    response.attempts = (c.attempts e w).length := by
  obtain ⟨r, w', hrun, h⟩ := exists_of_run_bind_eq_ok h
  have hr : r.attempts = (c.attempts e w).length := attempts_of_run_eq_ok (congrArg Prod.fst hrun)
  rw [← hr]
  cases hvalue : r.value with
  | some reply =>
    rw [hvalue] at h
    rw [← Except.ok.inj h]
  | none =>
    rw [hvalue] at h
    rw [← Except.ok.inj h]

theorem attempts_of_deliver_eq_ok {c : Client} {name datacenter : Text} {a : Alert} {o : Outcome}
    (h : ((deliver c name datacenter a).run w).1 = .ok o) :
    o.attempts = (c.attempts (alertEvent c datacenter a) w).length := by
  obtain ⟨response, w', hrun, rfl⟩ := exists_response_of_deliver_eq_ok h
  exact congrArg Int.ofNat (Client.attempts_of_postEvent_eq_ok (congrArg Prod.fst hrun))

/-- A delivery by PagerDuty is accounted for by the one run of retries that posts its event. -/
theorem accounted_deliver {c : Client} {name datacenter : Text} {a : Alert} {o : Outcome}
    (h : ((deliver c name datacenter a).run w).1 = .ok o) :
    let seen := (deliver c name datacenter a).seen w
    Accounted o c.retry (postsIn seen).length 1 1 (delaysIn seen) := by
  intro seen
  let e := alertEvent c datacenter a
  have hposts : (postsIn seen).length = (c.attempts e w).length := by
    rw [← c.length_posts_postEvent e w, postsIn_deliver]
  have hdelays : delaysIn seen =
      List.replicate ((c.attempts e w).length - 1) c.retry.delay := by
    have hpost : delaysIn seen = delaysIn ((c.postEvent e).seen w) :=
      filterMap_seen_deliver (fun _ => rfl) c name datacenter a w
    rw [hpost, c.seen_postEvent]
    exact delaysIn_runFrom
      (fun _ => c.showsNone_postOnce (fun _ _ => rfl) (fun _ _ _ => rfl) e) _ _ _ _
  rw [hposts]
  exact .of_run (attempts_of_deliver_eq_ok h) (length_attempts_pos _ _ _)
    (length_attempts_le _ _ _) hdelays

end PagerDuty

/-! ## The Slack channel -/

namespace Slack.Webhook

theorem showsNone_delay_postOnce (hook : Webhook) (text : Text) :
    (hook.postOnce text).ShowsNone Entry.delay? := by
  have hclock : readClock.ShowsNone Entry.delay? := fun _ => rfl
  refine hclock.bind fun (now : Seconds) => ?_
  cases now.truncate? with
  | none => exact showsNone_fail _
  | some timestamp =>
    refine (showsNone_acquire (fun _ _ => rfl) _ _).bind fun session => ?_
    exact (showsNone_post (fun _ _ _ => rfl) session hook.url _).bind fun _ => showsNone_ofExcept _

/-- Apart from the log, a delivery shows what its retries do. -/
theorem filterMap_seen_deliver {β : Type} {pick : Entry → Option β}
    (hlog : ∀ c, pick (.log c) = none) (hook : Webhook) (name datacenter : Text) (a : Alert)
    (w : World) :
    ((hook.deliver name datacenter a).seen w).filterMap pick =
      ((hook.retry.run ⟨hook.logger, "slack_send", [("channel", .text hook.room)]⟩
        fun _ => hook.postOnce (noteText a)).seen w).filterMap pick := by
  refine filterMap_seen_bind (fun r => ?_) w
  by_cases hsent : r.succeeded = true
  · simp only [hsent, if_true]
    exact (showsNone_note (hlog _)).bind fun _ => showsNone_pure _
  · simp only [hsent]
    exact showsNone_pure _

theorem attempts_of_deliver_eq_ok {hook : Webhook} {name datacenter : Text} {a : Alert}
    {o : Outcome} (h : ((hook.deliver name datacenter a).run w).1 = .ok o) :
    o.attempts = (hook.attempts a w).length := by
  obtain ⟨r, hr, rfl⟩ := exists_retried_of_deliver_eq_ok h
  rw [hr]
  exact congrArg Int.ofNat (attempts_summary _ _)

theorem accounted_deliver {hook : Webhook} {name datacenter : Text} {a : Alert} {o : Outcome}
    (hclock : w.network.ClockRuns) (h : ((hook.deliver name datacenter a).run w).1 = .ok o) :
    let seen := (hook.deliver name datacenter a).seen w
    Accounted o hook.retry (postsIn seen).length 1 1 (delaysIn seen) := by
  intro seen
  -- As long as the clock runs, every attempt posts.
  have hone : ∀ s ∈ hook.attempts a w, (s.shown.filterMap Entry.post?).length = 1 := by
    intro s hs
    obtain ⟨_, -, hshown⟩ := exists_of_mem_attempts hs
    have hnetwork : s.world.network = w.network := network_of_mem_attempts hs
    obtain ⟨session, t, hposts⟩ :=
      hook.postsIn_postOnce (noteText a) (w := s.world) (hnetwork ▸ hclock)
    rw [hshown]
    exact congrArg List.length hposts
  have hposts : (postsIn seen).length = (hook.attempts a w).length := by
    rw [show postsIn seen = _ from filterMap_seen_deliver (fun _ => rfl) hook name datacenter a w]
    exact length_filterMap_seen_runFrom (fun _ => rfl) (fun _ => rfl) _ _ _ _ hone
  have hdelays : delaysIn seen =
      List.replicate ((hook.attempts a w).length - 1) hook.retry.delay := by
    rw [show delaysIn seen = _ from filterMap_seen_deliver (fun _ => rfl) hook name datacenter a w]
    exact delaysIn_runFrom (fun _ => hook.showsNone_delay_postOnce (noteText a)) _ _ _ _
  rw [hposts]
  exact .of_run (attempts_of_deliver_eq_ok h) (length_attempts_pos _ _ _)
    (length_attempts_le _ _ _) hdelays

end Slack.Webhook

/-! ## All channels -/

/-- **Deliveries are accounted for.** On a network that raises only faults every delivery returns an
outcome that counts what was transmitted. A PagerDuty or a Slack channel makes at most as many posts
as attempts are allowed, with a delay between each two of them. What is seen of an email channel
falls into parts, one for each position in the list of recipients and with mails to that recipient
only; it sends at most as many mails for each position as attempts are allowed, and there is one
delay for each mail but the first of every part with mails. -/
theorem deliveries_accounted (w : World) (hn : w.network.OnlyFaults) (name datacenter : Text)
    (a : Alert) :
    (∀ m : Email.Mailer, m.LooksUpOnly w.network →
      let seen := (Email.deliver m name datacenter a).seen w
      let parts := Email.parts m a m.recipients w
      seen = parts.flatten ∧
        List.Forall₂
          (fun recipient part =>
            ∀ x ∈ submissionsIn part, Mail.compose m.nesting recipient a = .ok x.message)
          m.recipients parts ∧
        ∃ o w', (Email.deliver m name datacenter a).run w = (.ok o, w') ∧
          Accounted o m.retry (submissionsIn seen).length (parts.countP Email.Mailed)
            m.recipients.length (delaysIn seen)) ∧
    (∀ c : PagerDuty.Client,
      let seen := (PagerDuty.deliver c name datacenter a).seen w
      ∃ o w', (PagerDuty.deliver c name datacenter a).run w = (.ok o, w') ∧
        Accounted o c.retry (postsIn seen).length 1 1 (delaysIn seen)) ∧
    ∀ hook : Slack.Webhook, w.network.ClockRuns →
      let seen := (hook.deliver name datacenter a).seen w
      ∃ o w', (hook.deliver name datacenter a).run w = (.ok o, w') ∧
        Accounted o hook.retry (postsIn seen).length 1 1 (delaysIn seen) := by
  refine ⟨fun m hm => ?_, fun c => ?_, fun hook hclock => ?_⟩
  · obtain ⟨o, w', hrun, -⟩ :=
      (Email.returns_deliver hn hm.neverBreaks name datacenter a).exists_run
    have ho := congrArg Prod.fst hrun
    exact ⟨Email.seen_deliver ho, Email.forall₂_parts hm.sendsNone a m.recipients w, o, w', hrun,
      Email.accounted_deliver hm ho⟩
  · obtain ⟨o, w', hrun, -⟩ := (PagerDuty.returns_deliver hn c name datacenter a).exists_run
    exact ⟨o, w', hrun, PagerDuty.accounted_deliver (congrArg Prod.fst hrun)⟩
  · obtain ⟨o, w', hrun, -⟩ := (Slack.Webhook.returns_deliver hn hook name datacenter a).exists_run
    exact ⟨o, w', hrun, Slack.Webhook.accounted_deliver hclock (congrArg Prod.fst hrun)⟩

/-- A network on which the first mail to a recipient and the first post under a key fail. -/
def failingFirst (recipient key : Text) : Network where
  http := [(key, [⟨none, .error (.fault ⟨"ClientConnectionError", "gone"⟩)⟩,
    Network.defaultReply])]
  smtp := [(recipient, [⟨none, .error (.fault ⟨"SMTPServerDisconnected", "gone"⟩)⟩,
    ⟨none, .ok ()⟩])]
  clock := [.whole 1700000000, .fraction 1700000001.5]

/-- What fails on this network are ordinary faults. -/
theorem onlyFaults_failingFirst (recipient key : Text) :
    (failingFirst recipient key).OnlyFaults where
  http entry hentry := by
    obtain rfl := List.mem_singleton.mp hentry
    refine List.forall_mem_cons.mpr ⟨?_, List.forall_mem_singleton.mpr readable_defaultReply⟩
    exact Failure.not_breaks_fault _
  mx := nofun
  smtp entry hentry := by
    obtain rfl := List.mem_singleton.mp hentry
    exact List.forall_mem_cons.mpr
      ⟨Failure.not_breaks_fault _, List.forall_mem_singleton.mpr trivial⟩
  resolver := nofun

theorem clockRuns_failingFirst (recipient key : Text) :
    (failingFirst recipient key).ClockRuns := by
  have hreadings : ∀ t ∈ [Seconds.whole 1700000000, .fraction 1700000001.5],
      t.truncate?.isSome = true := by decide
  exact hreadings

theorem deliveries_accounted_failingFirst :
    let w : World := { network := failingFirst "ops@example.org" "key" }
    let a : Alert := ⟨"node1", "web", "v2", .critical, "down", ""⟩
    let m : Email.Mailer :=
      ⟨["ops@example.org", "nobody", "ops@example.org"], { maxRetries := 2 }, .channels,
        Program.resolve, {}⟩
    let c : PagerDuty.Client := { serviceKey := "key", retry := { maxRetries := 1 } }
    let hook : Slack.Webhook := { url := "key", room := "#ops", retry := {} }
    w.network.OnlyFaults ∧ m.LooksUpOnly w.network ∧ w.network.ClockRuns ∧
      (∃ o w', (Email.deliver m "mail" "dc1" a).run w = (.ok o, w') ∧
        o.attempts = (submissionsIn ((Email.deliver m "mail" "dc1" a).seen w)).length) ∧
      (∃ o w', (PagerDuty.deliver c "pager" "dc1" a).run w = (.ok o, w') ∧
        o.attempts = (postsIn ((PagerDuty.deliver c "pager" "dc1" a).seen w)).length) ∧
      ∃ o w', (hook.deliver "slack" "dc1" a).run w = (.ok o, w') ∧
        o.attempts = (postsIn ((hook.deliver "slack" "dc1" a).seen w)).length := by
  intro w a m c hook
  have hn : w.network.OnlyFaults := onlyFaults_failingFirst _ _
  have hm : m.LooksUpOnly w.network := Email.Mailer.looksUpOnly hn (.inr rfl)
  have hclock : w.network.ClockRuns := clockRuns_failingFirst _ _
  obtain ⟨-, -, o, w', hrun, hmails⟩ := (deliveries_accounted w hn "mail" "dc1" a).1 m hm
  obtain ⟨o₁, w₁, hrun₁, hposts⟩ := (deliveries_accounted w hn "pager" "dc1" a).2.1 c
  obtain ⟨o₂, w₂, hrun₂, hnotes⟩ := (deliveries_accounted w hn "slack" "dc1" a).2.2 hook hclock
  exact ⟨hn, hm, hclock, ⟨o, w', hrun, hmails.counted⟩, ⟨o₁, w₁, hrun₁, hposts.counted⟩,
    o₂, w₂, hrun₂, hnotes.counted⟩

end AlertRelay
