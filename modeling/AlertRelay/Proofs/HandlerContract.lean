import AlertRelay.Wiring
import AlertRelay.Proofs.Entries
import AlertRelay.Proofs.Lives
import AlertRelay.Proofs.Network

/-!
# The contract of handlers

A handler that delivers an alert keeps what goes wrong to itself: it returns an outcome under its
own name, and one of failure has a reason. Only a console channel of level panic or fatal ends a
delivery instead. For each kind of channel a lemma says what its deliveries settle on a network that
raises only faults; `Channel.life_keeps_contract` puts them together for every life of every
handler.
-/

namespace AlertRelay

open Program

variable {n : Network}

/-- Whether an outcome bears a name and, if it is a failure, has a reason. -/
structure Outcome.Accountable (name : Text) (o : Outcome) : Prop where
  channel : o.channel = name
  reason : o.succeeded = false → o.errors ≠ []

/-! ## The console channel -/

namespace Console

/-- How a console channel of level panic or fatal ends a delivery. -/
def ending (c : ConsoleConfig) (a : Alert) : Option Failure :=
  match Level.ofName? (levelName c) with
  | some .panic => some (.panic a.message)
  | some .fatal => some (.stop (.int 1))
  | _ => none

theorem returns_logLines (logger : Logger) (severity : Severity) (fields : List (String × Value))
    (lines : List Text) : (logLines logger severity fields lines).Returns n fun _ => True := by
  induction lines with
  | nil => exact Returns.pure trivial
  | cons line rest ih => exact Returns.bind (returns_log _ _ _ _) fun _ _ => ih

theorem settled_deliver (c : ConsoleConfig) (name : Text) (logger : Logger) (datacenter : Text)
    (a : Alert) : (deliver c name logger datacenter a).Settled World.network
      (fun x => match ending c a with
        | none => Returned (Outcome.Accountable name) x
        | some f => x = .error f) n := by
  unfold deliver ending
  cases Level.ofName? (levelName c) with
  | none => exact ⟨rfl, by simp⟩
  | some level =>
    refine Returns.bind (returns_logLines _ _ _ _) fun _ _ => ?_
    cases level with
    | panic => exact rfl
    | fatal => exact rfl
    | _ => exact ⟨rfl, nofun⟩

end Console

/-! ## The email channel -/

namespace Email

theorem neverBreaks_ofResult {α : Type} (x : Except Fault α) :
    (ofResult x).NeverBreaks n fun _ => True := by
  cases x with
  | ok a => trivial
  | error f => exact neverBreaks_fault f

theorem neverBreaks_lookupServer (hn : n.OnlyFaults) (domain : Text) :
    (lookupServer domain).NeverBreaks n fun _ => True := by
  unfold lookupServer
  exact (neverBreaks_queryMx hn domain).bind fun _ _ => neverBreaks_ofResult _

/-- Whether a recipient who got no mail has a reason for it. -/
def Attempted.Accountable (r : Attempted) : Prop := r.succeeded = false → r.errors ≠ []

/-- Whether there is a reason if some recipient got no mail. -/
def Progress.Accountable (p : Progress) : Prop := p.targets.all (·.2) = false → p.errors ≠ []

/-- One more result that gives its reasons keeps the outcome accountable. -/
theorem Progress.Accountable.add {p : Progress} {r : Attempted} (hp : p.Accountable)
    (hr : r.Accountable) (recipient : Text) :
    (p.add recipient r.attempts r.errors r.succeeded).Accountable := by
  intro hfailed herrors
  obtain ⟨hp', hr'⟩ := List.append_eq_nil_iff.mp herrors
  obtain ⟨e, he, hfalse⟩ := List.all_eq_false.mp hfailed
  -- The failure is the one that is added, or was there before.
  rcases Config.mem_enterName he with rfl | he
  · exact hr (by simpa using hfalse) hr'
  · exact hp (List.all_eq_false.mpr ⟨e, he, hfalse⟩) hp'

variable {m : Mailer}

theorem returns_notMailed (event : String) (recipient : Text) (f : Fault) :
    (notMailed m event recipient f).Returns n Attempted.Accountable :=
  Returns.bind (returns_log _ _ _ _) fun _ _ => Returns.pure fun _ => by simp

theorem returns_deliverTo (hn : n.OnlyFaults)
    (hlookup : ∀ domain, (m.lookup domain).NeverBreaks n fun _ => True) (a : Alert)
    (recipient : Text) : (deliverTo m a recipient).Returns n Attempted.Accountable := by
  have hserver : (ofResult (recipientDomain recipient) >>= m.lookup).NeverBreaks n fun _ => True :=
    (neverBreaks_ofResult _).bind fun domain _ => hlookup domain
  unfold deliverTo
  refine hserver.attempt.bind fun x _ => ?_
  cases x with
  | error f => exact returns_notMailed _ _ f
  | ok host =>
    cases Mail.compose m.nesting recipient a with
    | error f => exact returns_notMailed _ _ f
    | ok message =>
      refine Returns.bind (m.retry.run_returns _ fun _ => neverBreaks_send hn _) fun r hr => ?_
      by_cases hsent : r.succeeded = true
      · simp only [hsent, if_true]
        exact Returns.bind (returns_log _ _ _ _) fun _ _ => Returns.pure (nofun)
      · simp only [hsent]
        exact Returns.pure fun _ => hr.2 (by simpa using hsent)

theorem returns_deliverAll (hn : n.OnlyFaults)
    (hlookup : ∀ domain, (m.lookup domain).NeverBreaks n fun _ => True) (a : Alert) {p : Progress}
    (hp : p.Accountable) (recipients : List Text) :
    (deliverAll m a p recipients).Returns n Progress.Accountable := by
  induction recipients generalizing p with
  | nil => exact hp
  | cons recipient rest ih =>
    exact (returns_deliverTo hn hlookup a recipient).bind fun r hr => ih (hp.add hr recipient)

theorem returns_deliver (hn : n.OnlyFaults)
    (hlookup : ∀ domain, (m.lookup domain).NeverBreaks n fun _ => True) (name datacenter : Text)
    (a : Alert) : (deliver m name datacenter a).Returns n (Outcome.Accountable name) :=
  (returns_deliverAll hn hlookup a (p := {}) nofun m.recipients).bind fun _ hp =>
    Returns.pure ⟨rfl, hp⟩

end Email

/-! ## The PagerDuty channel -/

namespace PagerDuty

/-- Reading a reply that can be read raises no more than faults. -/
theorem unbroken_readReply {reply : HttpReply} (h : reply.Readable) :
    Unbroken (fun _ => True) (readReply reply) := by
  unfold readReply
  cases hread : reply.unreadable with
  | some x => exact h x hread
  | none =>
    cases bodyEntries reply.depthLimit reply.body with
    | error f => exact Failure.not_breaks_fault f
    | ok body =>
      show Unbroken _ (if _ then _ else _)
      split
      · exact Failure.not_breaks_fault _
      · cases parseResponse reply.status body with
        | error f => exact Failure.not_breaks_fault f
        | ok response => trivial

theorem neverBreaks_postOnce (hn : n.OnlyFaults) (c : Client) (e : IncidentEvent) :
    (c.postOnce e).NeverBreaks n fun _ => True :=
  Returns.bind (returns_effect (.acquire c.slot c.timeout)) fun session _ =>
    (neverBreaks_post hn session c.url (.event e)).bind fun _ hreply =>
      neverBreaks_ofExcept (unbroken_readReply hreply)

theorem returns_postEvent (hn : n.OnlyFaults) (c : Client) (e : IncidentEvent) :
    (c.postEvent e).Returns n fun _ => True := by
  refine Returns.bind (c.retry.run_returns _ fun _ => neverBreaks_postOnce hn c e) fun r _ => ?_
  cases r.value <;> exact Returns.pure trivial

theorem returns_logErrors (logger : Logger) (a : Alert) (key : Text) (errors : List Text) :
    (logErrors logger a key errors).Returns n fun _ => True := by
  induction errors with
  | nil => exact Returns.pure trivial
  | cons e rest ih => exact Returns.bind (returns_log _ _ _ _) fun _ _ => ih

theorem returns_postAlert (hn : n.OnlyFaults) (c : Client) (key : Text) (a : Alert) :
    (postAlert c key a).Returns n fun _ => True := by
  unfold postAlert
  split
  · exact returns_postEvent hn c _
  · exact returns_postEvent hn c _

theorem returns_deliver (hn : n.OnlyFaults) (c : Client) (name datacenter : Text) (a : Alert) :
    (deliver c name datacenter a).Returns n (Outcome.Accountable name) := by
  unfold deliver
  refine (returns_postAlert hn c _ a).bind fun response _ => ?_
  refine Returns.bind (returns_logErrors _ _ _ _) fun _ _ => ?_
  -- A reply is a success just if it names no error.
  have haccountable : Outcome.Accountable name
      ⟨name, response.ok, response.attempts, response.errors, []⟩ :=
    ⟨rfl, fun hfailed => by simpa [Response.ok] using hfailed⟩
  by_cases hok : response.ok = true
  · rw [if_pos hok]
    exact Returns.bind (returns_log _ _ _ _) fun _ _ => Returns.pure haccountable
  · rw [if_neg hok]
    exact Returns.pure haccountable

end PagerDuty

/-! ## The Slack channel -/

namespace Slack

theorem unbroken_readReply {reply : HttpReply} (h : reply.Readable) :
    Unbroken (fun _ => True) (readReply reply) := by
  unfold readReply
  split
  · trivial
  · cases hread : reply.unreadable with
    | some x => exact h x hread
    | none => exact Failure.not_breaks_fault _

namespace Webhook

theorem neverBreaks_postOnce (hn : n.OnlyFaults) (w : Webhook) (text : Text) :
    (w.postOnce text).NeverBreaks n fun _ => True := by
  unfold postOnce
  refine Returns.bind (returns_effect .readClock) fun (now : Seconds) _ => ?_
  cases now.truncate? with
  | none => exact neverBreaks_fault _
  | some timestamp =>
    refine Returns.bind (returns_effect (.acquire w.slot w.timeout)) fun session _ => ?_
    exact (neverBreaks_post hn session w.url _).bind fun _ hreply =>
      neverBreaks_ofExcept (unbroken_readReply hreply)

theorem returns_deliver (hn : n.OnlyFaults) (w : Webhook) (name datacenter : Text) (a : Alert) :
    (w.deliver name datacenter a).Returns n (Outcome.Accountable name) := by
  unfold deliver
  refine Returns.bind (w.retry.run_returns _ fun _ => neverBreaks_postOnce hn w _) fun r hr => ?_
  have haccountable : Outcome.Accountable name ⟨name, r.succeeded, r.attempts, r.errors, []⟩ :=
    ⟨rfl, hr.2⟩
  by_cases hsent : r.succeeded = true
  · rw [if_pos hsent]
    exact Returns.bind (returns_log _ _ _ _) fun _ _ => Returns.pure haccountable
  · rw [if_neg hsent]
    exact Returns.pure haccountable

end Webhook

end Slack

/-! ## All channels -/

/-- No step of a handler's life changes the network. -/
theorem Handler.network_perform (h : Handler) (w : World) (s : HandlerStep) :
    (h.perform w s).2.network = w.network := by
  cases s with
  | deliver datacenter a => exact network_run _ w
  | close => exact network_run _ w
  | expire => rfl

inductive Channel where
  | console (c : ConsoleConfig) (logger : Logger)
  | email (m : Email.Mailer)
  | pagerduty (c : PagerDuty.Client)
  | slack (w : Slack.Webhook)

namespace Channel

def handler (name : Text) : Channel → Handler
  | console c logger => Console.handler c name logger
  | email m => Email.handler m name
  | pagerduty c => PagerDuty.handler c name
  | slack w => w.handler name

/-- The panic or stop in which the deliveries of an alert end, if it is asked for. -/
def ending (a : Alert) : Channel → Option Failure
  | console c _ => Console.ending c a
  | _ => none

/-- Whether looking up mail servers raises only faults on a network. -/
def LooksUpSafely (n : Network) : Channel → Prop
  | email m => ∀ domain, (m.lookup domain).NeverBreaks n fun _ => True
  | _ => True

/-- Whether a step of a life keeps the contract: a delivery ends as it is asked to, or else returns
an outcome under the name of the handler that gives a reason for a failure. Nothing goes wrong in
the other steps. -/
def KeepsContract (channel : Channel) (name : Text) (r : StepRecord) : Prop :=
  match r.step with
  | .deliver _ a =>
    match channel.ending a with
    | none => ∃ o, r.result = .ok (some o) ∧ o.Accountable name
    | some x => r.result = .error x
  | .close => r.result = .ok none
  | .expire => r.result = .ok none

theorem settled_deliver (hn : n.OnlyFaults) {channel : Channel} (hlookup : channel.LooksUpSafely n)
    (name datacenter : Text) (a : Alert) :
    ((channel.handler name).deliver datacenter a).Settled World.network
      (fun x => match channel.ending a with
        | none => Returned (Outcome.Accountable name) x
        | some f => x = .error f) n := by
  cases channel with
  | console c logger => exact Console.settled_deliver c name logger datacenter a
  | email m => exact Email.returns_deliver hn hlookup name datacenter a
  | pagerduty c => exact PagerDuty.returns_deliver hn c name datacenter a
  | slack w => exact Slack.Webhook.returns_deliver hn w name datacenter a

theorem returns_close (channel : Channel) (name : Text) :
    (channel.handler name).close.Returns n fun _ => True := by
  cases channel with
  | console c logger => exact Returns.pure trivial
  | email m => exact Returns.pure trivial
  | pagerduty c => exact returns_effect (.release c.slot)
  | slack w => exact returns_effect (.release w.slot)

/-- Every step keeps the contract of the channel. -/
theorem keepsContract_perform {w : World} (hn : w.network.OnlyFaults) {channel : Channel}
    (hlookup : channel.LooksUpSafely w.network) (name : Text) (s : HandlerStep) :
    channel.KeepsContract name ((channel.handler name).perform w s).1 := by
  cases s with
  | deliver datacenter a =>
    have hsettled := settled_run (settled_deliver hn hlookup name datacenter a)
    simp only [KeepsContract, Handler.perform]
    cases hending : channel.ending a with
    | none =>
      simp only [hending] at hsettled
      obtain ⟨o, ho, haccountable⟩ := hsettled.exists_eq
      exact ⟨o, by rw [ho]; rfl, haccountable⟩
    | some x =>
      simp only [hending] at hsettled
      rw [hsettled]
      rfl
  | close =>
    obtain ⟨_, _, hrun, -⟩ := (channel.returns_close (n := w.network) name).exists_run
    simp only [KeepsContract, Handler.perform, hrun]
    rfl
  | expire => rfl

/-- A step that keeps the contract stops the process only where that is asked for. -/
theorem KeepsContract.not_stops {channel : Channel} {name : Text} {r : StepRecord}
    (h : channel.KeepsContract name r)
    (hno : ∀ a code, channel.ending a ≠ some (.stop code)) : r.stops = false := by
  obtain ⟨step, result, seen⟩ := r
  cases step with
  | deliver datacenter a =>
    simp only [KeepsContract] at h
    cases hending : channel.ending a with
    | none =>
      simp only [hending] at h
      obtain ⟨o, rfl, -⟩ := h
      rfl
    | some x =>
      simp only [hending] at h
      subst h
      cases x with
      | stop code => exact absurd hending (hno a code)
      | _ => rfl
  | close =>
    obtain rfl : result = .ok none := h
    rfl
  | expire =>
    obtain rfl : result = .ok none := h
    rfl

/-- **The contract of handlers.** On a network and with a look-up of mail servers that raise only
faults, every step in the life of a handler of any channel keeps the contract, whatever steps went
before. No step is left out, unless the channel is asked to stop the process. -/
theorem life_keeps_contract (channel : Channel) (name : Text) (steps : List HandlerStep)
    (w : World) (hn : w.network.OnlyFaults) (hlookup : channel.LooksUpSafely w.network) :
    let records := (channel.handler name).life steps w
    (∀ r ∈ records, channel.KeepsContract name r) ∧ records.map (·.step) <+: steps ∧
      ((∀ a code, channel.ending a ≠ some (.stop code)) → records.map (·.step) = steps) := by
  intro records
  have hcontract : ∀ r ∈ records, channel.KeepsContract name r := by
    intro r hr
    rw [show records = _ from (channel.handler name).life_eq_recordsOf steps w] at hr
    -- The network is the same in every step.
    obtain ⟨w', s, hw', rfl⟩ := mem_recordsOf (P := fun w' => w'.network = w.network) rfl
      (fun w' s hw' => (Handler.network_perform _ w' s).trans hw') hr
    rw [← hw'] at hn hlookup
    exact keepsContract_perform hn hlookup name s
  obtain ⟨hbegins, hall⟩ := (channel.handler name).steps_life steps w
  exact ⟨hcontract, hbegins, fun hno => hall fun r hr => (hcontract r hr).not_stops hno⟩

/-- The connection of every mail is ended. -/
def disconnecting : List (Delayed Unit) :=
  [⟨none, .error (.fault ⟨"SMTPServerDisconnected", "gone"⟩)⟩]

theorem life_keeps_contract_disconnecting :
    let channel : Channel :=
      .email ⟨["ops@example.org"], { maxRetries := 1 }, .channels, Program.resolve, {}⟩
    let w : World := { network := .ofMails "ops@example.org" disconnecting }
    let a : Alert := ⟨"node1", "web", "v2", .critical, "down", ""⟩
    w.network.OnlyFaults ∧ channel.LooksUpSafely w.network ∧
      ∀ r ∈ (channel.handler "mail").life [.deliver "dc1" a, .expire, .close] w,
        channel.KeepsContract "mail" r := by
  intro channel w a
  have hn : w.network.OnlyFaults :=
    onlyFaults_ofMails (List.forall_mem_singleton.mpr (Failure.not_breaks_fault _))
  have hlookup : channel.LooksUpSafely w.network := neverBreaks_resolve hn
  exact ⟨hn, hlookup, (life_keeps_contract channel "mail" _ w hn hlookup).1⟩

end Channel

/-! ## Computations that can fault -/

theorem exists_of_bind_eq_ok {α β : Type} {x : Except Fault α} {f : α → Except Fault β} {b : β}
    (h : x >>= f = .ok b) : ∃ a, x = .ok a ∧ f a = .ok b := by
  cases x with
  | error e => cases h
  | ok a => exact ⟨a, rfl, h⟩

end AlertRelay
