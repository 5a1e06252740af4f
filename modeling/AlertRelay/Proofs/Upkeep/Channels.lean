import AlertRelay.Channel.Console
import AlertRelay.Channel.Email
import AlertRelay.Channel.PagerDuty
import AlertRelay.Channel.Slack
import AlertRelay.Proofs.HandlerContract
import AlertRelay.Proofs.Posts
import AlertRelay.Proofs.Upkeep.Programs
import AlertRelay.Wiring

/-!
# What deliveries keep up

The deliveries of all channels are made of few effects: calls of the log, posts on sessions that
were taken right before, and effects that touch neither. An invariant that these effects keep up
(`DeliveryInvariant`) is kept up by the deliveries of every channel, as
`ChannelConfig.respects_deliver` says of configured ones.
-/

namespace AlertRelay

open Program

/-- Whether an effect touches neither the sessions nor the calls of the log. -/
def Effect.Aside : Effect → Prop
  | .note (.sleep _) => True
  | .queryMx _ => True
  | .resolve _ => True
  | .send _ => True
  | .readClock => True
  | _ => False

/-- The world after a post on the session that a slot holds from then on. -/
def World.afterExchange (w : World) (slot : Nat) (timeout : Seconds) (url : Text)
    (payload : Payload) : World :=
  (w.take slot timeout).2.afterPost (w.take slot timeout).1 url payload

/-- An invariant of the world that deliveries keep up when they log under certain names and post on
the sessions of certain slots. A session is posted on as soon as it is taken, so the invariant may
be broken between the two. -/
structure DeliveryInvariant (I : World → Prop) (loggers : Logger → Prop) (slots : Nat → Prop) :
    Prop where
  log : ∀ w call, loggers call.logger → I w → I (w.see (.log call))
  aside : ∀ w (e : Effect), e.Aside → I w → I (w.perform e).2
  exchange : ∀ w slot timeout url payload, slots slot → I w →
    I (w.afterExchange slot timeout url payload)

namespace DeliveryInvariant

variable {I : World → Prop} {loggers : Logger → Prop} {slots : Nat → Prop}

/-! ## Effects -/

section Effects

variable (h : DeliveryInvariant I loggers slots)

include h

theorem respects_log {logger : Logger} (hlogger : loggers logger) (severity : Severity)
    (event : Text) (fields : List (String × Value)) :
    (Program.log severity logger event fields).Respects I :=
  respects_note fun w hw => h.log w _ hlogger hw

theorem respects_queryMx (domain : Text) : (queryMx domain).Respects I :=
  fun w hw => respects_await _ _ (h.aside w (.queryMx domain) trivial hw)

theorem respects_send (submission : Submission) : (send submission).Respects I :=
  fun w hw => respects_await _ _ (h.aside w (.send submission) trivial hw)

theorem respects_readClock : readClock.Respects I := fun w hw => h.aside w .readClock trivial hw

/-- Posting on the session of a slot and waiting for the reply. -/
theorem respects_exchange {α : Type} {slot : Nat} (hslot : slots slot) (timeout : Seconds)
    (url : Text) (payload : Payload) {f : HttpReply → Program α} (hf : ∀ r, (f r).Respects I) :
    (acquire slot timeout >>= fun session => post session url payload >>= f).Respects I := by
  intro w hw
  have hafter := h.exchange w slot timeout url payload hslot hw
  have hreply := respects_await ((w.take slot timeout).2.replyTo (payload.scriptKey url) 0) _ hafter
  exact hreply.bind hf

/-- Retries keep up what each attempt keeps up. -/
theorem respects_retries {α : Type} (p : RetryPolicy) {l : RetryLog} (hlogger : loggers l.logger)
    {operation : Nat → Program α} (hop : ∀ i, (operation i).Respects I) :
    (p.run l operation).Respects I :=
  respects_runFrom hop (fun w call hcall => h.log w call (hcall ▸ hlogger))
    (fun w length => h.aside w (.note (.sleep length)) trivial) _ _ _

end Effects

/-! ## The console channel -/

theorem respects_logLines (h : DeliveryInvariant I loggers slots) {logger : Logger}
    (hlogger : loggers logger) (severity : Severity) (fields : List (String × Value))
    (lines : List Text) : (Console.logLines logger severity fields lines).Respects I := by
  induction lines with
  | nil => exact respects_pure ()
  | cons line rest ih => exact respects_bind (h.respects_log hlogger _ _ _) fun _ => ih

theorem respects_deliver_console (h : DeliveryInvariant I loggers slots) {logger : Logger}
    (hlogger : loggers logger) (c : ConsoleConfig) (name datacenter : Text) (a : Alert) :
    (Console.deliver c name logger datacenter a).Respects I := by
  unfold Console.deliver
  cases Console.Level.ofName? (Console.levelName c) with
  | none => exact respects_pure _
  | some level =>
    refine respects_bind (h.respects_logLines hlogger _ _ _) fun _ => ?_
    cases level with
    | panic => exact respects_fail _
    | fatal => exact respects_fail _
    | _ => exact respects_pure _

/-! ## The email channel -/

section Email

open Email

theorem respects_ofResult {α : Type} (x : Except Fault α) : (ofResult x).Respects I := by
  cases x with
  | ok a => exact respects_pure a
  | error f => exact respects_fail _

variable (h : DeliveryInvariant I loggers slots)

include h

theorem respects_lookupServer (domain : Text) : (lookupServer domain).Respects I := by
  unfold lookupServer
  exact respects_bind (h.respects_queryMx domain) fun _ => respects_ofResult _

variable {m : Mailer} (hlogger : loggers m.logger)
  (hlookup : ∀ domain, (m.lookup domain).Respects I)

include hlogger

theorem respects_notMailed (event : String) (recipient : Text) (f : Fault) :
    (notMailed m event recipient f).Respects I :=
  respects_bind (h.respects_log hlogger _ _ _) fun _ => respects_pure _

include hlookup

theorem respects_deliverTo (a : Alert) (recipient : Text) :
    (deliverTo m a recipient).Respects I := by
  have hserver : (ofResult (recipientDomain recipient) >>= m.lookup).Respects I :=
    respects_bind (respects_ofResult _) hlookup
  refine respects_bind (respects_attempt hserver) fun x => ?_
  cases x with
  | error f => exact h.respects_notMailed hlogger _ _ f
  | ok host =>
    cases Mail.compose m.nesting recipient a with
    | error f => exact h.respects_notMailed hlogger _ _ f
    | ok message =>
      refine respects_bind (h.respects_retries m.retry hlogger fun _ => h.respects_send _)
        fun r => ?_
      split
      · exact respects_bind (h.respects_log hlogger _ _ _) fun _ => respects_pure _
      · exact respects_pure _

theorem respects_deliver_email (name datacenter : Text) (a : Alert) :
    (Email.deliver m name datacenter a).Respects I := by
  have hall : ∀ (recipients : List Text) (p : Progress),
      (deliverAll m a p recipients).Respects I := by
    intro recipients
    induction recipients with
    | nil => exact fun p => respects_pure p
    | cons recipient rest ih =>
      exact fun p =>
        respects_bind (h.respects_deliverTo hlogger hlookup a recipient) fun _ => ih _
  exact respects_bind (hall _ _) fun _ => respects_pure _

end Email

/-! ## The PagerDuty channel -/

section PagerDuty

open PagerDuty

variable (h : DeliveryInvariant I loggers slots) {c : Client} (hlogger : loggers c.logger)
  (hslot : slots c.slot)

include h

theorem respects_logErrors {logger : Logger} (hlogger : loggers logger) (a : Alert) (key : Text)
    (errors : List Text) : (logErrors logger a key errors).Respects I := by
  induction errors with
  | nil => exact respects_pure ()
  | cons e rest ih => exact respects_bind (h.respects_log hlogger _ _ _) fun _ => ih

include hlogger hslot

theorem respects_postEvent (e : IncidentEvent) : (c.postEvent e).Respects I := by
  have honce : (c.postOnce e).Respects I :=
    h.respects_exchange hslot _ _ _ fun _ => respects_ofExcept _
  refine respects_bind (h.respects_retries c.retry hlogger fun _ => honce) fun r => ?_
  cases r.value <;> exact respects_pure _

theorem respects_deliver_pagerduty (name datacenter : Text) (a : Alert) :
    (PagerDuty.deliver c name datacenter a).Respects I := by
  have hpost : (postAlert c (a.incidentKey datacenter) a).Respects I := by
    unfold postAlert
    split
    · exact h.respects_postEvent hlogger hslot _
    · exact h.respects_postEvent hlogger hslot _
  refine respects_bind hpost fun response => ?_
  refine respects_bind (h.respects_logErrors hlogger _ _ _) fun _ => ?_
  split
  · exact respects_bind (h.respects_log hlogger _ _ _) fun _ => respects_pure _
  · exact respects_pure _

end PagerDuty

/-! ## The Slack channel -/

section Slack

open Slack

variable (h : DeliveryInvariant I loggers slots) {hook : Webhook} (hlogger : loggers hook.logger)
  (hslot : slots hook.slot)

include h hlogger hslot

theorem respects_deliver_slack (name datacenter : Text) (a : Alert) :
    (hook.deliver name datacenter a).Respects I := by
  have honce : (hook.postOnce (noteText a)).Respects I := by
    refine respects_bind h.respects_readClock fun now => ?_
    cases now.truncate? with
    | none => exact respects_fail _
    | some timestamp => exact h.respects_exchange hslot _ _ _ fun _ => respects_ofExcept _
  refine respects_bind (h.respects_retries hook.retry hlogger fun _ => honce) fun r => ?_
  split
  · exact respects_bind (h.respects_log hlogger _ _ _) fun _ => respects_pure _
  · exact respects_pure _

end Slack

end DeliveryInvariant

/-! ## Configured channels -/

namespace ChannelConfig

def hasSession : ChannelConfig → Bool
  | .console _ _ => false
  | .email _ _ => false
  | .pagerduty _ _ => true
  | .slack _ _ => true

def name : ChannelConfig → Text
  | .console name _ => name
  | .email name _ => name
  | .pagerduty name _ => name
  | .slack name _ => name

def handlerWith (retry : RetryPolicy) (slot : Nat) : ChannelConfig → Handler
  | .console name c => Console.handler c name .channels
  | .email name c => Email.handler ⟨c.recipients, retry, .channels, Email.lookupServer, {}⟩ name
  | .pagerduty name c =>
    PagerDuty.handler
      { serviceKey := c.serviceKey, retry := retry, logger := .channels, slot := slot } name
  | .slack name c =>
    Slack.Webhook.handler
      { url := Slack.webhookUrl c.apiToken, room := c.channelName, retry := retry, slot := slot }
      name

variable {c : ChannelConfig} {delay : Seconds} {slot : Nat} {h : Handler}

/-- Nothing but the policy of the attempts can keep a configured channel from having its handler. -/
theorem exists_handlerWith (hc : c.handler delay slot = .ok h) :
    ∃ retry, h = c.handlerWith retry slot := by
  cases c with
  | console name c =>
    obtain rfl := Except.ok.inj hc
    exact ⟨{}, rfl⟩
  | email name c =>
    obtain ⟨m, hm, hc⟩ := exists_of_bind_eq_ok hc
    obtain ⟨retry, -, hm⟩ := exists_of_bind_eq_ok hm
    obtain rfl := Except.ok.inj hm
    obtain rfl := Except.ok.inj hc
    exact ⟨retry, rfl⟩
  | pagerduty name c =>
    obtain ⟨client, hclient, hc⟩ := exists_of_bind_eq_ok hc
    obtain ⟨retry, -, hclient⟩ := exists_of_bind_eq_ok hclient
    obtain rfl := Except.ok.inj hclient
    obtain rfl := Except.ok.inj hc
    exact ⟨retry, rfl⟩
  | slack name c =>
    obtain ⟨hook, hhook, hc⟩ := exists_of_bind_eq_ok hc
    obtain ⟨retry, -, hhook⟩ := exists_of_bind_eq_ok hhook
    obtain rfl := Except.ok.inj hhook
    obtain rfl := Except.ok.inj hc
    exact ⟨retry, rfl⟩

theorem name_handlerWith (c : ChannelConfig) (retry : RetryPolicy) (slot : Nat) :
    (c.handlerWith retry slot).name = c.name := by
  cases c <;> rfl

/-- The deliveries of a configured channel keep up an invariant, if calls of the log by channels and
posts on the channel's session do. -/
theorem respects_deliver {I : World → Prop} {loggers : Logger → Prop} {slots : Nat → Prop}
    (hI : DeliveryInvariant I loggers slots) (hlogger : loggers .channels)
    (hslot : c.hasSession = true → slots slot) (hc : c.handler delay slot = .ok h)
    (datacenter : Text) (a : Alert) : (h.deliver datacenter a).Respects I := by
  obtain ⟨retry, rfl⟩ := exists_handlerWith hc
  cases c with
  | console name c => exact hI.respects_deliver_console hlogger c name datacenter a
  | email name c =>
    exact hI.respects_deliver_email hlogger hI.respects_lookupServer name datacenter a
  | pagerduty name c => exact hI.respects_deliver_pagerduty hlogger (hslot rfl) name datacenter a
  | slack name c => exact hI.respects_deliver_slack hlogger (hslot rfl) name datacenter a

/-- Closing the handler of a configured channel releases its slot if it has a session, and does
nothing otherwise. -/
theorem close_handler (hc : c.handler delay slot = .ok h) :
    h.close = if c.hasSession then Program.release slot else pure () := by
  obtain ⟨retry, rfl⟩ := exists_handlerWith hc
  cases c <;> rfl

end ChannelConfig

/-- The slots of the channels that have sessions, the first channel having the given one. -/
def sessionSlots : Nat → List ChannelConfig → List Nat
  | _, [] => []
  | slot, c :: cs =>
    if c.hasSession then slot :: sessionSlots (slot + 1) cs else sessionSlots (slot + 1) cs

/-- Every handler is that of a channel, and has a slot of the sessions if the channel has one. -/
theorem exists_channel_of_mem_handlersOf {delay : Seconds} {start : Nat} {cs : List ChannelConfig}
    {hs : List Handler} (hhs : handlersOf delay start cs = .ok hs) {h : Handler} (hh : h ∈ hs) :
    ∃ c ∈ cs, ∃ slot, c.handler delay slot = .ok h ∧
      (c.hasSession = true → slot ∈ sessionSlots start cs) := by
  induction cs generalizing start hs with
  | nil =>
    obtain rfl := Except.ok.inj hhs
    cases hh
  | cons c cs ih =>
    obtain ⟨first, hfirst, hhs⟩ := exists_of_bind_eq_ok hhs
    obtain ⟨rest, hrest, hhs⟩ := exists_of_bind_eq_ok hhs
    obtain rfl := Except.ok.inj hhs
    rw [sessionSlots]
    rcases List.mem_cons.mp hh with rfl | hh
    · refine ⟨c, List.mem_cons_self, start, hfirst, fun hsession => ?_⟩
      rw [if_pos hsession]
      exact List.mem_cons_self
    · obtain ⟨c', hc', slot, hhandler, hslot⟩ := ih hrest hh
      refine ⟨c', List.mem_cons_of_mem c hc', slot, hhandler, fun hsession => ?_⟩
      split
      · exact List.mem_cons_of_mem start (hslot hsession)
      · exact hslot hsession

end AlertRelay
