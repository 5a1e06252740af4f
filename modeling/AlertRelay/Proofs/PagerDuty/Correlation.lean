import AlertRelay.Proofs.Excerpts
import AlertRelay.Proofs.HandlerLife
import AlertRelay.Proofs.IncidentKey
import AlertRelay.Proofs.PagerDuty.Retries

/-!
# How events of one entity find each other

A delivery posts one event, the same in every attempt (`post_of_deliver`): it opens an incident or
ends one, and its key is that of the entity of the alert. So an event that ends an incident finds
the one that opened it by the key of their entity, and it can find the incident of another entity
just where two entities share a key.
-/

namespace AlertRelay.PagerDuty

/-- The event that a client posts for an alert. -/
def alertEvent (c : Client) (datacenter : Text) (a : Alert) : IncidentEvent where
  serviceKey := c.serviceKey
  kind := eventKind a
  incidentKey := a.incidentKey datacenter
  description := a.message
  details := a.details
  client := if a.isPassing then none else some clientName
  clientUrl := none

theorem postAlert_eq (c : Client) (datacenter : Text) (a : Alert) :
    postAlert c (a.incidentKey datacenter) a = c.postEvent (alertEvent c datacenter a) := by
  cases h : a.isPassing <;> simp only [postAlert, alertEvent, eventKind, h] <;> rfl

/-! ### What follows the posting of an event -/

/-- What is left of a delivery once there is a reply: its errors are logged, or the success. -/
def report (c : Client) (name datacenter : Text) (a : Alert) (response : Response) :
    Program Outcome := do
  logErrors c.logger a (a.incidentKey datacenter) response.errors
  if response.ok then
    Program.log .info c.logger "pagerduty_event_sent"
      [("event_type", .text (eventKind a).name), ("incident_key", .text (a.incidentKey datacenter))]
  pure ⟨name, response.ok, response.attempts, response.errors, []⟩

/-- A delivery posts the event of its alert and then reports on the reply. -/
theorem deliver_eq (c : Client) (name datacenter : Text) (a : Alert) :
    deliver c name datacenter a =
      c.postEvent (alertEvent c datacenter a) >>= report c name datacenter a := by
  rw [← postAlert_eq]
  rfl

def sendFailedEntry (logger : Logger) (a : Alert) (key error : Text) : Entry :=
  .log ⟨.error, logger, "pagerduty_send_failed",
    [("error", .text error), ("details", .text a.details), ("message", .text a.message),
      ("incident_key", .text key)], none⟩

def eventSentEntry (logger : Logger) (a : Alert) (key : Text) : Entry :=
  .log ⟨.info, logger, "pagerduty_event_sent",
    [("event_type", .text (eventKind a).name), ("incident_key", .text key)], none⟩

/-- The errors of a reply are logged one by one, in order. -/
theorem logErrors_eq (logger : Logger) (a : Alert) (key : Text) (errors : List Text) (w : World) :
    (∃ w', (logErrors logger a key errors).run w = (.ok (), w')) ∧
      (logErrors logger a key errors).seen w = errors.map (sendFailedEntry logger a key) := by
  induction errors generalizing w with
  | nil => exact ⟨⟨w, rfl⟩, rfl⟩
  | cons e errors ih =>
    obtain ⟨⟨w', hrun⟩, hseen⟩ := ih (w.see (sendFailedEntry logger a key e))
    exact ⟨⟨w', hrun⟩, congrArg (sendFailedEntry logger a key e :: ·) hseen⟩

/-- A report returns the outcome that the reply tells, and is a call of the log for each error of
the reply, or the one that the event was sent. -/
theorem report_eq (c : Client) (name datacenter : Text) (a : Alert) (response : Response)
    (w : World) :
    (∃ w', (report c name datacenter a response).run w =
      (.ok ⟨name, response.ok, response.attempts, response.errors, []⟩, w')) ∧
    (report c name datacenter a response).seen w =
      response.errors.map (sendFailedEntry c.logger a (a.incidentKey datacenter)) ++
        if response.ok then [eventSentEntry c.logger a (a.incidentKey datacenter)] else [] := by
  obtain ⟨⟨w', hrun⟩, hseen⟩ :=
    logErrors_eq c.logger a (a.incidentKey datacenter) response.errors w
  rw [report, Program.run_bind_ok hrun, Program.seen_bind_ok hrun, hseen]
  cases response.ok with
  | true => exact ⟨⟨_, rfl⟩, rfl⟩
  | false => exact ⟨⟨_, rfl⟩, rfl⟩

/-- A delivery that returns has posted its event and tells the reply that this came to. -/
theorem exists_response_of_deliver_eq_ok {c : Client} {name datacenter : Text} {a : Alert}
    {o : Outcome} {w : World} (h : ((deliver c name datacenter a).run w).1 = .ok o) :
    ∃ response w', (c.postEvent (alertEvent c datacenter a)).run w = (.ok response, w') ∧
      o = ⟨name, response.ok, response.attempts, response.errors, []⟩ := by
  rw [deliver_eq] at h
  obtain ⟨response, w', hrun, h⟩ := Program.exists_of_run_bind_eq_ok h
  obtain ⟨⟨_, hreport⟩, -⟩ := report_eq c name datacenter a response w'
  rw [hreport] at h
  exact ⟨response, w', hrun, (Except.ok.inj h).symm⟩

/-- A report shows nothing but calls of the log. -/
theorem showsNone_report {β : Type} {pick : Entry → Option β} (hlog : ∀ c, pick (.log c) = none)
    (c : Client) (name datacenter : Text) (a : Alert) (response : Response) :
    (report c name datacenter a response).ShowsNone pick := by
  intro w
  rw [(report_eq c name datacenter a response w).2, List.filterMap_append, List.filterMap_map]
  cases response.ok <;> simp [sendFailedEntry, eventSentEntry, Function.comp_def, hlog]

/-- Apart from the log, a delivery shows what the posting of its event does. -/
theorem filterMap_seen_deliver {β : Type} {pick : Entry → Option β}
    (hlog : ∀ c, pick (.log c) = none) (c : Client) (name datacenter : Text) (a : Alert)
    (w : World) :
    ((deliver c name datacenter a).seen w).filterMap pick =
      ((c.postEvent (alertEvent c datacenter a)).seen w).filterMap pick := by
  rw [deliver_eq]
  exact Program.filterMap_seen_bind (showsNone_report hlog c name datacenter a) w

theorem postsIn_deliver (c : Client) (name datacenter : Text) (a : Alert) (w : World) :
    postsIn ((deliver c name datacenter a).seen w) =
      postsIn ((c.postEvent (alertEvent c datacenter a)).seen w) :=
  filterMap_seen_deliver (fun _ => rfl) c name datacenter a w

/-- Every post of a delivery is that of its event, to the address of the client. -/
theorem post_of_deliver {c : Client} {name datacenter : Text} {a : Alert} {w : World}
    {session : Nat} {url : Text} {payload : Payload}
    (h : .post session url payload ∈ (deliver c name datacenter a).seen w) :
    url = c.url ∧ payload = .event (alertEvent c datacenter a) := by
  rw [← mem_postsIn, postsIn_deliver, Client.postsIn_postEvent, List.mem_flatMap] at h
  obtain ⟨attempt, hattempt, hpost⟩ := h
  obtain ⟨i, hi⟩ := List.getElem?_of_mem hattempt
  obtain ⟨-, s, hposts⟩ := Client.attempt_postOnce hi
  rw [hposts] at hpost
  simp only [List.mem_singleton, Prod.mk.injEq] at hpost
  exact ⟨hpost.2.1, hpost.2.2⟩

/-- What a life of the handler of a client shows of one entity posts events under its key alone,
which end incidents exactly if the alert reports health. -/
theorem event_of_life {c : Client} {name : Text} {steps : List HandlerStep} {w : World}
    {r : StepRecord} (hr : r ∈ (handler c name).life steps w) {datacenter : Text} {a : Alert}
    (hstep : r.step = .deliver datacenter a) {session : Nat} {url : Text} {e : IncidentEvent}
    (hpost : .post session url (.event e) ∈ r.seen) :
    e = alertEvent c datacenter a := by
  obtain ⟨w', hseen⟩ := Handler.exists_seen_of_mem_life hr hstep
  rw [hseen] at hpost
  exact Payload.event.inj (post_of_deliver hpost).2

/-- **What a key tells of its entity.** An entity shares its key with no other exactly if none of
its parts holds a dash, and one that has its key is the same exactly if its parts hold equally many
dashes. So in the life of a handler the end of an incident of an entity without dashes never carries
the key of an incident that was opened for another entity. -/
theorem key_identifies_entity_iff (d : Text) (a : Alert) :
    ((∀ (d' : Text) (a' : Alert), a'.incidentKey d' = a.incidentKey d →
        a'.entity d' = a.entity d) ↔ ¬ (a.entity d).HoldsDash) ∧
    (∀ (d' : Text) (a' : Alert), a'.incidentKey d' = a.incidentKey d →
      (a'.entity d' = a.entity d ↔ (a'.entity d').SameDashes (a.entity d))) ∧
    ∀ (c : Client) (name : Text) (steps : List HandlerStep) (w : World) (r r' : StepRecord)
      (d' : Text) (a' : Alert) (session session' : Nat) (url url' : Text)
      (e e' : IncidentEvent),
      r ∈ (handler c name).life steps w → r.step = .deliver d a →
      r' ∈ (handler c name).life steps w → r'.step = .deliver d' a' →
      .post session url (.event e) ∈ r.seen → e.kind = .resolve →
      .post session' url' (.event e') ∈ r'.seen → e'.kind = .trigger →
      e.incidentKey = e'.incidentKey → ¬ (a.entity d).HoldsDash →
      a'.entity d' = a.entity d := by
  refine ⟨⟨?_, ?_⟩, fun d' a' hkey => entity_eq_iff_sameDashes hkey, ?_⟩
  · intro hidentifies hdash
    obtain ⟨d', a', hkey, hne⟩ := exists_other_entity hdash
    exact hne (hidentifies d' a' hkey)
  · intro hfree d' a' hkey
    exact entity_eq_of_not_holdsDash hkey hfree
  · intro c name steps w r r' d' a' session session' url url' e e' hr hstep hr' hstep' hpost _
      hpost' _ hkey hfree
    rw [event_of_life hr hstep hpost, event_of_life hr' hstep' hpost'] at hkey
    exact entity_eq_of_not_holdsDash hkey.symm hfree

/-- One key for two tags: the dash of a service reads like the one before the tag. -/
theorem incidentKey_not_injective :
    ¬ ∀ (d d' : Text) (a a' : Alert), a.incidentKey d = a'.incidentKey d' →
      d = d' ∧ a.service = a'.service ∧ a.tag = a'.tag ∧ a.node = a'.node := by
  intro h
  let service : Alert := ⟨"node1", "web-api", "v2", .critical, "down", ""⟩
  let tag : Alert := ⟨"node1", "web", "api-v2", .passing, "up", ""⟩
  have hsame := h "dc1" "dc1" service tag (by decide)
  exact absurd hsame.2.1 (by decide)

end AlertRelay.PagerDuty
