import AlertRelay.Proofs.Config.Accepted
import AlertRelay.Proofs.Lives
import AlertRelay.Proofs.PagerDuty.Correlation

/-!
# What is posted for an alert

A post carries one message, a value with named fields. `Announces` says what the fields tell of an
alert; the event of an alert does so (`announces_alertEvent`), and every attempt of its delivery
posts this event and nothing else (`exists_body_of_deliver`). So the posts in the life of a handler
are told by its alerts, and alerts of one entity go out under one key
(`posts_announce_their_alerts`).
-/

namespace AlertRelay.PagerDuty

/-! ## The fields of an event -/

/-- Whether the fields of a message tell a service of an alert. -/
structure Announces (serviceKey datacenter : Text) (a : Alert) (fields : List (Value × Value)) :
    Prop where
  serviceKey : Value.lookup? fields "service_key" = some (.text serviceKey)
  /-- Health ends an incident, every other status opens one. -/
  eventType : Value.lookup? fields "event_type" =
    some (.text (if a.status = .passing then "resolve" else "trigger"))
  incidentKey : Value.lookup? fields "incident_key" =
    some (.text (datacenter ++ dash :: a.service ++ dash :: a.tag ++ dash :: a.node))
  description : Value.lookup? fields "description" = some (.text a.message)
  details : Value.lookup? fields "details" = some (.text a.details)
  /-- Who opens an incident is named; who ends it is not. -/
  client_iff : (Value.lookup? fields "client").isSome = true ↔ a.status ≠ .passing

theorem lookup?_named_cons (name other : String) (v : Value) (fields : List (Value × Value)) :
    Value.lookup? (named other v :: fields) name =
      if other = name then some v else Value.lookup? fields name := by
  by_cases h : other = name <;> simp [Value.lookup?, named, h]

/-- An alert about health resolves, any other triggers. -/
theorem name_eventKind (a : Alert) :
    (eventKind a).name = if a.status = .passing then "resolve" else "trigger" := by
  by_cases h : a.status = .passing <;> simp [eventKind, Alert.isPassing, h, EventKind.name]

/-- The event of an alert announces it. -/
theorem announces_alertEvent (c : Client) (datacenter : Text) (a : Alert) :
    ∃ fields, (Payload.event (alertEvent c datacenter a)).toValue = .map fields ∧
      Announces c.serviceKey datacenter a fields := by
  refine ⟨_, rfl, ?_⟩
  constructor <;>
    simp only [alertEvent, namedText?, List.cons_append, List.nil_append, lookup?_named_cons,
      String.reduceEq, if_true, if_false]
  case eventType =>
    rw [name_eventKind]
    by_cases h : a.status = .passing <;> simp [h]
  case incidentKey => simp [incidentKey_eq]
  case client_iff =>
    by_cases h : a.status = .passing
    · simp [Alert.isPassing, h, Value.lookup?]
    · simp [Alert.isPassing, h, lookup?_named_cons]

/-! ## The posts of a delivery -/

/-- A client keeps the service key of its channel and posts to the address of events. -/
theorem Client.of_ofConfig {config : PagerDutyConfig} {delay : Seconds} {logger : Logger}
    {slot : Nat} {c : Client} (hc : Client.ofConfig config delay logger slot = .ok c) :
    c.serviceKey = config.serviceKey ∧ c.url = eventsUrl ∧
      c.retry.maxRetries = config.maxRetries := by
  obtain ⟨retry, hretry, hc⟩ := exists_of_bind_eq_ok hc
  obtain rfl := Except.ok.inj hc
  rw [RetryPolicy.eq_of_ofNumbers hretry]
  exact ⟨rfl, rfl, rfl⟩

/-- A delivery posts one message, at least once and at most as often as attempts are allowed. -/
theorem exists_body_of_deliver (c : Client) (name datacenter : Text) (a : Alert) (w : World) :
    let posts := postsIn ((deliver c name datacenter a).seen w)
    0 < posts.length ∧ posts.length ≤ c.retry.maxAttempts ∧
      ∃ body fields, body.toValue = .map fields ∧ Announces c.serviceKey datacenter a fields ∧
        ∀ session url message, (session, url, message) ∈ posts → url = c.url ∧ message = body := by
  intro posts
  have hposts : posts = postsIn ((c.postEvent (alertEvent c datacenter a)).seen w) :=
    postsIn_deliver c name datacenter a w
  obtain ⟨fields, hfields, hannounces⟩ := announces_alertEvent c datacenter a
  refine ⟨?_, ?_, _, fields, hfields, hannounces, ?_⟩
  · rw [hposts]
    exact c.length_posts_pos _ w
  · rw [hposts]
    exact c.length_posts_le _ w
  · intro session url message hpost
    exact post_of_deliver (mem_postsIn.mp hpost)

/-! ## The posts of a life -/

/-- Nothing is posted in a step that delivers no alert. -/
theorem postsIn_eq_nil_of_life {c : Client} {name : Text} {steps : List HandlerStep} {w : World}
    {r : StepRecord} (hr : r ∈ (handler c name).life steps w)
    (hstep : ∀ datacenter a, r.step ≠ .deliver datacenter a) : postsIn r.seen = [] := by
  obtain ⟨w', s, rfl⟩ := Handler.exists_perform_of_mem_life hr
  cases s with
  | deliver datacenter a => exact absurd rfl (hstep datacenter a)
  | close => exact Program.postsIn_seen_release c.slot w'
  | expire => rfl

/-- **Posts announce their alerts.** In the life of the handler of a configured channel no step is
left out unless the process stops. Every delivery posts at least once and at most as often as
attempts are allowed, always to the address of events and always the same message, which announces
its alert; the other steps post nothing. And whatever two alerts of one entity tell otherwise, their
events have one key. -/
theorem posts_announce_their_alerts (config : PagerDutyConfig) (delay : Seconds) (logger : Logger)
    (slot : Nat) (c : Client) (hc : Client.ofConfig config delay logger slot = .ok c) (name : Text)
    (steps : List HandlerStep) (w : World) :
    let records := (handler c name).life steps w
    (records.map (·.step) <+: steps ∧
      ((∀ r ∈ records, r.stops = false) → records.map (·.step) = steps)) ∧
    (∀ r ∈ records, ∀ datacenter a, r.step = .deliver datacenter a →
      let posts := postsIn r.seen
      0 < posts.length ∧ posts.length ≤ config.maxRetries + 1 ∧
        ∃ body fields, body.toValue = .map fields ∧
          Announces config.serviceKey datacenter a fields ∧
          ∀ session url message, (session, url, message) ∈ posts →
            url = eventsUrl ∧ message = body) ∧
    (∀ r ∈ records, (∀ datacenter a, r.step ≠ .deliver datacenter a) → postsIn r.seen = []) ∧
    ∀ r ∈ records, ∀ r' ∈ records, ∀ datacenter a datacenter' a',
      r.step = .deliver datacenter a → r'.step = .deliver datacenter' a' →
      a.entity datacenter = a'.entity datacenter' →
      ∀ session url e session' url' e',
        (session, url, Payload.event e) ∈ postsIn r.seen →
        (session', url', Payload.event e') ∈ postsIn r'.seen → e.incidentKey = e'.incidentKey := by
  intro records
  obtain ⟨hkey, hurl, hretries⟩ := Client.of_ofConfig hc
  refine ⟨(handler c name).steps_life steps w, ?_, fun r hr => postsIn_eq_nil_of_life hr, ?_⟩
  · intro r hr datacenter a hstep posts
    obtain ⟨w', hseen⟩ := Handler.exists_seen_of_mem_life hr hstep
    have hposts := exists_body_of_deliver c name datacenter a w'
    rw [← show r.seen = (deliver c name datacenter a).seen w' from hseen, hkey, hurl,
      RetryPolicy.maxAttempts, hretries] at hposts
    exact hposts
  · intro r hr r' hr' datacenter a datacenter' a' hstep hstep' hentity session url e session' url'
      e' hpost hpost'
    -- Either event is that of its alert, and its key is made of what the entities share.
    rw [event_of_life hr hstep (mem_postsIn.mp hpost),
      event_of_life hr' hstep' (mem_postsIn.mp hpost')]
    simp only [alertEvent, incidentKey_eq]
    simp only [Alert.entity, Entity.mk.injEq] at hentity
    obtain ⟨rfl, hservice, htag, hnode⟩ := hentity
    rw [hservice, htag, hnode]

theorem posts_announce_their_alerts_trouble_and_health :
    let config : PagerDutyConfig := { serviceKey := "key", maxRetries := 1 }
    let trouble : Alert := ⟨"node1", "web", "v2", .critical, "down", "no answer"⟩
    let health : Alert := ⟨"node1", "web", "v2", .passing, "up", ""⟩
    let w : World := { network := .ofPosts "key" [⟨none, .ok ⟨503, "", none, 100⟩⟩] }
    ∃ c, Client.ofConfig config (.whole 5) .channels 0 = .ok c ∧
      ∀ r ∈ (handler c "pagerduty").life [.deliver "dc1" trouble, .close, .deliver "dc1" health] w,
        ∀ datacenter a, r.step = .deliver datacenter a →
          0 < (postsIn r.seen).length ∧ (postsIn r.seen).length ≤ 2 := by
  intro config trouble health w
  have hretry : RetryPolicy.ofNumbers (1 : Nat) (.whole 5) = .ok ⟨1, .whole 5⟩ :=
    RetryPolicy.ofNumbers_nat (by decide) 1
  have hc : Client.ofConfig config (.whole 5) .channels 0 =
      .ok { serviceKey := "key", retry := ⟨1, .whole 5⟩, logger := .channels } := by
    simp only [Client.ofConfig, config, hretry]
    rfl
  refine ⟨_, hc, fun r hr datacenter a hstep => ?_⟩
  obtain ⟨-, hposts, -⟩ := posts_announce_their_alerts config _ _ _ _ hc "pagerduty" _ w
  obtain ⟨hpos, hle, -⟩ := hposts r hr datacenter a hstep
  exact ⟨hpos, hle⟩

end AlertRelay.PagerDuty
