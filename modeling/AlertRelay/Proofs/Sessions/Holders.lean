import AlertRelay.Proofs.PagerDuty.Correlation
import AlertRelay.Proofs.Sessions.Life

/-!
# The holders of sessions

Three kinds of things hold a session: a client of PagerDuty, which is asked to open and to end
incidents, and the handlers of the PagerDuty and the Slack channel, which deliver alerts. Each posts
on the session of its slot alone, and closing releases that slot, so each keeps one session at a
time. A use of the first two always posts, and one of the third does if the clock runs.
-/

namespace AlertRelay

open Program SessionEvent

/-! ## What a run begins with -/

theorem Program.mem_seen_bind {α β : Type} {p : Program α} {w : World} {e : Entry}
    (he : e ∈ p.seen w) (f : α → Program β) : e ∈ (p >>= f).seen w := by
  rw [seen_bind]
  split
  · exact List.mem_append_left _ he
  · exact he

/-- What the first attempt shows is seen of the retries. -/
theorem RetryPolicy.mem_seen_run {α : Type} {p : RetryPolicy} {l : RetryLog}
    {operation : Nat → Program α} {w : World} {e : Entry} (he : e ∈ (operation 1).seen w) :
    e ∈ (p.run l operation).seen w := by
  have htry : e ∈ (operation 1).attempt.seen w := by rwa [seen_attempt]
  unfold run
  rw [runFrom.eq_def]
  cases p.maxRetries <;> exact mem_seen_bind htry _

/-- A session is posted on where a post on it is seen. -/
theorem posted_mem_sessionEvents {session : Nat} {es : List Entry} :
    .posted session ∈ sessionEvents es ↔ ∃ url payload, .post session url payload ∈ es := by
  unfold sessionEvents
  rw [List.mem_filterMap]
  constructor
  · rintro ⟨e, he, hposted⟩
    cases e <;> simp only [Entry.session?, Option.some.injEq, reduceCtorEq, posted.injEq] at hposted
    subst hposted
    exact ⟨_, _, he⟩
  · rintro ⟨url, payload, he⟩
    exact ⟨_, he, rfl⟩

/-- Whether every use among steps posts. -/
def HolderRecord.Posts {γ ρ : Type} (records : List (HolderRecord γ ρ)) : Prop :=
  ∀ r ∈ records, ∀ q, r.step = .use q → ∃ session, .posted session ∈ r.events

/-- If a program for every request posts, every use in a life does. -/
theorem Holder.posts_life {γ ρ : Type} {h : Holder γ ρ} {n : Network}
    (hpost : ∀ q w, w.network = n →
      ∃ session url payload, .post session url payload ∈ (h.use q).seen w)
    {steps : List (HolderStep γ)} {w : World} (hw : w.network = n) :
    HolderRecord.Posts (h.life steps w) := by
  intro r hr q hq
  obtain ⟨before, after, hsplit⟩ := List.append_of_mem hr
  obtain ⟨w', s, hw', rfl⟩ := around_allRecordsOf (I := fun _ w => w.network = n)
    (fun _ w s hw => (h.network_perform w s).trans hw) [] hw hsplit
  rw [step_perform] at hq
  obtain rfl := hq
  obtain ⟨session, url, payload, hmem⟩ := hpost q w' hw'
  exact ⟨session, posted_mem_sessionEvents.mpr ⟨url, payload, hmem⟩⟩

/-! ## The PagerDuty channel -/

namespace PagerDuty

inductive IncidentRequest where
  | trigger (key description details client clientUrl : Text)
  | resolve (key description details : Text)

namespace Client

def holder (c : Client) : Holder IncidentRequest Response where
  use
    | .trigger key description details client clientUrl =>
      c.trigger key description details client clientUrl
    | .resolve key description details => c.resolve key description details
  close := c.close

/-- Every request to a client posts an event. -/
theorem exists_event (c : Client) (q : IncidentRequest) :
    ∃ e, c.holder.use q = c.postEvent e := by
  cases q with
  | trigger => exact ⟨_, rfl⟩
  | resolve => exact ⟨_, rfl⟩

/-- A client posts on the session of its slot and on no other. -/
theorem holder_on (c : Client) : c.holder.On c.slot where
  use q past start := by
    obtain ⟨e, he⟩ := c.exists_event q
    rw [he]
    exact (World.deliveryInvariant_follows (Nat.le_refl 1)).respects_postEvent trivial
      (List.mem_singleton_self c.slot) e
  close := rfl

theorem exists_post (c : Client) (e : IncidentEvent) (w : World) :
    ∃ session url payload, .post session url payload ∈ (c.postEvent e).seen w := by
  obtain ⟨⟨session, url, payload⟩, hpost⟩ := List.exists_mem_of_length_pos (c.length_posts_pos e w)
  exact ⟨session, url, payload, mem_postsIn.mp hpost⟩

end Client

end PagerDuty

def Handler.holder (h : Handler) : Holder (Text × Alert) Outcome where
  use q := h.deliver q.1 q.2
  close := h.close

theorem PagerDuty.handler_on (c : Client) (name : Text) : (handler c name).holder.On c.slot where
  use q _ _ := (World.deliveryInvariant_follows (Nat.le_refl 1)).respects_deliver_pagerduty
    trivial (List.mem_singleton_self c.slot) name q.1 q.2
  close := rfl

theorem PagerDuty.exists_post_deliver (c : Client) (name datacenter : Text) (a : Alert)
    (w : World) :
    ∃ session url payload, .post session url payload ∈ (deliver c name datacenter a).seen w := by
  obtain ⟨session, url, payload, hpost⟩ := c.exists_post (alertEvent c datacenter a) w
  rw [← mem_postsIn, ← postsIn_deliver c name, mem_postsIn] at hpost
  exact ⟨session, url, payload, hpost⟩

/-! ## The Slack channel -/

/-- Whether every reading of the clock is a number of seconds. -/
def Network.ClockRuns (n : Network) : Prop := ∀ t ∈ n.clock, t.truncate?.isSome = true

theorem Network.ClockRuns.exists_reading {w : World} (h : w.network.ClockRuns) :
    ∃ t, (w.perform .readClock).1.truncate? = some t := by
  refine Option.isSome_iff_exists.mp ?_
  show ((w.network.clock[w.clockReads]?).getD Network.defaultTime).truncate?.isSome = true
  cases hreading : w.network.clock[w.clockReads]? with
  | none => decide
  | some t => exact h t (List.mem_of_getElem? hreading)

namespace Slack.Webhook

theorem handler_on (hook : Webhook) (name : Text) : (hook.handler name).holder.On hook.slot where
  use q _ _ := (World.deliveryInvariant_follows (Nat.le_refl 1)).respects_deliver_slack
    trivial (List.mem_singleton_self hook.slot) name q.1 q.2
  close := rfl

/-- An attempt posts once as long as the clock runs. -/
theorem postsIn_postOnce (hook : Webhook) (text : Text) {w : World} (h : w.network.ClockRuns) :
    ∃ session t,
      postsIn ((hook.postOnce text).seen w) = [(session, hook.url, .attachment ⟨text, t⟩)] := by
  obtain ⟨t, ht⟩ := h.exists_reading
  let w' := (w.perform .readClock).2
  have hread : readClock.run w = (.ok (w.perform .readClock).1, w') := rfl
  have hclock : postsIn (readClock.seen w) = [] := rfl
  refine ⟨(w'.take hook.slot hook.timeout).1, t, ?_⟩
  rw [postOnce, seen_bind_ok hread, postsIn_append, hclock, List.nil_append]
  simp only [ht]
  rw [seen_bind_ok (run_acquire _ _ _), postsIn_append, postsIn_seen_acquire, List.nil_append,
    seen_bind, seen_post]
  split <;> simp [postsIn, Entry.post?]

theorem exists_post_deliver (hook : Webhook) (name datacenter : Text) (a : Alert) {w : World}
    (h : w.network.ClockRuns) :
    ∃ session url payload,
      .post session url payload ∈ (hook.deliver name datacenter a).seen w := by
  obtain ⟨session, t, hposts⟩ := hook.postsIn_postOnce (noteText a) h
  have honce : .post session hook.url (.attachment ⟨noteText a, t⟩) ∈
      (hook.postOnce (noteText a)).seen w :=
    mem_postsIn.mp (hposts ▸ List.mem_singleton_self _)
  exact ⟨_, _, _, mem_seen_bind (RetryPolicy.mem_seen_run honce) _⟩

end Slack.Webhook

/-! ## All holders -/

/-- **Every holder of a session keeps one at a time**, whatever it is used for, how often it
retries, when it is closed or its session ends from outside, and whatever the network replies. Each
use of a client of PagerDuty and of its handler posts, and so does each delivery of a Slack handler
as long as the clock runs. -/
theorem holders_keep_one_session (n : Network) :
    (∀ (c : PagerDuty.Client) (steps : List (HolderStep PagerDuty.IncidentRequest)),
      let records := c.holder.life steps { network := n }
      Holder.KeepsOneSession steps records ∧ HolderRecord.Posts records) ∧
    (∀ (c : PagerDuty.Client) (name : Text) (steps : List (HolderStep (Text × Alert))),
      let records := (PagerDuty.handler c name).holder.life steps { network := n }
      Holder.KeepsOneSession steps records ∧ HolderRecord.Posts records) ∧
    ∀ (hook : Slack.Webhook) (name : Text) (steps : List (HolderStep (Text × Alert))),
      let records := (hook.handler name).holder.life steps { network := n }
      Holder.KeepsOneSession steps records ∧ (n.ClockRuns → HolderRecord.Posts records) := by
  refine ⟨fun c steps => ⟨c.holder_on.keepsOneSession steps n, ?_⟩,
    fun c name steps => ⟨(PagerDuty.handler_on c name).keepsOneSession steps n, ?_⟩,
    fun hook name steps => ⟨(hook.handler_on name).keepsOneSession steps n, fun hclock => ?_⟩⟩
  · refine Holder.posts_life (fun q w _ => ?_) rfl
    obtain ⟨e, he⟩ := c.exists_event q
    rw [he]
    exact c.exists_post e w
  · exact Holder.posts_life (fun q w _ => PagerDuty.exists_post_deliver c name q.1 q.2 w) rfl
  · refine Holder.posts_life (fun q w hw => ?_) rfl
    exact hook.exists_post_deliver name q.1 q.2 (hw.symm ▸ hclock)

end AlertRelay
