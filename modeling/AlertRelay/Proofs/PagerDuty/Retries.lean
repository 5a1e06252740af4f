import Mathlib
import AlertRelay.Channel.PagerDuty
import AlertRelay.Proofs.Excerpts
import AlertRelay.Proofs.Posts

/-!
# How often an event is posted

The client of the service posts an event again exactly when the reply asks for it and an attempt is
left. `AsksAgain` says of a reply, without regard to how it is read, whether it asks: a transport
that failed, a body that could not be read, a limit of rate, a fault of the server — and a final
reply that nobody can make sense of, because its errors are neither nothing nor a collection, or
because too many of its values lie within one another. The last kind is why a final reply may be
followed by another post (`postEvent_reposts_final_reply`).

* `readReply_fault_iff` — the replies whose reading ends in a fault;
* `attempt_postOnce` — the attempt number `i` meets the reply number `i` and posts once;
* `length_posts_postEvent` — there are as many posts as attempts.
-/

namespace AlertRelay

/-- Whether a value is a collection of items. -/
def Value.holdsItems : Value → Bool
  | .text _ | .bytes _ | .list _ | .set _ | .map _ => true
  | _ => false

namespace PagerDuty

/-! ## Replies that ask for another post -/

/-- Whether a final reply can be made sense of: its values do not lie too deep, and the errors that
it names are nothing or a collection. -/
def Sensible (reply : HttpReply) : Prop :=
  ∃ es, bodyEntries reply.depthLimit reply.body = .ok es ∧
    ((entry es "errors").isTruthy = true → (entry es "errors").holdsItems = true)

/-- Whether a failure is an ordinary fault, neither a panic nor a stop. -/
def IsFault (f : Failure) : Prop := ∃ x, f = .fault x

/-- Whether the reply to a post asks for another one. -/
def AsksAgain (d : Delayed HttpReply) : Prop :=
  match d.outcome with
  | .error f => IsFault f
  | .ok reply =>
    match reply.unreadable with
    | some f => IsFault f
    | none =>
      reply.status = 403 ∨ reply.status = 429 ∨ 500 ≤ reply.status ∨ ¬ Sensible reply

/-- Another attempt is asked for by 403, 429 and all from 500 on. -/
theorem isTransient_iff (status : Int) :
    isTransient status = true ↔ status = 403 ∨ status = 429 ∨ 500 ≤ status := by
  simp [isTransient, or_assoc]

/-- Only a collection has items. -/
theorem itemTexts_eq_ok_iff (v : Value) :
    (∃ items, itemTexts v = .ok items) ↔ v.holdsItems = true := by
  cases v <;> simp [itemTexts, Value.holdsItems]

/-- Reading a final reply fails only on its errors. -/
theorem parseResponse_fault_iff (status : Int) (es : List (Value × Value)) :
    (∃ f, parseResponse status es = .error f) ↔
      ¬ ((entry es "errors").isTruthy = true → (entry es "errors").holdsItems = true) := by
  unfold parseResponse
  by_cases ht : (entry es "errors").isTruthy = true
  · have hitems := itemTexts_eq_ok_iff (entry es "errors")
    simp only [ht, if_true, true_implies, ← hitems]
    cases itemTexts (entry es "errors") with
    | error f => simp [bind, Except.bind]
    | ok items => simp [bind, Except.bind]
  · simp [ht, bind, Except.bind]

/-- What an attempt comes to that meets a reply. -/
def answer (d : Delayed HttpReply) : Except Failure Response :=
  match d.outcome with
  | .error f => .error f
  | .ok reply => readReply reply

/-- The reading of a reply faults if the reply asks for another attempt or makes no sense. -/
theorem readReply_fault_iff (reply : HttpReply) (h : reply.unreadable = none) :
    (∃ f, readReply reply = .error (.fault f)) ↔
      isTransient reply.status = true ∨ ¬ Sensible reply := by
  unfold readReply Sensible
  rw [h]
  cases hb : bodyEntries reply.depthLimit reply.body with
  | error f => simp
  | ok es =>
    by_cases ht : isTransient reply.status = true
    · simp [ht]
    · have hparse := parseResponse_fault_iff reply.status es
      simp only [ht, Bool.false_eq_true, if_false, false_or, Except.ok.injEq, exists_eq_left',
        ← hparse]
      cases parseResponse reply.status es with
      | error f => simp [Except.mapError]
      | ok r => simp [Except.mapError]

/-- A reply asks for another post exactly if the attempt that meets it ends in a fault. -/
theorem answer_fault_iff (d : Delayed HttpReply) :
    (∃ f, answer d = .error (.fault f)) ↔ AsksAgain d := by
  unfold answer AsksAgain
  cases d.outcome with
  | error f => simp [IsFault]
  | ok reply =>
    cases hu : reply.unreadable with
    | some f => simp [readReply, hu, IsFault]
    | none => simp only [readReply_fault_iff reply hu, isTransient_iff, or_assoc, hu]

/-! ## The attempts of a client -/

namespace Client

/-- An attempt meets the reply that awaits it and leaves the later ones. -/
theorem run_postOnce (c : Client) (e : IncidentEvent) (w : World) :
    ∃ w', (c.postOnce e).run w = (answer (w.replyTo e.serviceKey 0), w') ∧
      ∀ i, w'.replyTo e.serviceKey i = w.replyTo e.serviceKey (i + 1) := by
  rcases ht : w.take c.slot c.timeout with ⟨session, w₁⟩
  have hsame : ∀ i, w₁.replyTo e.serviceKey i = w.replyTo e.serviceKey i := by
    intro i
    rw [← World.replyTo_take w c.slot c.timeout, ht]
  refine ⟨w₁.afterPost session c.url (.event e), ?_, ?_⟩
  · have hpost := Program.run_post session c.url (.event e) w₁
    rw [postOnce, Program.run_bind, Program.run_acquire, ht]
    simp only [Program.run_bind, hpost]
    rw [show (Payload.event e).scriptKey c.url = e.serviceKey from rfl, hsame]
    unfold answer
    cases (w.replyTo e.serviceKey 0).outcome with
    | error f => rfl
    | ok reply => exact Program.run_ofExcept ..
  · intro i
    exact (World.replyTo_afterPost w₁ session c.url (.event e) i).trans (hsame (i + 1))

theorem postsIn_postOnce (c : Client) (e : IncidentEvent) (w : World) :
    ∃ session, postsIn ((c.postOnce e).seen w) = [(session, c.url, .event e)] := by
  rcases ht : w.take c.slot c.timeout with ⟨session, w₁⟩
  refine ⟨session, ?_⟩
  rw [postOnce, Program.seen_bind, Program.run_acquire, ht]
  simp only [postsIn_append, Program.postsIn_seen_acquire, List.nil_append, Program.seen_bind,
    Program.seen_post]
  split <;> simp [postsIn, Entry.post?]

/-- Nothing is seen of an attempt but a session and a post. -/
theorem showsNone_postOnce {β : Type} {pick : Entry → Option β}
    (hopened : ∀ n t, pick (.sessionOpened n t) = none)
    (hpost : ∀ n url payload, pick (.post n url payload) = none) (c : Client) (e : IncidentEvent) :
    (c.postOnce e).ShowsNone pick :=
  (Program.showsNone_acquire hopened _ _).bind fun session =>
    (Program.showsNone_post hpost session c.url (.event e)).bind fun _ =>
      Program.showsNone_ofExcept _

theorem first_attempt_postOnce (c : Client) (e : IncidentEvent) {w w' : World}
    {r : Except Failure Response} (h : (c.postOnce e).run w = (r, w')) :
    r = answer (w.replyTo e.serviceKey 0) ∧
      ∃ session, postsIn ((c.postOnce e).seen w) = [(session, c.url, .event e)] := by
  obtain ⟨w₁, hrun, -⟩ := c.run_postOnce e w
  exact ⟨congrArg Prod.fst (h.symm.trans hrun), c.postsIn_postOnce e w⟩

/-- The attempt number `i` meets the reply number `i`, and posts the event once. -/
theorem attempt_postOnce {c : Client} {e : IncidentEvent} {l : RetryLog} {left attempt : Nat}
    {w : World} {i : Nat} {a : RetryPolicy.Attempt Response}
    (ha : (c.retry.attempts l (fun _ => c.postOnce e) left attempt w)[i]? = some a) :
    a.result = answer (w.replyTo e.serviceKey i) ∧
      ∃ session, postsIn a.shown = [(session, c.url, .event e)] := by
  -- An attempt leaves the later replies, so the attempts after it meet those one further up.
  induction left, attempt, w using RetryPolicy.attempts_induction c.retry l
    (fun _ => c.postOnce e) generalizing i with
  | ok left attempt w v w' h =>
    rw [RetryPolicy.attempts_ok h] at ha
    obtain ⟨rfl, rfl⟩ := RetryPolicy.eq_of_getElem?_singleton ha
    exact c.first_attempt_postOnce e h
  | last attempt w f w' h =>
    rw [RetryPolicy.attempts_last h] at ha
    obtain ⟨rfl, rfl⟩ := RetryPolicy.eq_of_getElem?_singleton ha
    exact c.first_attempt_postOnce e h
  | again left attempt w f w' h ih =>
    rw [RetryPolicy.attempts_again h] at ha
    cases i with
    | zero =>
      obtain rfl := Option.some.inj ha
      exact c.first_attempt_postOnce e h
    | succ i =>
      obtain ⟨w₁, hrun, hnext⟩ := c.run_postOnce e w
      obtain rfl : w₁ = w' := congrArg Prod.snd (hrun.symm.trans h)
      rw [← hnext i]
      exact ih ha
  | broken left attempt w x w' h hx =>
    rw [RetryPolicy.attempts_broken h hx] at ha
    obtain ⟨rfl, rfl⟩ := RetryPolicy.eq_of_getElem?_singleton ha
    exact c.first_attempt_postOnce e h

/-! ## The posts of an event -/

def retryLog (c : Client) (e : IncidentEvent) : RetryLog :=
  ⟨c.logger, "pagerduty_request",
    [("event_type", .text e.kind.name), ("incident_key", .text e.incidentKey)]⟩

def attempts (c : Client) (e : IncidentEvent) (w : World) : List (RetryPolicy.Attempt Response) :=
  c.retry.attempts (c.retryLog e) (fun _ => c.postOnce e) c.retry.maxRetries 1 w

theorem seen_postEvent (c : Client) (e : IncidentEvent) (w : World) :
    (c.postEvent e).seen w = (c.retry.run (c.retryLog e) fun _ => c.postOnce e).seen w := by
  show ((c.retry.run (c.retryLog e) fun _ => c.postOnce e) >>= _).seen w = _
  rw [Program.seen_bind]
  split
  · next result w' _ =>
    cases result.value <;> simp
  · rfl

theorem postsIn_postEvent (c : Client) (e : IncidentEvent) (w : World) :
    postsIn ((c.postEvent e).seen w) = (c.attempts e w).flatMap (postsIn ·.shown) := by
  rw [seen_postEvent]
  exact RetryPolicy.filterMap_seen_runFrom (fun _ => rfl) (fun _ => rfl) ..

/-- Every attempt posts once. -/
theorem length_posts_postEvent (c : Client) (e : IncidentEvent) (w : World) :
    (postsIn ((c.postEvent e).seen w)).length = (c.attempts e w).length := by
  have hone : ∀ a ∈ c.attempts e w, (a.shown.filterMap Entry.post?).length = 1 := by
    intro a ha
    obtain ⟨i, hi⟩ := List.getElem?_of_mem ha
    obtain ⟨-, session, hposts⟩ := attempt_postOnce hi
    exact congrArg List.length hposts
  rw [seen_postEvent]
  exact RetryPolicy.length_filterMap_seen_runFrom (fun _ => rfl) (fun _ => rfl) _ _ _ _ hone

/-- An event is posted at least once. -/
theorem length_posts_pos (c : Client) (e : IncidentEvent) (w : World) :
    0 < (postsIn ((c.postEvent e).seen w)).length := by
  rw [length_posts_postEvent]
  exact RetryPolicy.length_attempts_pos ..

/-- No event is posted more often than the policy has attempts. -/
theorem length_posts_le (c : Client) (e : IncidentEvent) (w : World) :
    (postsIn ((c.postEvent e).seen w)).length ≤ c.retry.maxAttempts := by
  rw [length_posts_postEvent]
  exact RetryPolicy.length_attempts_le ..

/-- A post is followed by another exactly if its reply asks for one and an attempt is left. -/
theorem succ_lt_length_posts_iff (c : Client) (e : IncidentEvent) (w : World) {i : Nat}
    (hi : i < (postsIn ((c.postEvent e).seen w)).length) :
    i + 1 < (postsIn ((c.postEvent e).seen w)).length ↔
      i + 1 < c.retry.maxAttempts ∧ AsksAgain (w.replyTo e.serviceKey i) := by
  rw [length_posts_postEvent] at hi ⊢
  have ha := List.getElem?_eq_getElem hi
  have hresult := (attempt_postOnce ha).1
  have hnext := RetryPolicy.succ_lt_length_attempts_iff _ _ _ i _ ha
  rw [← answer_fault_iff, ← hresult, RetryPolicy.maxAttempts, Nat.succ_lt_succ_iff]
  exact hnext

end Client

/-- An event is posted at least once and at most as often as attempts are allowed. Each post is
followed by another exactly if its reply asks for one and an attempt is left. -/
theorem posted_again_iff (c : Client) (e : IncidentEvent) (w : World) :
    let posts := postsIn ((c.postEvent e).seen w)
    0 < posts.length ∧ posts.length ≤ c.retry.maxAttempts ∧
      ∀ i < posts.length,
        (i + 1 < posts.length ↔
          i + 1 < c.retry.maxAttempts ∧ AsksAgain (w.replyTo e.serviceKey i)) :=
  ⟨c.length_posts_pos e w, c.length_posts_le e w, fun _ => c.succ_lt_length_posts_iff e w⟩

/-! ## A final reply that is followed by another post -/

/-- A reply that rejects an event and gives the number of its errors in their place. -/
def countingReply : HttpReply := ⟨400, "\x7b\"errors\": 5\x7d", none, 100⟩

/-- A network that answers every post under a key with that reply. -/
def countingNetwork (key : Text) : Network := { http := [(key, [⟨none, .ok countingReply⟩])] }

theorem not_sensible_countingReply : ¬ Sensible countingReply := by
  have hread : Json.read 100 "\x7b\"errors\": 5\x7d" =
      .ok (.map [(.text "errors", .int 5)]) := by cbv
  have hbody : bodyEntries 100 countingReply.body = .ok [(.text "errors", .int 5)] := by
    have htrim : Text.trim Text.isAsciiBlank countingReply.body.toList =
        countingReply.body.toList := by cbv
    simp only [bodyEntries, htrim, String.ofList_toList]
    rw [show countingReply.body = "\x7b\"errors\": 5\x7d" from rfl, hread]
    rfl
  rintro ⟨es, hes, hitems⟩
  obtain rfl := Except.ok.inj (hbody.symm.trans hes)
  exact absurd (hitems (by decide)) (by decide)

/-- A final reply, read without an error, does not always end the posts of an event. -/
theorem postEvent_reposts_final_reply :
    ¬ ∀ (c : Client) (e : IncidentEvent) (w : World) (i : Nat) (reply : HttpReply),
      i < (postsIn ((c.postEvent e).seen w)).length →
      (w.replyTo e.serviceKey i).outcome = .ok reply → reply.unreadable = none →
      reply.status < 500 → reply.status ≠ 403 → reply.status ≠ 429 →
      (postsIn ((c.postEvent e).seen w)).length = i + 1 := by
  intro h
  let c : Client := { serviceKey := "key", retry := { maxRetries := 1 } }
  let e : IncidentEvent := ⟨"key", .trigger, "dc1-web--node1", "down", "", some clientName, none⟩
  let w : World := { network := countingNetwork "key" }
  have hreply : (w.replyTo e.serviceKey 0).outcome = .ok countingReply := rfl
  have hone := h c e w 0 countingReply (c.length_posts_pos e w) hreply rfl (by decide) (by decide)
    (by decide)
  have hasks : AsksAgain (w.replyTo e.serviceKey 0) :=
    .inr (.inr (.inr not_sensible_countingReply))
  have hnext := (c.succ_lt_length_posts_iff e w (c.length_posts_pos e w)).mpr ⟨by decide, hasks⟩
  omega

end PagerDuty

end AlertRelay
