import AlertRelay.Proofs.Accounts
import AlertRelay.Proofs.Lives
import AlertRelay.Proofs.PagerDuty.Announcements

/-!
# Notes and their replies

Every attempt to deliver an alert through Slack reads the clock once and posts once
(`run_postOnce`), so the post number `i` in the life of a handler carries the reading number `i` and
meets the reply number `i`, however many steps, deliveries and retries came before it
(`notes_follow_clock`). The outcome of a delivery is told by the replies to its posts.
-/

namespace AlertRelay

/-! ## Readings and replies -/

/-- The reading number `i` of the clock from now on. -/
def World.reading (w : World) (i : Nat) : Seconds :=
  (w.network.clock[w.clockReads + i]?).getD Network.defaultTime

namespace Slack

open Program RetryPolicy

/-- Whether a world comes after another and so many posts to an address, each of them after one
reading of the clock. -/
structure Follows (url : Text) (w : World) (n : Nat) (w' : World) : Prop where
  network : w'.network = w.network
  clock : w'.clockReads = w.clockReads + n
  posts : countOf w'.posts url = countOf w.posts url + n

namespace Follows

variable {url : Text} {w w' w'' : World} {n k : Nat}

theorem refl (url : Text) (w : World) : Follows url w 0 w := ⟨rfl, rfl, rfl⟩

theorem trans (h : Follows url w n w') (h' : Follows url w' k w'') : Follows url w (n + k) w'' where
  network := h'.network.trans h.network
  clock := by rw [h'.clock, h.clock, Nat.add_assoc]
  posts := by rw [h'.posts, h.posts, Nat.add_assoc]

theorem reading (h : Follows url w n w') (i : Nat) : w'.reading i = w.reading (n + i) := by
  rw [World.reading, World.reading, h.network, h.clock, Nat.add_assoc]

theorem replyTo (h : Follows url w n w') (i : Nat) : w'.replyTo url i = w.replyTo url (n + i) := by
  rw [World.replyTo, World.replyTo, h.network, h.posts, Nat.add_assoc]

theorem see (h : Follows url w n w') (e : Entry) : Follows url w n (w'.see e) :=
  ⟨h.network, h.clock, h.posts⟩

end Follows

/-! ## Replies -/

def answer (d : Delayed HttpReply) : Except Failure Unit := d.outcome.bind readReply

def Succeeds (d : Delayed HttpReply) : Prop := ∃ reply, d.outcome = .ok reply ∧ reply.status = 200

/-- What is recorded for a post that failed, by the reply to it. Of a fault it is the text, or the
kind when there is no text. -/
def failureOf? (d : Delayed HttpReply) : Option Text :=
  match d.outcome with
  | .ok reply =>
    if reply.status = 200 then none
    else
      match reply.unreadable with
      | none =>
        some ("HTTP " ++ toString reply.status ++ ": " ++
          String.ofList (reply.body.toList.take 200))
      | some (.fault f) => some (if f.text.isEmpty then f.kind else f.text)
      | some _ => none
  | .error (.fault f) => some (if f.text.isEmpty then f.kind else f.text)
  | .error _ => none

namespace Webhook

variable {hook : Webhook} {w : World}

theorem follows_take (hook : Webhook) (w : World) :
    Follows hook.url w 0 (w.take hook.slot hook.timeout).2 := by
  cases h : w.sessions.current? hook.slot <;>
    constructor <;> simp [World.take, World.perform, h, World.see]

/-- Reading the clock, taking a session and posting move readings and posts on by one. -/
theorem follows_attempt (hook : Webhook) (w : World) (text : Text) (t : Int) :
    let w₁ := (w.perform .readClock).2
    let w₂ := (w₁.take hook.slot hook.timeout).2
    Follows hook.url w 1 (w₂.afterPost (w₁.take hook.slot hook.timeout).1 hook.url
      (.attachment ⟨text, t⟩)) := by
  intro w₁ w₂
  have hsame : Follows hook.url w₁ 0 w₂ := hook.follows_take w₁
  constructor
  · exact hsame.network
  · exact hsame.clock
  · exact (countOf_countUp _ _).trans (congrArg (· + 1) hsame.posts)

/-- An attempt reads the clock once and posts once, and comes to what the reply says. -/
theorem run_postOnce (hook : Webhook) (text : Text) {w : World} (h : w.network.ClockRuns) :
    ∃ w' session t, (hook.postOnce text).run w = (answer (w.replyTo hook.url 0), w') ∧
      Follows hook.url w 1 w' ∧ (w.reading 0).truncate? = some t ∧
      postsIn ((hook.postOnce text).seen w) = [(session, hook.url, .attachment ⟨text, t⟩)] := by
  obtain ⟨t, ht⟩ := h.exists_reading
  let w₁ := (w.perform .readClock).2
  let w₂ := (w₁.take hook.slot hook.timeout).2
  let session := (w₁.take hook.slot hook.timeout).1
  have hread : readClock.run w = (.ok (w.perform .readClock).1, w₁) := rfl
  have hclock : postsIn (readClock.seen w) = [] := rfl
  have hpost := run_post session hook.url (.attachment ⟨text, t⟩) w₂
  have hreply : w₂.replyTo hook.url 0 = w.replyTo hook.url 0 := (hook.follows_take w₁).replyTo 0
  refine ⟨_, session, t, ?_, hook.follows_attempt w text t, ht, ?_⟩
  · rw [postOnce, run_bind_ok hread]
    simp only [ht]
    rw [run_bind_ok (run_acquire _ _ _), run_bind, hpost,
      show (Payload.attachment ⟨text, t⟩).scriptKey hook.url = hook.url from rfl, hreply, answer]
    cases (w.replyTo hook.url 0).outcome with
    | error x => rfl
    | ok reply => exact run_ofExcept _ _
  · rw [postOnce, seen_bind_ok hread, postsIn_append, hclock, List.nil_append]
    simp only [ht]
    rw [seen_bind_ok (run_acquire _ _ _), postsIn_append, postsIn_seen_acquire, List.nil_append,
      seen_bind, seen_post]
    split <;> simp [postsIn, Entry.post?, w₁, session]

end Webhook

/-- Whether a message is the note of an alert: one attachment, with the texts of the alert as they
are and a time in whole seconds. -/
def Tells (a : Alert) (t : Int) (message : Payload) : Prop :=
  ∃ fields, message.toValue = .map [named "attachments" (.list [.map fields])] ∧
    Value.lookup? fields "text" =
      some (.text ("\n*" ++ a.message ++ "*\n" ++ a.details ++ "\n")) ∧
    Value.lookup? fields "ts" = some (.int t)

/-- Whether what a delivery shows and comes to follows the clock and the replies after `k` earlier
posts of a life that began in a world: every post carries its reading, the errors are those that the
replies to failed posts tell, and the delivery succeeds if the last reply is a success. -/
structure Delivered (url : Text) (limit : Nat) (w : World) (k : Nat) (a : Alert) (r : StepRecord) :
    Prop where
  pos : 0 < (postsIn r.seen).length
  le : (postsIn r.seen).length ≤ limit
  notes : ∀ i session address message, (postsIn r.seen)[i]? = some (session, address, message) →
    address = url ∧ ∃ t, (w.reading (k + i)).truncate? = some t ∧ Tells a t message
  failed : ∀ i < (postsIn r.seen).length,
    ((failureOf? (w.replyTo url (k + i))).isSome = true ↔ ¬ Succeeds (w.replyTo url (k + i)))
  returns : ∃ o, r.result = .ok (some o) ∧
    (o.succeeded = true ↔ Succeeds (w.replyTo url (k + ((postsIn r.seen).length - 1)))) ∧
    o.errors = ((List.range (postsIn r.seen).length).map fun i =>
      w.replyTo url (k + i)).filterMap failureOf?

namespace Webhook

theorem postsIn_deliver (hook : Webhook) (name datacenter : Text) (a : Alert) (w : World) :
    postsIn ((hook.deliver name datacenter a).seen w) =
      (hook.attempts a w).flatMap (postsIn ·.shown) := by
  rw [postsIn, filterMap_seen_deliver (fun _ => rfl)]
  exact filterMap_seen_runFrom (fun _ => rfl) (fun _ => rfl) _ _ _ _

/-- A webhook posts to the address of its token, at most once more often than is configured. -/
theorem of_ofConfig {config : SlackConfig} {delay timeout : Seconds} {logger : Logger} {slot : Nat}
    {hook : Webhook} (h : ofConfig config delay timeout logger slot = .ok hook) :
    hook.url = webhookUrl config.apiToken ∧ hook.retry.maxAttempts = config.maxRetries + 1 := by
  obtain ⟨retry, hretry, h⟩ := exists_of_bind_eq_ok h
  obtain rfl := Except.ok.inj h
  rw [RetryPolicy.eq_of_ofNumbers hretry]
  exact ⟨rfl, rfl⟩

end Webhook

end Slack

end AlertRelay
