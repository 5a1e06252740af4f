import AlertRelay.Proofs.Posts
import AlertRelay.Proofs.Retry

/-!
# Excerpts of what is seen

An excerpt takes the entries of a kind out of what is seen: the posts, the mails that are sent, the
delays between attempts, the calls of the log for an event. A program that shows nothing of the kind
can be left out of the account (`Program.filterMap_seen_bind`), and retries leave one delay between
each two attempts (`RetryPolicy.delaysIn_runFrom`).
-/

namespace AlertRelay

variable {α β γ : Type} {pick : Entry → Option γ}

/-! ## Programs that show nothing of a kind -/

namespace Program

/-- Whether an excerpt takes nothing of what a program shows. -/
def ShowsNone (pick : Entry → Option γ) (p : Program α) : Prop :=
  ∀ w, (p.seen w).filterMap pick = []

variable {p : Program α} {f : α → Program β}

theorem showsNone_pure (a : α) : (pure a : Program α).ShowsNone pick := fun _ => rfl

theorem showsNone_fail (x : Failure) : (fail x : Program α).ShowsNone pick := fun _ => rfl

theorem showsNone_ofExcept (x : Except Failure α) : (ofExcept x).ShowsNone pick := by
  intro w
  rw [seen_ofExcept]
  rfl

theorem showsNone_note {e : Entry} (h : pick e = none) : (note e).ShowsNone pick := by
  intro w
  simp [h]

theorem ShowsNone.attempt (h : p.ShowsNone pick) : p.attempt.ShowsNone pick := by
  intro w
  rw [seen_attempt]
  exact h w

theorem showsNone_await (d : Delayed α) : (await d).ShowsNone pick := by
  intro w
  rw [seen_await]
  rfl

theorem showsNone_acquire (h : ∀ n t, pick (.sessionOpened n t) = none) (slot : Nat)
    (timeout : Seconds) : (acquire slot timeout).ShowsNone pick := by
  intro w
  have hseen : (acquire slot timeout).seen w = w.shown (.acquire slot timeout) := seen_effect _ w
  rw [hseen]
  cases hslot : w.sessions.current? slot <;> simp [World.shown, hslot, h]

theorem showsNone_post (h : ∀ n url payload, pick (.post n url payload) = none) (session : Nat)
    (url : Text) (payload : Payload) : (post session url payload).ShowsNone pick := by
  intro w
  rw [seen_post]
  simp [h]

/-- What goes on without showing anything of a kind can be left out. -/
theorem filterMap_seen_bind (hf : ∀ a, (f a).ShowsNone pick) (w : World) :
    ((p >>= f).seen w).filterMap pick = (p.seen w).filterMap pick := by
  rw [seen_bind]
  split
  · next a w' _ => rw [List.filterMap_append, hf a w', List.append_nil]
  · rfl

/-- What went before without showing anything of a kind can be left out. -/
theorem ShowsNone.filterMap_seen_bind (hp : p.ShowsNone pick) {a : α} {w w' : World}
    (h : p.run w = (.ok a, w')) :
    ((p >>= f).seen w).filterMap pick = ((f a).seen w').filterMap pick := by
  rw [seen_bind_ok h, List.filterMap_append, hp w, List.nil_append]

/-- What shows nothing of a kind step by step shows none at all. -/
theorem ShowsNone.bind (h : p.ShowsNone pick) (hf : ∀ a, (f a).ShowsNone pick) :
    (p >>= f).ShowsNone pick := by
  intro w
  rw [Program.filterMap_seen_bind hf]
  exact h w

end Program

/-! ## Delays and mails -/

def Entry.delay? : Entry → Option Seconds
  | .sleep length => some length
  | _ => none

def delaysIn (es : List Entry) : List Seconds := es.filterMap Entry.delay?

/-- The mail whose sending an entry begins. -/
def Entry.submission? : Entry → Option Submission
  | .send submission => some submission
  | _ => none

/-- The mails that are sent among entries, in order. -/
def submissionsIn (es : List Entry) : List Submission := es.filterMap Entry.submission?

@[simp] theorem delaysIn_append (es fs : List Entry) :
    delaysIn (es ++ fs) = delaysIn es ++ delaysIn fs :=
  List.filterMap_append

@[simp] theorem submissionsIn_append (es fs : List Entry) :
    submissionsIn (es ++ fs) = submissionsIn es ++ submissionsIn fs :=
  List.filterMap_append

/-! ## Calls of the log -/

def Entry.callOf? (event : Text) : Entry → Option Entry
  | .log call => if call.event = event then some (.log call) else none
  | _ => none

theorem Entry.callOf?_of_eq {event : Text} {call : LogCall} (h : call.event = event) :
    Entry.callOf? event (.log call) = some (.log call) :=
  if_pos h

theorem Entry.callOf?_of_ne {event : Text} {call : LogCall} (h : call.event ≠ event) :
    Entry.callOf? event (.log call) = none :=
  if_neg h

def callsOf (event : Text) (es : List Entry) : List Entry := es.filterMap (Entry.callOf? event)

/-! ## Excerpts of retries -/

namespace RetryPolicy

variable {p : RetryPolicy} {l : RetryLog} {operation : Nat → Program α}

/-- If every attempt shows one entry of a kind, so many are seen of a run as it has attempts. -/
theorem length_filterMap_seen_runFrom (hlog : ∀ c, pick (.log c) = none)
    (hsleep : ∀ s, pick (.sleep s) = none) (left attempt : Nat) (w : World) (errors : List Text)
    (hone : ∀ a ∈ p.attempts l operation left attempt w, (a.shown.filterMap pick).length = 1) :
    (((p.runFrom l operation left attempt errors).seen w).filterMap pick).length =
      (p.attempts l operation left attempt w).length := by
  rw [filterMap_seen_runFrom hlog hsleep, List.length_flatMap, List.map_congr_left hone,
    List.map_const', List.sum_replicate_nat, Nat.mul_one]

/-- Retries show nothing of a kind if neither the attempts nor what stands between them do. -/
theorem showsNone_runFrom (hop : ∀ i, (operation i).ShowsNone pick)
    (hfailed : ∀ i f, pick (l.failedEntry p i f) = none)
    (hretrying : pick (l.retryingEntry p.delay) = none)
    (hexhausted : pick (l.exhaustedEntry p) = none) (hsleep : pick (.sleep p.delay) = none)
    (left attempt : Nat) (errors : List Text) :
    (p.runFrom l operation left attempt errors).ShowsNone pick := by
  intro w
  have hcall : ∀ i w, ((operation i).seen w).filterMap pick = [] := hop
  induction left, attempt, w using attempts_induction p l operation generalizing errors with
  | ok left attempt w v w' h => rw [seen_runFrom_ok h, hcall]
  | last attempt w f w' h => simp [seen_runFrom_last h, hcall, hfailed, hexhausted]
  | again left attempt w f w' h ih =>
    have hbetween : (p.betweenAttempts l attempt f).filterMap pick = [] := by
      simp [betweenAttempts, delayAfter, hfailed, hretrying, hsleep]
    rw [seen_runFrom_again h, List.filterMap_append, List.filterMap_append, hcall, hbetween, ih]
    rfl
  | broken left attempt w x w' h hx => rw [seen_runFrom_broken h hx, hcall]

/-- Retries log under names that begin with the name of the operation. -/
theorem showsNone_callOf_runFrom {event : Text}
    (hop : ∀ i, (operation i).ShowsNone (Entry.callOf? event))
    (hevent : ∀ ending ∈ ["_failed", "_retrying", "_retries_exhausted"],
      Text.ofString l.event ++ Text.ofString ending ≠ event)
    (left attempt : Nat) (errors : List Text) :
    (p.runFrom l operation left attempt errors).ShowsNone (Entry.callOf? event) :=
  showsNone_runFrom hop (fun _ _ => Entry.callOf?_of_ne (hevent "_failed" (by simp)))
    (Entry.callOf?_of_ne (hevent "_retrying" (by simp)))
    (Entry.callOf?_of_ne (hevent "_retries_exhausted" (by simp))) rfl left attempt errors

/-- One delay lies between each two attempts, and there is no other. -/
theorem delaysIn_runFrom (hop : ∀ i, (operation i).ShowsNone Entry.delay?) (left attempt : Nat)
    (w : World) (errors : List Text) :
    delaysIn ((p.runFrom l operation left attempt errors).seen w) =
      List.replicate ((p.attempts l operation left attempt w).length - 1) p.delay := by
  have hcall : ∀ i w, delaysIn ((operation i).seen w) = [] := hop
  induction left, attempt, w using attempts_induction p l operation generalizing errors with
  | ok left attempt w v w' h =>
    rw [seen_runFrom_ok h, attempts_ok h, hcall]
    rfl
  | last attempt w f w' h =>
    rw [seen_runFrom_last h, attempts_last h, delaysIn_append, hcall]
    rfl
  | again left attempt w f w' h ih =>
    have hbetween : delaysIn (p.betweenAttempts l attempt f) = [p.delay] := rfl
    have hmore : 0 < (p.attempts l operation left (attempt + 1)
        (p.worldAfterFault l attempt f w')).length := length_attempts_pos _ _ _
    rw [seen_runFrom_again h, attempts_again h, delaysIn_append, delaysIn_append, hcall, hbetween,
      ih, List.nil_append, List.singleton_append, ← List.replicate_succ, List.length_cons]
    congr 1
    omega
  | broken left attempt w x w' h hx =>
    rw [seen_runFrom_broken h hx, attempts_broken h hx, hcall]
    rfl

end RetryPolicy

end AlertRelay
