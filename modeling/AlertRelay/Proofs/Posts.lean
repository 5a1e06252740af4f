import AlertRelay.Proofs.Run

/-!
# Posts and their replies

`postsIn` picks the posts out of what was seen. `World.replyTo w key i` is the reply that awaits the
post number `i` from now on under a key of the network's scripts; a post takes the first of these
replies and moves the others up (`run_post`, `replyTo_afterPost`), and nothing else touches them.
-/

namespace AlertRelay

def Entry.post? : Entry → Option (Nat × Text × Payload)
  | .post session url payload => some (session, url, payload)
  | _ => none

def postsIn (es : List Entry) : List (Nat × Text × Payload) := es.filterMap Entry.post?

@[simp] theorem postsIn_nil : postsIn [] = [] := rfl

@[simp] theorem postsIn_append (es fs : List Entry) :
    postsIn (es ++ fs) = postsIn es ++ postsIn fs :=
  List.filterMap_append

theorem mem_postsIn {es : List Entry} {session : Nat} {url : Text} {payload : Payload} :
    (session, url, payload) ∈ postsIn es ↔ .post session url payload ∈ es := by
  unfold postsIn
  rw [List.mem_filterMap]
  constructor
  · rintro ⟨e, he, hp⟩
    cases e <;> simp only [Entry.post?, reduceCtorEq, Option.some.injEq, Prod.mk.injEq] at hp
    obtain ⟨rfl, rfl, rfl⟩ := hp
    exact he
  · intro h
    exact ⟨_, h, rfl⟩

/-! ## Counting posts under keys -/

theorem countOf_countUp (counts : List (Text × Nat)) (key : Text) :
    countOf (countUp counts key) key = countOf counts key + 1 := by
  simp [countUp, countOf]

/-- Dropping what stands under another key does not change what is found. -/
theorem lookup_filter_ne {κ ν : Type} [BEq κ] [LawfulBEq κ] {entries : List (κ × ν)}
    {key other : κ} (hne : key ≠ other) :
    (entries.filter (·.1 != other)).lookup key = entries.lookup key := by
  induction entries with
  | nil => rfl
  | cons entry entries ih =>
    obtain ⟨name, value⟩ := entry
    rw [List.filter_cons]
    by_cases hother : name = other
    · have hdiffers : (key == name) = false := by simpa [hother] using hne
      simp only [hother, bne_self_eq_false, Bool.false_eq_true, if_false, ih]
      rw [List.lookup_cons, ← hother, hdiffers]
    · simp [hother, List.lookup_cons, ih]

/-- Counting under one key leaves the counts under the others. -/
theorem countOf_countUp_of_ne {key other : Text} (hne : key ≠ other)
    (counts : List (Text × Nat)) : countOf (countUp counts key) other = countOf counts other := by
  have hdiffers : (other == key) = false := by simpa using hne.symm
  rw [countOf, countUp, List.lookup_cons, hdiffers]
  show ((counts.filter (·.1 != key)).lookup other).getD 0 = _
  rw [lookup_filter_ne hne.symm, countOf]

/-! ## The replies that await -/

namespace World

/-- The reply that awaits the post number `i` from now on under a key. -/
def replyTo (w : World) (key : Text) (i : Nat) : Delayed HttpReply :=
  ((w.network.http.lookup key).bind (scripted? · (countOf w.posts key + i))).getD
    Network.defaultReply

@[simp] theorem replyTo_see (w : World) (e : Entry) (key : Text) (i : Nat) :
    (w.see e).replyTo key i = w.replyTo key i := rfl

/-- The session that a slot holds from now on, and the world in which it does. -/
def take (w : World) (slot : Nat) (timeout : Seconds) : Nat × World :=
  w.perform (.acquire slot timeout)

def afterPost (w : World) (session : Nat) (url : Text) (payload : Payload) : World :=
  (w.perform (.post session url payload)).2

@[simp] theorem replyTo_take (w : World) (slot : Nat) (timeout : Seconds) (key : Text) (i : Nat) :
    (w.take slot timeout).2.replyTo key i = w.replyTo key i := by
  cases h : w.sessions.current? slot <;> simp [take, perform, h, replyTo, see]

/-- A post takes the first of the replies that await. -/
theorem replyTo_afterPost (w : World) (session : Nat) (url : Text) (payload : Payload) (i : Nat) :
    (w.afterPost session url payload).replyTo (payload.scriptKey url) i =
      w.replyTo (payload.scriptKey url) (i + 1) := by
  have hcount : countOf (countUp w.posts (payload.scriptKey url)) (payload.scriptKey url) + i =
      countOf w.posts (payload.scriptKey url) + (i + 1) := by
    rw [countOf_countUp]
    omega
  show ((w.network.http.lookup _).bind (scripted? · (countOf (countUp _ _) _ + i))).getD _ = _
  rw [hcount]
  rfl

end World

/-! ## Taking a session and posting -/

namespace Program

@[simp] theorem run_acquire (slot : Nat) (timeout : Seconds) (w : World) :
    (acquire slot timeout).run w = (.ok (w.take slot timeout).1, (w.take slot timeout).2) := rfl

@[simp] theorem postsIn_seen_acquire (slot : Nat) (timeout : Seconds) (w : World) :
    postsIn ((acquire slot timeout).seen w) = [] := by
  have hseen : (acquire slot timeout).seen w = w.shown (.acquire slot timeout) := seen_effect _ w
  rw [hseen]
  cases h : w.sessions.current? slot <;> simp [World.shown, h, postsIn, Entry.post?]

theorem postsIn_seen_release (slot : Nat) (w : World) :
    postsIn ((release slot).seen w) = [] := by
  have hseen : (release slot).seen w = w.shown (.release slot) := seen_effect _ w
  rw [hseen]
  cases h : w.sessions.current? slot <;> simp [World.shown, h, postsIn, Entry.post?]

/-- A post comes to the next reply under its key. -/
theorem run_post (session : Nat) (url : Text) (payload : Payload) (w : World) :
    (post session url payload).run w =
      ((w.replyTo (payload.scriptKey url) 0).outcome, w.afterPost session url payload) :=
  run_await (w.replyTo (payload.scriptKey url) 0) (w.afterPost session url payload)

theorem seen_post (session : Nat) (url : Text) (payload : Payload) (w : World) :
    (post session url payload).seen w = [.post session url payload] := by
  have h : (post session url payload).seen w =
      .post session url payload ::
        (await (w.replyTo (payload.scriptKey url) 0)).seen (w.afterPost session url payload) := rfl
  rw [h, seen_await]

end Program

end AlertRelay
