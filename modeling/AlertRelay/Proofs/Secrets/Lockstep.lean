import AlertRelay.Proofs.HandlerLife
import AlertRelay.Proofs.Posts
import AlertRelay.Proofs.Retry

/-!
# Runs in lockstep

Two channels that differ in a secret alone run in lockstep: what they come to is the same, and what
is seen of one is what is seen of the other, except for the secret in its posts. A `Disguise` says
where that is. In worlds that are `Alike` under it, sessions, clock and replies are the same, and
every step of the one run is answered like that of the other:

* `Program.InStep` — two programs run in lockstep, with a rule for each way to build a program;
* `RetryPolicy.inStep_runFrom` — retries of operations in lockstep are in lockstep, by induction on
  the attempts that are left;
* `Handler.InStep.life_eq` — so are the lives of handlers, step by step.
-/

namespace AlertRelay

/-! ## Disguises -/

/-- What a run with one secret differs in from a run with another: the keys under which their posts
are answered, and how the address and the message of a post change. -/
structure Disguise where
  key : Text
  key' : Text
  address : Text → Text
  payload : Payload → Payload

namespace Disguise

variable {d : Disguise} {w w' : World}

/-- An entry in disguise. Only posts change. -/
def entry (d : Disguise) : Entry → Entry
  | .post session url payload => .post session (d.address url) (d.payload payload)
  | e => e

/-- Whether a channel that posts under the one key in the one world finds what another one finds
that posts under the other key in the other world: the same sessions, the same clock and the same
replies. -/
structure Alike (d : Disguise) (w w' : World) : Prop where
  sessions : w'.sessions = w.sessions
  clock : w'.network.clock = w.network.clock
  clockReads : w'.clockReads = w.clockReads
  replies : ∀ i, w'.replyTo d.key' i = w.replyTo d.key i

/-- What is seen makes no difference. -/
theorem Alike.see (h : d.Alike w w') (e e' : Entry) : d.Alike (w.see e) (w'.see e') :=
  ⟨h.sessions, h.clock, h.clockReads, h.replies⟩

theorem Alike.expire (h : d.Alike w w') : d.Alike w.expire w'.expire :=
  ⟨congrArg Sessions.expire h.sessions, h.clock, h.clockReads, h.replies⟩

/-- A post in disguise leaves the same replies. -/
theorem Alike.afterPost (h : d.Alike w w') (session : Nat) {url : Text} {payload : Payload}
    (hkey : payload.scriptKey url = d.key)
    (hkey' : (d.payload payload).scriptKey (d.address url) = d.key') :
    d.Alike (w.afterPost session url payload)
      (w'.afterPost session (d.address url) (d.payload payload)) where
  sessions := h.sessions
  clock := h.clock
  clockReads := h.clockReads
  replies i := by
    rw [← hkey, ← hkey', World.replyTo_afterPost, World.replyTo_afterPost, hkey, hkey']
    exact h.replies (i + 1)

end Disguise

/-! ## Programs in lockstep -/

namespace Program

variable {α β : Type} {d : Disguise} {p q : Program α}

/-- Whether two runs come to the same and show the same but for the disguise, and leave worlds that
are alike. -/
structure RunsAlike (d : Disguise) (p q : Program α) (w w' : World) : Prop where
  result : (q.run w').1 = (p.run w).1
  shown : q.seen w' = (p.seen w).map d.entry
  world : d.Alike (p.run w).2 (q.run w').2

/-- Whether two programs run alike in all worlds that are alike. -/
def InStep (d : Disguise) (p q : Program α) : Prop :=
  ∀ w w', d.Alike w w' → RunsAlike d p q w w'

theorem inStep_pure (a : α) : (pure a : Program α).InStep d (pure a) :=
  fun _ _ hw => ⟨rfl, rfl, hw⟩

theorem inStep_fail (x : Failure) : (fail x : Program α).InStep d (fail x) :=
  fun _ _ hw => ⟨rfl, rfl, hw⟩

theorem inStep_ofExcept (x : Except Failure α) : (ofExcept x).InStep d (ofExcept x) := by
  cases x with
  | ok a => exact inStep_pure a
  | error x => exact inStep_fail x

theorem inStep_note {e : Entry} (he : d.entry e = e) : (note e).InStep d (note e) :=
  fun _ _ hw => ⟨rfl, congrArg (fun e => [e]) he.symm, hw.see e e⟩

theorem inStep_log (severity : Severity) (logger : Logger) (event : Text)
    (fields : List (String × Value)) :
    (log severity logger event fields).InStep d (log severity logger event fields) :=
  inStep_note rfl

/-- Programs in lockstep stay so one after another. -/
theorem InStep.bind {f g : α → Program β} (h : p.InStep d q) (hf : ∀ a, (f a).InStep d (g a)) :
    (p >>= f).InStep d (q >>= g) := by
  intro w w' hw
  obtain ⟨hresult, hshown, hworld⟩ := h w w' hw
  match hp : p.run w with
  | (.ok a, w₁) =>
    have hq : q.run w' = (.ok a, (q.run w').2) := Prod.ext (by rw [hresult, hp]) rfl
    rw [hp] at hworld
    obtain ⟨hresult', hshown', hworld'⟩ := hf a w₁ _ hworld
    constructor
    · rw [run_bind_ok hp, run_bind_ok hq, hresult']
    · rw [seen_bind_ok hp, seen_bind_ok hq, hshown, hshown', List.map_append]
    · rw [run_bind_ok hp, run_bind_ok hq]
      exact hworld'
  | (.error x, w₁) =>
    have hq : q.run w' = (.error x, (q.run w').2) := Prod.ext (by rw [hresult, hp]) rfl
    rw [hp] at hworld
    constructor
    · rw [run_bind_error hp, run_bind_error hq]
    · rw [seen_bind_error hp, seen_bind_error hq, hshown]
    · rw [run_bind_error hp, run_bind_error hq]
      exact hworld

theorem InStep.attempt (h : p.InStep d q) : p.attempt.InStep d q.attempt := by
  intro w w' hw
  obtain ⟨hresult, hshown, hworld⟩ := h w w' hw
  constructor
  · rw [run_attempt, run_attempt, hresult]
  · rw [seen_attempt, seen_attempt, hshown]
  · rw [run_attempt, run_attempt]
    exact hworld

/-! ### Effects -/

/-- An effect other than a post is in step with itself if its reply, what it shows and the world it
leaves are the same in worlds that are alike. -/
theorem inStep_effect {e : Effect}
    (h : ∀ w w', d.Alike w w' → (w'.perform e).1 = (w.perform e).1 ∧
      w'.shown e = (w.shown e).map d.entry ∧ d.Alike (w.perform e).2 (w'.perform e).2) :
    (effect e).InStep d (effect e) := by
  intro w w' hw
  obtain ⟨hreply, hshown, hworld⟩ := h w w' hw
  constructor
  · rw [run_effect, run_effect, hreply]
  · rw [seen_effect, seen_effect, hshown]
  · exact hworld

theorem inStep_pause (length : Seconds) : (pause length).InStep d (pause length) :=
  inStep_effect fun _ _ hw => ⟨rfl, rfl, hw⟩

theorem inStep_sleep (length : Seconds) : (sleep length).InStep d (sleep length) :=
  (inStep_note rfl).bind fun _ => inStep_pause length

theorem inStep_readClock : readClock.InStep d readClock := by
  refine inStep_effect fun w w' hw => ⟨?_, rfl, ?_⟩
  · show (w'.network.clock[w'.clockReads]?).getD _ = (w.network.clock[w.clockReads]?).getD _
    rw [hw.clock, hw.clockReads]
  · exact ⟨hw.sessions, hw.clock, congrArg (· + 1) hw.clockReads, hw.replies⟩

/-- The same session is taken. -/
theorem inStep_acquire (slot : Nat) (timeout : Seconds) :
    (acquire slot timeout).InStep d (acquire slot timeout) := by
  refine inStep_effect fun w w' hw => ?_
  simp only [World.perform, World.shown, hw.sessions]
  cases w.sessions.current? slot with
  | some session => exact ⟨rfl, rfl, hw⟩
  | none => exact ⟨rfl, rfl, rfl, hw.clock, hw.clockReads, hw.replies⟩

/-- The same session is closed. -/
theorem inStep_release (slot : Nat) : (release slot).InStep d (release slot) := by
  refine inStep_effect fun w w' hw => ?_
  simp only [World.perform, World.shown, hw.sessions]
  cases w.sessions.current? slot with
  | some session => exact ⟨rfl, rfl, rfl, hw.clock, hw.clockReads, hw.replies⟩
  | none => exact ⟨rfl, rfl, hw⟩

/-- Posts that are disguised are answered alike. -/
theorem inStep_post (session : Nat) {url : Text} {payload : Payload}
    (hkey : payload.scriptKey url = d.key)
    (hkey' : (d.payload payload).scriptKey (d.address url) = d.key') :
    (post session url payload).InStep d (post session (d.address url) (d.payload payload)) := by
  intro w w' hw
  constructor
  · rw [run_post, run_post, hkey, hkey', hw.replies]
  · rw [seen_post, seen_post]
    rfl
  · rw [run_post, run_post]
    exact hw.afterPost session hkey hkey'

end Program

/-! ## Retries in lockstep -/

namespace RetryPolicy

open Program

variable {α : Type} {d : Disguise} {operation operation' : Nat → Program α}

/-- Retries of operations in lockstep are in lockstep. -/
theorem inStep_runFrom (p : RetryPolicy) (l : RetryLog)
    (hop : ∀ i, (operation i).InStep d (operation' i)) (left attempt : Nat) (errors : List Text) :
    (p.runFrom l operation left attempt errors).InStep d
      (p.runFrom l operation' left attempt errors) := by
  -- An attempt ends alike in both runs, so both go on, with the same errors, or neither.
  induction left generalizing attempt errors with
  | zero =>
    rw [runFrom.eq_def, runFrom.eq_def]
    refine (hop attempt).attempt.bind fun x => ?_
    cases x with
    | ok v => exact inStep_pure _
    | error f =>
      refine (inStep_log _ _ _ _).bind fun _ => ?_
      exact (inStep_log _ _ _ _).bind fun _ => inStep_pure _
  | succ left ih =>
    rw [runFrom.eq_def, runFrom.eq_def]
    refine (hop attempt).attempt.bind fun x => ?_
    cases x with
    | ok v => exact inStep_pure _
    | error f =>
      refine (inStep_log _ _ _ _).bind fun _ => ?_
      refine (inStep_log _ _ _ _).bind fun _ => ?_
      exact (inStep_sleep _).bind fun _ => ih _ _

theorem inStep_run (p : RetryPolicy) (l : RetryLog)
    (hop : ∀ i, (operation i).InStep d (operation' i)) :
    (p.run l operation).InStep d (p.run l operation') :=
  p.inStep_runFrom l hop p.maxRetries 1 []

end RetryPolicy

/-! ## Lives in lockstep -/

/-- A record whose entries are disguised. -/
def StepRecord.disguised (d : Disguise) (r : StepRecord) : StepRecord :=
  { r with seen := r.seen.map d.entry }

namespace Handler

variable {d : Disguise} {h h' : Handler} {w w' : World}

structure InStep (d : Disguise) (h h' : Handler) : Prop where
  deliver : ∀ datacenter a, (h.deliver datacenter a).InStep d (h'.deliver datacenter a)
  close : h.close.InStep d h'.close

/-- A step has the same record but for the disguise, and leaves worlds that are alike. -/
theorem InStep.perform (hh : h.InStep d h') (hw : d.Alike w w') (s : HandlerStep) :
    (h'.perform w' s).1 = (h.perform w s).1.disguised d ∧
      d.Alike (h.perform w s).2 (h'.perform w' s).2 := by
  cases s with
  | deliver datacenter a =>
    obtain ⟨hresult, hshown, hworld⟩ := hh.deliver datacenter a w w' hw
    refine ⟨?_, hworld⟩
    simp only [Handler.perform, StepRecord.disguised, hresult, hshown]
  | close =>
    obtain ⟨hresult, hshown, hworld⟩ := hh.close w w' hw
    refine ⟨?_, hworld⟩
    simp only [Handler.perform, StepRecord.disguised, hresult, hshown]
  | expire => exact ⟨rfl, hw.expire⟩

/-- Two lives in lockstep have the same records but for the disguise. -/
theorem InStep.life_eq (hh : h.InStep d h') (steps : List HandlerStep) (hw : d.Alike w w') :
    h'.life steps w' = (h.life steps w).map (·.disguised d) := by
  induction steps generalizing w w' with
  | nil => rfl
  | cons s steps ih =>
    obtain ⟨hrecord, hworld⟩ := hh.perform hw s
    have hstops : (h'.perform w' s).1.stops = (h.perform w s).1.stops := by
      rw [hrecord]
      rfl
    rw [life_cons, life_cons, List.map_cons, hstops, hrecord]
    congr 1
    split
    · rfl
    · exact ih hworld

end Handler

end AlertRelay
