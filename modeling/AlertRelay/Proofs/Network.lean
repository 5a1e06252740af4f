import AlertRelay.Proofs.Retry
import AlertRelay.Proofs.Schedule.Independence

/-!
# Programs on a network that raises only faults

The network of a run never changes, so it is a part of the world that settles things for good. When
none of its answers is a panic or a stop (`Network.OnlyFaults`), what its effects come to is a value
or an ordinary fault, and the same can be said of the programs put together from them:

* `Program.Returns` — a program comes to a value of a kind;
* `Program.NeverBreaks` — it comes to a value of a kind or to an ordinary fault, which a try turns
  into a value (`NeverBreaks.attempt`).

Retries of an operation that never breaks return, and with a reason for having no value
(`RetryPolicy.run_returns`).
-/

namespace AlertRelay

variable {α β : Type}

/-! ## Results without a panic or a stop -/

/-- Whether a result is a value of a kind. -/
def Returned (Q : α → Prop) : Except Failure α → Prop
  | .ok a => Q a
  | .error _ => False

/-- Whether a result is a value of a kind or an ordinary fault. -/
def Unbroken (Q : α → Prop) : Except Failure α → Prop
  | .ok a => Q a
  | .error x => ¬ x.Breaks

theorem Returned.exists_eq {Q : α → Prop} {x : Except Failure α} (h : Returned Q x) :
    ∃ a, x = .ok a ∧ Q a := by
  cases x with
  | ok a => exact ⟨a, rfl, h⟩
  | error f => exact h.elim

theorem Unbroken.tried {Q : α → Prop} {x : Except Failure α} (h : Unbroken Q x) :
    Returned (fun y => ∀ a, y = .ok a → Q a) (Program.tried x) := by
  rcases x with (f | text | code) | a
  · exact fun a ha => nomatch ha
  · exact h (Failure.breaks_panic text)
  · exact h (Failure.breaks_stop code)
  · rintro _ ⟨⟩
    exact h

/-! ## The network -/

/-- Whether a reply can be read, or its reading raises an ordinary fault. -/
def HttpReply.Readable (r : HttpReply) : Prop := ∀ x, r.unreadable = some x → ¬ x.Breaks

/-- Whether no answer of a network is a panic or a stop. -/
structure Network.OnlyFaults (n : Network) : Prop where
  http : ∀ entry ∈ n.http, ∀ reply ∈ entry.2, Unbroken HttpReply.Readable reply.outcome
  mx : ∀ entry ∈ n.mx, Unbroken (fun _ => True) entry.2.outcome
  smtp : ∀ entry ∈ n.smtp, ∀ reply ∈ entry.2, Unbroken (fun _ => True) reply.outcome
  resolver : ∀ entry ∈ n.resolver, Unbroken (fun _ => True) entry.2

/-- A network that knows nothing but how posts under one key are answered. -/
def Network.ofPosts (key : Text) (script : List (Delayed HttpReply)) : Network :=
  { http := [(key, script)] }

/-- A network that knows nothing but what becomes of mails to one recipient. -/
def Network.ofMails (recipient : Text) (script : List (Delayed Unit)) : Network :=
  { smtp := [(recipient, script)] }

/-- A network raises only faults if its replies to posts do. -/
theorem onlyFaults_ofPosts {key : Text} {script : List (Delayed HttpReply)}
    (h : ∀ reply ∈ script, Unbroken HttpReply.Readable reply.outcome) :
    (Network.ofPosts key script).OnlyFaults where
  http entry hentry reply hreply := by
    obtain rfl := List.mem_singleton.mp hentry
    exact h reply hreply
  mx := nofun
  smtp := nofun
  resolver := nofun

theorem onlyFaults_ofMails {recipient : Text} {script : List (Delayed Unit)}
    (h : ∀ reply ∈ script, Unbroken (fun _ => True) reply.outcome) :
    (Network.ofMails recipient script).OnlyFaults where
  http := nofun
  mx := nofun
  smtp entry hentry reply hreply := by
    obtain rfl := List.mem_singleton.mp hentry
    exact h reply hreply
  resolver := nofun

/-! ### Answers -/

theorem mem_of_lookup {entries : List (Text × α)} {key : Text} {a : α}
    (h : entries.lookup key = some a) : (key, a) ∈ entries := by
  obtain ⟨before, after, rfl, -⟩ := List.lookup_eq_some_iff.mp h
  exact List.mem_append_right before List.mem_cons_self

/-- What holds of every answer of a script, and of the one in its place, holds of its answers. -/
theorem getD_scripted {P : α → Prop} {scripts : List (Text × List α)} {instead : α}
    (h : ∀ entry ∈ scripts, ∀ a ∈ entry.2, P a) (hinstead : P instead) (key : Text) (n : Nat) :
    P (((scripts.lookup key).bind (scripted? · n)).getD instead) := by
  cases hlookup : scripts.lookup key with
  | none => exact hinstead
  | some script =>
    cases hanswer : scripted? script n with
    | none => simpa [hanswer] using hinstead
    | some a =>
      have hmem : a ∈ script := List.mem_of_getElem? hanswer
      simpa [hanswer] using h _ (mem_of_lookup hlookup) a hmem

/-- What holds of every answer, and of the one in its place, holds of the answer for a key. -/
theorem getD_lookup {P : α → Prop} {answers : List (Text × α)} {instead : α}
    (h : ∀ entry ∈ answers, P entry.2) (hinstead : P instead) (key : Text) :
    P ((answers.lookup key).getD instead) := by
  cases hlookup : answers.lookup key with
  | none => exact hinstead
  | some a => exact h _ (mem_of_lookup hlookup)

/-- The reply to a post that no script answers can be read. -/
theorem readable_defaultReply :
    Unbroken HttpReply.Readable Network.defaultReply.outcome := by
  intro x hx
  cases hx

theorem unbroken_unknownDomain : Unbroken (fun _ => True) Network.unknownDomain.outcome :=
  trivial

/-- No effect changes the network. -/
@[simp] theorem World.network_perform (w : World) (e : Effect) :
    (w.perform e).2.network = w.network := by
  cases e with
  | acquire slot timeout => cases h : w.sessions.current? slot <;> simp [perform, h, see]
  | release slot => cases h : w.sessions.current? slot <;> simp [perform, h, see]
  | _ => rfl

namespace Program

theorem network_run (p : Program α) (w : World) : (p.run w).2.network = w.network := by
  induction p generalizing w with
  | done a => rfl
  | fail f => rfl
  | step e next ih => exact (ih _ _).trans (w.network_perform e)

/-! ## What a network settles -/

/-- On a network, a program comes to a value of a kind, whatever else the world is. -/
def Returns (n : Network) (Q : α → Prop) (p : Program α) : Prop :=
  p.Settled World.network (Returned Q) n

/-- On a network, a program comes to a value of a kind or to an ordinary fault, whatever else the
world is. -/
def NeverBreaks (n : Network) (Q : α → Prop) (p : Program α) : Prop :=
  p.Settled World.network (Unbroken Q) n

variable {n : Network} {Q : α → Prop} {Q' : β → Prop} {p : Program α}

/-- A continuation is settled on the same network. -/
theorem settled_network_bind {R : Except Failure α → Prop} {R' : Except Failure β → Prop}
    {f : α → Program β} (h : p.Settled World.network R n)
    (hok : ∀ a, R (.ok a) → (f a).Settled World.network R' n)
    (herror : ∀ x, R (.error x) → R' (.error x)) :
    (p >>= f).Settled World.network R' n := by
  rw [bind_eq]
  induction p with
  | done a => exact hok a h
  | fail x => exact herror x h
  | step e next ih =>
    intro w hw
    have hnext := h w hw
    -- No effect changes the network, so what follows an effect is settled on the same one.
    rw [World.network_perform, hw] at hnext ⊢
    exact ih _ hnext

theorem Returns.exists_run {w : World} (h : p.Returns w.network Q) :
    ∃ a w', p.run w = (.ok a, w') ∧ Q a := by
  obtain ⟨a, ha, hQ⟩ := (settled_run h).exists_eq
  exact ⟨a, (p.run w).2, Prod.ext ha rfl, hQ⟩

theorem Returns.pure {a : α} (h : Q a) : (Pure.pure a : Program α).Returns n Q := h

/-- A program that returns goes on with what it returns, whatever is to be settled then. -/
theorem Returns.bind {f : α → Program β} {R' : Except Failure β → Prop} (h : p.Returns n Q)
    (hf : ∀ a, Q a → (f a).Settled World.network R' n) :
    (p >>= f).Settled World.network R' n :=
  settled_network_bind h hf fun _ hx => hx.elim

/-- Programs that never break do not break one after another. -/
theorem NeverBreaks.bind {f : α → Program β} (h : p.NeverBreaks n Q)
    (hf : ∀ a, Q a → (f a).NeverBreaks n Q') : (p >>= f).NeverBreaks n Q' :=
  settled_network_bind h hf fun _ hx => hx

/-- A try returns the value or the fault of a program that never breaks. -/
theorem NeverBreaks.attempt (h : p.NeverBreaks n Q) :
    p.attempt.Returns n fun y => ∀ a, y = .ok a → Q a := by
  refine settled_mono (settled_attempt h) ?_
  rintro _ ⟨y, hy, rfl⟩
  exact hy.tried

theorem neverBreaks_ofExcept {x : Except Failure α} (h : Unbroken Q x) :
    (ofExcept x).NeverBreaks n Q := by
  cases x <;> exact h

theorem neverBreaks_fault (f : Fault) : (fail (.fault f) : Program α).NeverBreaks n Q :=
  Failure.not_breaks_fault f

/-! ### Effects -/

/-- An effect always has a reply. -/
theorem returns_effect (e : Effect) : (effect e).Returns n fun _ => True :=
  fun _ _ => trivial

theorem returns_note (e : Entry) : (note e).Returns n fun _ => True := returns_effect (.note e)

theorem returns_log (severity : Severity) (logger : Logger) (event : Text)
    (fields : List (String × Value)) :
    (log severity logger event fields).Returns n fun _ => True := returns_note _

theorem returns_sleep (length : Seconds) : (sleep length).Returns n fun _ => True :=
  (returns_note _).bind fun _ _ => returns_effect (.pause length [])

theorem neverBreaks_await {d : Delayed α} (h : Unbroken Q d.outcome) :
    (await d).NeverBreaks n Q := by
  unfold await
  cases d.wait with
  | none => exact neverBreaks_ofExcept h
  | some length =>
    exact (returns_effect (.pause length [])).bind fun _ _ => neverBreaks_ofExcept h

theorem neverBreaks_post (hn : n.OnlyFaults) (session : Nat) (url : Text) (payload : Payload) :
    (post session url payload).NeverBreaks n HttpReply.Readable := by
  have hreply : (effect (.post session url payload)).Returns n
      fun reply : Delayed HttpReply => Unbroken HttpReply.Readable reply.outcome := by
    rintro w rfl
    exact getD_scripted (P := fun r : Delayed HttpReply => Unbroken HttpReply.Readable r.outcome)
      hn.http readable_defaultReply _ _
  exact hreply.bind fun _ h => neverBreaks_await h

theorem neverBreaks_queryMx (hn : n.OnlyFaults) (domain : Text) :
    (queryMx domain).NeverBreaks n fun _ => True := by
  have hanswer : (effect (.queryMx domain)).Returns n
      fun answer : Delayed MxAnswer => Unbroken (fun _ => True) answer.outcome := by
    rintro w rfl
    exact getD_lookup (P := fun d : Delayed MxAnswer => Unbroken (fun _ => True) d.outcome)
      hn.mx unbroken_unknownDomain domain
  exact hanswer.bind fun _ h => neverBreaks_await h

theorem neverBreaks_resolve (hn : n.OnlyFaults) (domain : Text) :
    (resolve domain).NeverBreaks n fun _ => True := by
  have hanswer : (effect (.resolve domain)).Returns n (Unbroken fun _ => True) := by
    rintro w rfl
    have hdefault : Unbroken (fun _ => True) (.ok ("mx." ++ domain)) := trivial
    exact getD_lookup hn.resolver hdefault domain
  exact hanswer.bind fun _ h => neverBreaks_ofExcept h

theorem neverBreaks_send (hn : n.OnlyFaults) (submission : Submission) :
    (send submission).NeverBreaks n fun _ => True := by
  have hreply : (effect (.send submission)).Returns n
      fun reply : Delayed Unit => Unbroken (fun _ => True) reply.outcome := by
    rintro w rfl
    have hdefault : Unbroken (fun _ => True) (Delayed.mk none (.ok ())).outcome := trivial
    exact getD_scripted (P := fun r : Delayed Unit => Unbroken (fun _ => True) r.outcome)
      hn.smtp hdefault _ _
  exact hreply.bind fun _ h => neverBreaks_await h

end Program

/-! ## Retries -/

namespace RetryPolicy

open Program

variable {n : Network} {Q : α → Prop} {operation : Nat → Program α}

/-- Every attempt meets the network of the run. -/
theorem network_of_mem_attempts {p : RetryPolicy} {l : RetryLog} {left attempt : Nat} {w : World}
    {a : Attempt α} (ha : a ∈ p.attempts l operation left attempt w) :
    a.world.network = w.network := by
  induction left, attempt, w using attempts_induction p l operation with
  | ok left attempt w v w' h =>
    rw [attempts_ok h] at ha
    rw [List.mem_singleton.mp ha]
  | last attempt w f w' h =>
    rw [attempts_last h] at ha
    rw [List.mem_singleton.mp ha]
  | again left attempt w f w' h ih =>
    have hafter : w'.network = w.network := by
      rw [← network_run (operation attempt) w, h]
    rw [attempts_again h] at ha
    rcases List.mem_cons.mp ha with rfl | ha
    · rfl
    · exact (ih ha).trans hafter
  | broken left attempt w x w' h hx =>
    rw [attempts_broken h hx] at ha
    rw [List.mem_singleton.mp ha]

/-- Retries return, with a value exactly if they succeeded, and with a reason if there is none. -/
theorem runFrom_returns (p : RetryPolicy) (l : RetryLog)
    (hop : ∀ i, (operation i).NeverBreaks n Q) (left attempt : Nat) (errors : List Text) :
    (p.runFrom l operation left attempt errors).Returns n fun r =>
      r.succeeded = r.value.isSome ∧ (r.succeeded = false → r.errors ≠ []) := by
  -- What is returned has the error of the last attempt, whatever `errors` held before.
  induction left generalizing attempt errors with
  | zero =>
    rw [runFrom.eq_def]
    refine (hop attempt).attempt.bind fun x _ => ?_
    cases x with
    | ok v => exact ⟨rfl, by simp⟩
    | error f =>
      refine Returns.bind (returns_log _ _ _ _) fun _ _ => ?_
      refine Returns.bind (returns_log _ _ _ _) fun _ _ => ?_
      exact Returns.pure ⟨rfl, by simp⟩
  | succ left ih =>
    rw [runFrom.eq_def]
    refine (hop attempt).attempt.bind fun x _ => ?_
    cases x with
    | ok v => exact ⟨rfl, by simp⟩
    | error f =>
      refine Returns.bind (returns_log _ _ _ _) fun _ _ => ?_
      refine Returns.bind (returns_log _ _ _ _) fun _ _ => ?_
      exact (returns_sleep _).bind fun _ _ => ih _ _

/-- Retrying what never breaks returns, and a failure has its reasons. -/
theorem run_returns (p : RetryPolicy) (l : RetryLog) (hop : ∀ i, (operation i).NeverBreaks n Q) :
    (p.run l operation).Returns n fun r =>
      r.succeeded = r.value.isSome ∧ (r.succeeded = false → r.errors ≠ []) :=
  p.runFrom_returns l hop p.maxRetries 1 []

end RetryPolicy

end AlertRelay
