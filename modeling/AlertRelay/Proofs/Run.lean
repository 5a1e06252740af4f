import AlertRelay.World

/-!
# Runs of programs

How the run of a program splits along the way the program is put together, and what a run adds to
what was seen.

* `Program.run_bind` — a program with a continuation runs like the program and then, if that came
  to a result, like the continuation in the world it left;
* `Program.run_attempt` — a tried program runs like the program itself;
* `Program.trace_run` — a run only ever adds to what was seen, namely `Program.seen`.
-/

namespace AlertRelay

/-! ## Failures that nobody isolates -/

/-- Whether a failure is no ordinary fault: a panic or a stop passes through everything that keeps
faults to themselves. -/
def Failure.Breaks (x : Failure) : Prop := ∀ f, x ≠ .fault f

@[simp] theorem Failure.not_breaks_fault (f : Fault) : ¬ (Failure.fault f).Breaks :=
  fun h => h f rfl

@[simp] theorem Failure.breaks_panic (text : Text) : (Failure.panic text).Breaks := nofun

@[simp] theorem Failure.breaks_stop (code : Value) : (Failure.stop code).Breaks := nofun

/-! ## What an effect shows -/

namespace World

def shown (w : World) : Effect → List Entry
  | .note e => [e]
  | .pause _ _ => []
  | .acquire slot timeout =>
    match w.sessions.current? slot with
    | some _ => []
    | none => [.sessionOpened (w.sessions.opened + 1) timeout]
  | .release slot =>
    match w.sessions.current? slot with
    | some session => [.sessionClosed session]
    | none => []
  | .post session url payload => [.post session url payload]
  | .queryMx domain => [.mxQuery domain]
  | .resolve domain => [.resolverCall domain]
  | .send submission => [.send submission]
  | .readClock => []

@[simp] theorem trace_see (w : World) (e : Entry) : (w.see e).trace = w.trace ++ [e] := rfl

theorem trace_foldl_see (es : List Entry) (w : World) :
    (es.foldl see w).trace = w.trace ++ es := by
  induction es generalizing w with
  | nil => simp
  | cons e es ih =>
    rw [List.foldl_cons, ih, trace_see, List.append_assoc]
    rfl

theorem trace_perform (w : World) (e : Effect) :
    (w.perform e).2.trace = w.trace ++ w.shown e := by
  cases e with
  | acquire slot timeout =>
    cases h : w.sessions.current? slot <;> simp [perform, shown, h, Sessions.openIn]
  | release slot =>
    cases h : w.sessions.current? slot <;> simp [perform, shown, h]
  | _ => simp [perform, shown]

end World

namespace Program

variable {α β : Type}

/-! ## How a run splits -/

theorem bind_eq (p : Program α) (f : α → Program β) : p >>= f = p.bind f := rfl

@[simp] theorem run_pure (a : α) (w : World) : (pure a : Program α).run w = (.ok a, w) := rfl

@[simp] theorem run_done (a : α) (w : World) : (done a).run w = (.ok a, w) := rfl

@[simp] theorem run_fail (f : Failure) (w : World) :
    (fail f : Program α).run w = (.error f, w) := rfl

theorem run_step (e : Effect) (next : e.Reply → Program α) (w : World) :
    (step e next).run w = (next (w.perform e).1).run (w.perform e).2 := rfl

@[simp] theorem run_effect (e : Effect) (w : World) :
    (effect e).run w = (.ok (w.perform e).1, (w.perform e).2) := rfl

@[simp] theorem run_note (e : Entry) (w : World) : (note e).run w = (.ok (), w.see e) := rfl

@[simp] theorem run_ofExcept (x : Except Failure α) (w : World) :
    (ofExcept x).run w = (x, w) := by
  cases x <;> rfl

/-- A program goes on with what the one before came to, unless that failed. -/
theorem run_bind (p : Program α) (f : α → Program β) (w : World) :
    (p >>= f).run w =
      match p.run w with
      | (.ok a, w) => (f a).run w
      | (.error x, w) => (.error x, w) := by
  rw [bind_eq]
  induction p generalizing w with
  | done a => rfl
  | fail x => rfl
  | step e next ih => exact ih (w.perform e).1 (w.perform e).2

theorem run_bind_ok {p : Program α} {w w' : World} {a : α} (h : p.run w = (.ok a, w'))
    (f : α → Program β) : (p >>= f).run w = (f a).run w' := by
  rw [run_bind, h]

theorem run_bind_error {p : Program α} {w w' : World} {x : Failure} (h : p.run w = (.error x, w'))
    (f : α → Program β) : (p >>= f).run w = (.error x, w') := by
  rw [run_bind, h]

/-- A program that came to a value has gone on with a value. -/
theorem exists_of_run_bind_eq_ok {p : Program α} {f : α → Program β} {w : World} {b : β}
    (h : ((p >>= f).run w).1 = .ok b) :
    ∃ a w', p.run w = (.ok a, w') ∧ ((f a).run w').1 = .ok b := by
  rw [run_bind] at h
  match hp : p.run w with
  | (.ok a, w') =>
    rw [hp] at h
    exact ⟨a, w', rfl, h⟩
  | (.error x, w') =>
    rw [hp] at h
    cases h

/-- What is made of the result of a program at its end has no effect. -/
theorem run_bind_pure (p : Program α) (g : α → β) (w : World) :
    (p >>= fun a => pure (g a)).run w = ((p.run w).1.map g, (p.run w).2) := by
  rw [run_bind]
  rcases p.run w with ⟨x | a, w'⟩ <;> rfl

/-- What trying makes of a result: an ordinary fault becomes a result itself. -/
def tried : Except Failure α → Except Failure (Except Fault α)
  | .ok a => .ok (.ok a)
  | .error (.fault f) => .ok (.error f)
  | .error (.panic text) => .error (.panic text)
  | .error (.stop code) => .error (.stop code)

theorem run_attempt (p : Program α) (w : World) :
    p.attempt.run w = (tried (p.run w).1, (p.run w).2) := by
  induction p generalizing w with
  | done a => rfl
  | fail x => cases x <;> rfl
  | step e next ih => exact ih (w.perform e).1 (w.perform e).2

theorem run_attempt_ok {p : Program α} {w w' : World} {a : α} (h : p.run w = (.ok a, w')) :
    p.attempt.run w = (.ok (.ok a), w') := by
  rw [run_attempt, h]
  rfl

theorem run_attempt_fault {p : Program α} {w w' : World} {f : Fault}
    (h : p.run w = (.error (.fault f), w')) : p.attempt.run w = (.ok (.error f), w') := by
  rw [run_attempt, h]
  rfl

/-- A panic or a stop passes through. -/
theorem run_attempt_error {p : Program α} {w w' : World} {x : Failure}
    (h : p.run w = (.error x, w')) (hx : ∀ f, x ≠ .fault f) :
    p.attempt.run w = (.error x, w') := by
  rw [run_attempt, h]
  cases x with
  | fault f => exact absurd rfl (hx f)
  | panic text => rfl
  | stop code => rfl

/-- Waiting for the outcome of a call takes time of no one in a run. -/
@[simp] theorem run_await (d : Delayed α) (w : World) : (await d).run w = (d.outcome, w) := by
  unfold await
  cases d.wait with
  | none => exact run_ofExcept d.outcome w
  | some length => exact run_ofExcept d.outcome w

/-! ## What a run shows -/

def seen : Program α → World → List Entry
  | done _, _ => []
  | fail _, _ => []
  | step e next, w => w.shown e ++ (next (w.perform e).1).seen (w.perform e).2

@[simp] theorem seen_pure (a : α) (w : World) : (pure a : Program α).seen w = [] := rfl

@[simp] theorem seen_done (a : α) (w : World) : (done a).seen w = [] := rfl

@[simp] theorem seen_fail (f : Failure) (w : World) : (fail f : Program α).seen w = [] := rfl

@[simp] theorem seen_effect (e : Effect) (w : World) : (effect e).seen w = w.shown e := by
  simp [effect, seen]

@[simp] theorem seen_note (e : Entry) (w : World) : (note e).seen w = [e] := rfl

@[simp] theorem seen_ofExcept (x : Except Failure α) (w : World) : (ofExcept x).seen w = [] := by
  cases x <;> rfl

/-- A run adds to what was seen and changes nothing of it. -/
theorem trace_run (p : Program α) (w : World) :
    (p.run w).2.trace = w.trace ++ p.seen w := by
  induction p generalizing w with
  | done a => simp
  | fail x => simp
  | step e next ih =>
    rw [run_step, ih, World.trace_perform, List.append_assoc]
    rfl

/-- What is seen of two programs is what is seen of the first and then, unless it failed, of the
second. -/
theorem seen_bind (p : Program α) (f : α → Program β) (w : World) :
    (p >>= f).seen w =
      match p.run w with
      | (.ok a, w') => p.seen w ++ (f a).seen w'
      | (.error _, _) => p.seen w := by
  rw [bind_eq]
  induction p generalizing w with
  | done a => rfl
  | fail x => rfl
  | step e next ih =>
    have h := ih (w.perform e).1 (w.perform e).2
    show w.shown e ++ ((next (w.perform e).1).bind f).seen (w.perform e).2 = _
    rw [h, run_step]
    -- The two sides differ only in where the entries of the first effect stand.
    split <;> simp [seen]

theorem seen_bind_ok {p : Program α} {w w' : World} {a : α} (h : p.run w = (.ok a, w'))
    (f : α → Program β) : (p >>= f).seen w = p.seen w ++ (f a).seen w' := by
  rw [seen_bind, h]

theorem seen_bind_error {p : Program α} {w w' : World} {x : Failure}
    (h : p.run w = (.error x, w')) (f : α → Program β) : (p >>= f).seen w = p.seen w := by
  rw [seen_bind, h]

theorem seen_bind_pure (p : Program α) (g : α → β) (w : World) :
    (p >>= fun a => pure (g a)).seen w = p.seen w := by
  rw [seen_bind]
  rcases p.run w with ⟨x | a, w'⟩
  · rfl
  · exact List.append_nil _

@[simp] theorem seen_attempt (p : Program α) (w : World) : p.attempt.seen w = p.seen w := by
  induction p generalizing w with
  | done a => rfl
  | fail x => cases x <;> rfl
  | step e next ih => exact congrArg (w.shown e ++ ·) (ih (w.perform e).1 (w.perform e).2)

@[simp] theorem seen_await (d : Delayed α) (w : World) : (await d).seen w = [] := by
  unfold await
  cases d.wait with
  | none => exact seen_ofExcept d.outcome w
  | some length => exact seen_ofExcept d.outcome w

end Program

end AlertRelay
