import AlertRelay.Proofs.Retry
import AlertRelay.Proofs.Schedule.Independence

/-!
# Programs in worlds that are alike

A program that depends on a part of the world alone is blind to all other differences
(`Program.Blind`): it runs the same in all worlds that are alike in that part, and leaves worlds
that are alike again. There is a rule for each way to build a program, and retries are blind if
every attempt is (`RetryPolicy.blind_runFrom`). What a program changes is said by `Program.Keeps`,
with the rules for waits and retries added here.
-/

namespace AlertRelay.Program

variable {α β : Type} {R : World → World → Prop} {p : Program α}

/-- Whether a program is blind to what two related worlds differ in: it comes to the same and shows
the same in both, and leaves related worlds. -/
def Blind (R : World → World → Prop) (p : Program α) : Prop :=
  ∀ w w', R w w' →
    (p.run w').1 = (p.run w).1 ∧ p.seen w' = p.seen w ∧ R (p.run w).2 (p.run w').2

theorem blind_pure (a : α) : (pure a : Program α).Blind R := fun _ _ hw => ⟨rfl, rfl, hw⟩

theorem blind_fail (x : Failure) : (fail x : Program α).Blind R :=
  fun _ _ hw => ⟨rfl, rfl, hw⟩

/-- Programs that come to the same in worlds that are alike do so one after another. -/
theorem Blind.bind {f : α → Program β} (h : p.Blind R) (hf : ∀ a, (f a).Blind R) :
    (p >>= f).Blind R := by
  intro w w' hw
  obtain ⟨hresult, hseen, hworld⟩ := h w w' hw
  -- The beginning ends alike in both worlds, so how it ends in one decides for both.
  match hp : p.run w with
  | (.ok a, w₁) =>
    have hp' : p.run w' = (.ok a, (p.run w').2) := Prod.ext (by rw [hresult, hp]) rfl
    rw [hp] at hworld
    obtain ⟨hresult', hseen', hworld'⟩ := hf a w₁ _ hworld
    refine ⟨?_, ?_, ?_⟩
    · rw [run_bind_ok hp, run_bind_ok hp', hresult']
    · rw [seen_bind_ok hp, seen_bind_ok hp', hseen, hseen']
    · rw [run_bind_ok hp, run_bind_ok hp']
      exact hworld'
  | (.error x, w₁) =>
    have hp' : p.run w' = (.error x, (p.run w').2) := Prod.ext (by rw [hresult, hp]) rfl
    rw [hp] at hworld
    refine ⟨?_, ?_, ?_⟩
    · rw [run_bind_error hp, run_bind_error hp']
    · rw [seen_bind_error hp, seen_bind_error hp', hseen]
    · rw [run_bind_error hp, run_bind_error hp']
      exact hworld

theorem Blind.attempt (h : p.Blind R) : p.attempt.Blind R := by
  intro w w' hw
  obtain ⟨hresult, hseen, hworld⟩ := h w w' hw
  rw [run_attempt, run_attempt, seen_attempt, seen_attempt, hresult]
  exact ⟨rfl, hseen, hworld⟩

theorem blind_note (hsee : ∀ w w' e, R w w' → R (w.see e) (w'.see e)) (e : Entry) :
    (note e).Blind R :=
  fun w w' hw => ⟨rfl, rfl, hsee w w' e hw⟩

theorem blind_pause (length : Seconds) : (pause length).Blind R :=
  fun _ _ hw => ⟨rfl, rfl, hw⟩

theorem blind_await (d : Delayed α) : (await d).Blind R := by
  intro w w' hw
  rw [run_await, run_await, seen_await, seen_await]
  exact ⟨rfl, rfl, hw⟩

/-- What follows from a part that a program keeps is kept too. -/
theorem keeps_of_keeps {σ τ : Type} {part : World → σ} (g : σ → τ) (h : p.Keeps part) :
    p.Keeps fun w => g (part w) := by
  induction p with
  | done a => trivial
  | fail x => trivial
  | step e next ih => exact fun w => ⟨congrArg g (h w).1, ih _ (h w).2⟩

theorem keeps_await {σ : Type} {part : World → σ} (d : Delayed α) : (await d).Keeps part := by
  have hend : (ofExcept d.outcome).Keeps part := by
    cases d.outcome <;> trivial
  unfold await
  cases d.wait with
  | none => exact hend
  | some length => exact fun w => ⟨rfl, hend⟩

end AlertRelay.Program

namespace AlertRelay.RetryPolicy

open Program

variable {α : Type} {p : RetryPolicy} {l : RetryLog} {operation : Nat → Program α}

/-- Retries run the same in worlds that are related if every attempt does. -/
theorem blind_runFrom {R : World → World → Prop}
    (hsee : ∀ w w' e, R w w' → R (w.see e) (w'.see e)) (hop : ∀ i, (operation i).Blind R)
    (left attempt : Nat) (errors : List Text) :
    (p.runFrom l operation left attempt errors).Blind R := by
  induction left generalizing attempt errors with
  | zero =>
    rw [runFrom.eq_def]
    refine (hop attempt).attempt.bind fun x => ?_
    cases x with
    | ok v => exact blind_pure _
    | error f =>
      refine (blind_note hsee _).bind fun _ => ?_
      exact (blind_note hsee _).bind fun _ => blind_pure _
  | succ left ih =>
    rw [runFrom.eq_def]
    refine (hop attempt).attempt.bind fun x => ?_
    cases x with
    | ok v => exact blind_pure _
    | error f =>
      refine (blind_note hsee _).bind fun _ => ?_
      refine (blind_note hsee _).bind fun _ => ?_
      exact ((blind_note hsee _).bind fun _ => blind_pause _).bind fun _ => ih _ _

/-- Retries keep what every attempt keeps. -/
theorem keeps_runFrom {σ : Type} {part : World → σ} (hsee : ∀ w e, part (w.see e) = part w)
    (hop : ∀ i, (operation i).Keeps part) (left attempt : Nat) (errors : List Text) :
    (p.runFrom l operation left attempt errors).Keeps part := by
  induction left generalizing attempt errors with
  | zero =>
    rw [runFrom.eq_def]
    refine keeps_bind (keeps_attempt (hop attempt)) fun x => ?_
    cases x with
    | ok v => trivial
    | error f =>
      refine keeps_bind (keeps_note hsee _) fun _ => ?_
      exact keeps_bind (keeps_note hsee _) fun _ => trivial
  | succ left ih =>
    rw [runFrom.eq_def]
    refine keeps_bind (keeps_attempt (hop attempt)) fun x => ?_
    cases x with
    | ok v => trivial
    | error f =>
      refine keeps_bind (keeps_note hsee _) fun _ => ?_
      refine keeps_bind (keeps_note hsee _) fun _ => ?_
      have hpause : ∀ length, (pause length).Keeps part := fun _ _ => ⟨rfl, trivial⟩
      exact keeps_bind (keeps_bind (keeps_note hsee _) fun _ => hpause _) fun _ => ih _ _

end AlertRelay.RetryPolicy
