import AlertRelay.Proofs.Retry

/-!
# Retries by script

An operation follows a script if its calls come to given results and show given entries, whatever
the world is that they meet. `RetryPolicy.run` calls such an operation until a call comes to
something else than a fault or no attempt is left. The faults before that call make up rounds, each
of a call, the log of its failure and the delay after it:

* `Scripted.run_of_faults` — the rounds of a run, whatever follows them;
* `run_follows_script` — what a run comes to and shows, by the first result that is no fault.
-/

namespace AlertRelay.RetryPolicy

variable {α : Type}

/-- An operation whose call number `i` comes to `results i` and shows `calls i` in every world. -/
structure Scripted (operation : Nat → Program α) (results : Nat → Except Failure α)
    (calls : Nat → List Entry) : Prop where
  result : ∀ i w, ((operation i).run w).1 = results i
  shows : ∀ i w, (operation i).seen w = calls i

/-- Whether the calls from number `first` on, up to number `k`, raise given faults. -/
def FaultsFrom (results : Nat → Except Failure α) (faults : Nat → Fault) (first k : Nat) : Prop :=
  ∀ i, first ≤ i → i < k → results i = .error (.fault (faults i))

/-- What is recorded for `m` faults from number `first` on: for each of them its text, or its kind
when there is no text. -/
def reasonsFrom (faults : Nat → Fault) (first m : Nat) : List Text :=
  (List.range' first m).map fun i =>
    if (faults i).text.isEmpty then (faults i).kind else (faults i).text

/-- What is seen of `m` failed attempts from number `first` on, each followed by another one: the
call, its failure, that it is tried again, and the delay. -/
def roundsFrom (p : RetryPolicy) (l : RetryLog) (calls : Nat → List Entry) (faults : Nat → Fault)
    (first m : Nat) : List Entry :=
  (List.range' first m).flatMap fun i => calls i ++ p.betweenAttempts l i (faults i)

variable {p : RetryPolicy} {l : RetryLog} {operation : Nat → Program α}
  {results : Nat → Except Failure α} {calls : Nat → List Entry} {faults : Nat → Fault}
  {w : World}

namespace Scripted

variable (h : Scripted operation results calls)

include h

theorem run_eq {i : Nat} {x : Except Failure α} (hx : results i = x) (w : World) :
    (operation i).run w = (x, ((operation i).run w).2) :=
  Prod.ext ((h.result i w).trans hx) rfl

/-! ## The rounds of a run -/

/-- Faults that other attempts follow lead to the attempt after them: the same run goes on there
with their reasons recorded, and before it the rounds are seen. -/
theorem runFrom_of_faults (m left first : Nat) (errors : List Text) (w : World)
    (hfaults : FaultsFrom results faults first (first + m)) :
    ∃ w', (p.runFrom l operation (m + left) first errors).run w =
        (p.runFrom l operation left (first + m) (errors ++ reasonsFrom faults first m)).run w' ∧
      (p.runFrom l operation (m + left) first errors).seen w =
        p.roundsFrom l calls faults first m ++
          (p.runFrom l operation left (first + m) (errors ++ reasonsFrom faults first m)).seen
            w' := by
  induction m generalizing first errors w with
  | zero =>
    refine ⟨w, ?_, ?_⟩
    · simp [reasonsFrom]
    · simp [reasonsFrom, roundsFrom]
  | succ m ih =>
    have hfirst : results first = .error (.fault (faults first)) :=
      hfaults first (Nat.le_refl first) (by omega)
    have hrest : FaultsFrom results faults (first + 1) (first + 1 + m) :=
      fun i hi him => hfaults i (by omega) (by omega)
    have hrun := h.run_eq hfirst w
    obtain ⟨w', hgoes, hshows⟩ := ih (first + 1) (errors ++ [(faults first).reason])
      (p.worldAfterFault l first (faults first) ((operation first).run w).2) hrest
    have hreasons : errors ++ reasonsFrom faults first (m + 1) =
        errors ++ [(faults first).reason] ++ reasonsFrom faults (first + 1) m := by
      simp [reasonsFrom, List.range'_succ, Fault.reason]
    have hrounds : p.roundsFrom l calls faults first (m + 1) =
        calls first ++ p.betweenAttempts l first (faults first) ++
          p.roundsFrom l calls faults (first + 1) m := by
      simp [roundsFrom, List.range'_succ]
    have hnumber : first + (m + 1) = first + 1 + m := by omega
    rw [hreasons, hnumber, hrounds, show m + 1 + left = m + left + 1 by omega]
    refine ⟨w', ?_, ?_⟩
    · rw [run_runFrom_again hrun, hgoes]
    · rw [seen_runFrom_again hrun, h.shows, hshows, List.append_assoc _ (roundsFrom ..)]

/-- The same of a run from its beginning: `m` faults, fewer than attempts are allowed. -/
theorem run_of_faults {m : Nat} (hm : m ≤ p.maxRetries) (w : World)
    (hfaults : FaultsFrom results faults 1 (m + 1)) :
    ∃ w', (p.run l operation).run w =
        (p.runFrom l operation (p.maxRetries - m) (m + 1) (reasonsFrom faults 1 m)).run w' ∧
      (p.run l operation).seen w = p.roundsFrom l calls faults 1 m ++
        (p.runFrom l operation (p.maxRetries - m) (m + 1) (reasonsFrom faults 1 m)).seen w' := by
  obtain ⟨w', hgoes, hshows⟩ := h.runFrom_of_faults (p := p) (l := l) m (p.maxRetries - m) 1 [] w
    (by rwa [Nat.add_comm 1 m])
  rw [Nat.add_sub_of_le hm, Nat.add_comm 1 m] at hgoes hshows
  exact ⟨w', hgoes, hshows⟩

end Scripted

/-! ## The end of a run -/

/-- **What retries come to**, for every policy, however the attempts appear in the log. If the first
call that raises no fault comes within the allowed attempts, it is the last one: a value is the
value of a success that records the earlier faults, in order, and a panic or a stop passes through.
Nothing is seen after that call, and before it the rounds of the failed attempts. If all allowed
attempts raise faults, the run is a failure that records all of them; the last one is logged, no
delay follows it, and that the retries are exhausted is logged at the very end. -/
theorem run_follows_script (p : RetryPolicy) (l : RetryLog)
    (h : Scripted operation results calls) (faults : Nat → Fault) (w : World) :
    (∀ m v, m < p.maxAttempts → FaultsFrom results faults 1 (m + 1) → results (m + 1) = .ok v →
      ((p.run l operation).run w).1 = .ok ⟨true, m + 1, reasonsFrom faults 1 m, some v⟩ ∧
      (p.run l operation).seen w = p.roundsFrom l calls faults 1 m ++ calls (m + 1)) ∧
    (∀ m x, m < p.maxAttempts → FaultsFrom results faults 1 (m + 1) →
      results (m + 1) = .error x → x.Breaks →
      ((p.run l operation).run w).1 = .error x ∧
      (p.run l operation).seen w = p.roundsFrom l calls faults 1 m ++ calls (m + 1)) ∧
    (FaultsFrom results faults 1 (p.maxAttempts + 1) →
      ((p.run l operation).run w).1 =
        .ok ⟨false, p.maxAttempts, reasonsFrom faults 1 p.maxAttempts, none⟩ ∧
      (p.run l operation).seen w =
        p.roundsFrom l calls faults 1 p.maxRetries ++ calls p.maxAttempts ++
          [l.failedEntry p p.maxAttempts (faults p.maxAttempts), l.exhaustedEntry p]) := by
  refine ⟨fun m v hm hfaults hv => ?_, fun m x hm hfaults hx hbreaks => ?_, fun hfaults => ?_⟩
  · obtain ⟨w', hgoes, hshows⟩ :=
      h.run_of_faults (p := p) (l := l) (Nat.le_of_lt_succ hm) w hfaults
    have hrun := h.run_eq hv w'
    rw [hgoes, hshows, run_runFrom_ok hrun, seen_runFrom_ok hrun, h.shows]
    exact ⟨rfl, rfl⟩
  · obtain ⟨w', hgoes, hshows⟩ :=
      h.run_of_faults (p := p) (l := l) (Nat.le_of_lt_succ hm) w hfaults
    have hrun := h.run_eq hx w'
    rw [hgoes, hshows, run_runFrom_broken hrun hbreaks, seen_runFrom_broken hrun hbreaks, h.shows]
    exact ⟨rfl, rfl⟩
  · have hearlier : FaultsFrom results faults 1 (p.maxRetries + 1) :=
      fun i hi him => hfaults i hi (Nat.lt_succ_of_lt him)
    have hlast : results p.maxAttempts = .error (.fault (faults p.maxAttempts)) :=
      hfaults _ (Nat.succ_pos _) (Nat.lt_succ_self _)
    obtain ⟨w', hgoes, hshows⟩ :=
      h.run_of_faults (p := p) (l := l) (Nat.le_refl p.maxRetries) w hearlier
    have hrun := h.run_eq hlast w'
    have hreasons : reasonsFrom faults 1 p.maxAttempts =
        reasonsFrom faults 1 p.maxRetries ++ [(faults p.maxAttempts).reason] := by
      simp [reasonsFrom, maxAttempts, List.range'_concat, Nat.add_comm, Fault.reason]
    rw [Nat.sub_self, ← maxAttempts] at hgoes hshows
    rw [hgoes, hshows, run_runFrom_last hrun, seen_runFrom_last hrun, h.shows, hreasons,
      List.append_assoc]
    exact ⟨rfl, rfl⟩

/-! ### An operation that notes its calls -/

/-- Notes the number of each call and comes to the results of a script. -/
def noted (results : Nat → Except Failure α) (i : Nat) : Program α := do
  Program.note (.attempt i)
  Program.ofExcept (results i)

theorem scripted_noted (results : Nat → Except Failure α) :
    Scripted (noted results) results fun i => [.attempt i] where
  result i w := by
    rw [noted, Program.run_bind_ok (Program.run_note _ w), Program.run_ofExcept]
  shows i w := by
    rw [noted, Program.seen_bind_ok (Program.run_note _ w), Program.seen_note,
      Program.seen_ofExcept, List.append_nil]

/-- A fault without a text, one with a text, and then a value: two retries are enough, and one is
not. A panic in the place of the value passes through. -/
theorem run_follows_script_after_two_faults :
    let faults (i : Nat) : Fault :=
      if i = 1 then ⟨"TimeoutError", ""⟩ else ⟨"OSError", "no route"⟩
    let results (third : Except Failure Nat) (i : Nat) : Except Failure Nat :=
      if i < 3 then .error (.fault (faults i)) else third
    let run (retries : Nat) (third : Except Failure Nat) :=
      (({ maxRetries := retries : RetryPolicy }).run {} (noted (results third))).run {}
    (∀ third, FaultsFrom (results third) faults 1 3 ∧
      Scripted (noted (results third)) (results third) fun i => [.attempt i]) ∧
    (run 2 (.ok 7)).1 = .ok ⟨true, 3, ["TimeoutError", "no route"], some 7⟩ ∧
    (run 2 (.error (.panic "down"))).1 = .error (.panic "down") ∧
    (run 1 (.ok 7)).1 = .ok ⟨false, 2, ["TimeoutError", "no route"], none⟩ := by
  intro faults results run
  have hfaults : ∀ third, FaultsFrom (results third) faults 1 3 :=
    fun third i _ hi => if_pos hi
  refine ⟨fun third => ⟨hfaults third, scripted_noted _⟩, ?_, ?_, ?_⟩
  · have hvalue := (run_follows_script { maxRetries := 2 } {} (scripted_noted (results (.ok 7)))
      faults {}).1 2 7 (by decide) (hfaults _) rfl
    exact hvalue.1
  · have hpanic := (run_follows_script { maxRetries := 2 } {}
      (scripted_noted (results (.error (.panic "down")))) faults {}).2.1 2
      (.panic "down") (by decide) (hfaults _) rfl (Failure.breaks_panic _)
    exact hpanic.1
  · have hexhausted := (run_follows_script { maxRetries := 1 } {}
      (scripted_noted (results (.ok 7))) faults {}).2.2 (hfaults _)
    exact hexhausted.1

end AlertRelay.RetryPolicy
