import AlertRelay.Retry
import AlertRelay.Proofs.Run

/-!
# Retries, one attempt at a time

One attempt settles how a run of `RetryPolicy.runFrom` goes on: its value ends the run, a panic or a
stop passes through, and a fault is logged and followed by the next attempt as long as one is left.
The first lemmas say this of the result, of the world that is left and of what is seen.

`RetryPolicy.attempts` lists the attempts of a whole run. Facts about runs are facts about this
list:

* `succ_lt_length_attempts_iff` — an attempt is followed by another exactly if it ended in a fault
  and one is left;
* `filterMap_seen_runFrom` — apart from the log and the delays, a run shows what its attempts show;
* `around_attempts` — what every attempt moves on by one is met by each attempt as the earlier ones
  left it;
* `eq_of_runFrom_eq_ok` — a run that returns tells how many attempts there were, what failed, and
  the value.
-/

namespace AlertRelay

/-! ## Entries of the log -/

namespace RetryLog

def failedEntry (l : RetryLog) (p : RetryPolicy) (attempt : Nat) (f : Fault) : Entry :=
  .log ⟨.error, l.logger, l.event ++ "_failed",
    [("attempt", .int attempt), ("max_attempts", .int p.maxAttempts),
      ("error", .text (if f.text.isEmpty then f.kind else f.text)),
      ("error_type", .text f.kind)] ++ l.context, none⟩

def retryingEntry (l : RetryLog) (delay : Seconds) : Entry :=
  .log ⟨.info, l.logger, l.event ++ "_retrying", ("delay_secs", delay.toValue) :: l.context, none⟩

def exhaustedEntry (l : RetryLog) (p : RetryPolicy) : Entry :=
  .log ⟨.error, l.logger, l.event ++ "_retries_exhausted",
    ("attempts", .int p.maxAttempts) :: l.context, none⟩

end RetryLog

namespace RetryPolicy

variable {α : Type} {p : RetryPolicy} {l : RetryLog} {operation : Nat → Program α}
  {attempt : Nat} {w w' : World}

/-- The entries between a failed attempt and the next one. -/
def betweenAttempts (p : RetryPolicy) (l : RetryLog) (attempt : Nat) (f : Fault) : List Entry :=
  [l.failedEntry p attempt f, l.retryingEntry (p.delayAfter attempt),
    .sleep (p.delayAfter attempt)]

def worldAfterFault (p : RetryPolicy) (l : RetryLog) (attempt : Nat) (f : Fault) (w : World) :
    World :=
  (p.betweenAttempts l attempt f).foldl World.see w

/-! ## An attempt with a value -/

/-- An attempt that succeeds is the last. -/
theorem run_runFrom_ok {v : α} (h : (operation attempt).run w = (.ok v, w')) (left : Nat)
    (errors : List Text) :
    (p.runFrom l operation left attempt errors).run w =
      (.ok ⟨true, attempt, errors, some v⟩, w') := by
  rw [runFrom.eq_def, Program.run_bind_ok (Program.run_attempt_ok h)]
  rfl

theorem seen_runFrom_ok {v : α} (h : (operation attempt).run w = (.ok v, w')) (left : Nat)
    (errors : List Text) :
    (p.runFrom l operation left attempt errors).seen w = (operation attempt).seen w := by
  rw [runFrom.eq_def, Program.seen_bind_ok (Program.run_attempt_ok h), Program.seen_attempt]
  exact List.append_nil _

/-! ## The last attempt with a fault -/

/-- After the last attempt its failure is recorded, and it is logged that none is left. -/
theorem run_runFrom_last {f : Fault} (h : (operation attempt).run w = (.error (.fault f), w'))
    (errors : List Text) :
    (p.runFrom l operation 0 attempt errors).run w =
      (.ok ⟨false, attempt, errors ++ [f.reason], none⟩,
        (w'.see (l.failedEntry p attempt f)).see (l.exhaustedEntry p)) := by
  rw [runFrom.eq_def, Program.run_bind_ok (Program.run_attempt_fault h)]
  rfl

theorem seen_runFrom_last {f : Fault} (h : (operation attempt).run w = (.error (.fault f), w'))
    (errors : List Text) :
    (p.runFrom l operation 0 attempt errors).seen w =
      (operation attempt).seen w ++ [l.failedEntry p attempt f, l.exhaustedEntry p] := by
  rw [runFrom.eq_def, Program.seen_bind_ok (Program.run_attempt_fault h), Program.seen_attempt]
  rfl

/-! ## An attempt with a fault, and others left -/

/-- An attempt that fails while others are left is logged, and after a delay the next one follows.
-/
theorem run_runFrom_again {f : Fault} (h : (operation attempt).run w = (.error (.fault f), w'))
    (left : Nat) (errors : List Text) :
    (p.runFrom l operation (left + 1) attempt errors).run w =
      (p.runFrom l operation left (attempt + 1) (errors ++ [f.reason])).run
        (p.worldAfterFault l attempt f w') := by
  rw [runFrom.eq_def, Program.run_bind_ok (Program.run_attempt_fault h)]
  rfl

theorem seen_runFrom_again {f : Fault} (h : (operation attempt).run w = (.error (.fault f), w'))
    (left : Nat) (errors : List Text) :
    (p.runFrom l operation (left + 1) attempt errors).seen w =
      (operation attempt).seen w ++ p.betweenAttempts l attempt f ++
        (p.runFrom l operation left (attempt + 1) (errors ++ [f.reason])).seen
          (p.worldAfterFault l attempt f w') := by
  rw [runFrom.eq_def, Program.seen_bind_ok (Program.run_attempt_fault h), Program.seen_attempt,
    List.append_assoc]
  rfl

/-! ## An attempt that ends in a panic or a stop -/

/-- A panic or a stop is not tried again. -/
theorem run_runFrom_broken {x : Failure} (h : (operation attempt).run w = (.error x, w'))
    (hx : ∀ f, x ≠ .fault f) (left : Nat) (errors : List Text) :
    (p.runFrom l operation left attempt errors).run w = (.error x, w') := by
  rw [runFrom.eq_def, Program.run_bind_error (Program.run_attempt_error h hx)]

theorem seen_runFrom_broken {x : Failure} (h : (operation attempt).run w = (.error x, w'))
    (hx : ∀ f, x ≠ .fault f) (left : Nat) (errors : List Text) :
    (p.runFrom l operation left attempt errors).seen w = (operation attempt).seen w := by
  rw [runFrom.eq_def, Program.seen_bind_error (Program.run_attempt_error h hx),
    Program.seen_attempt]

/-! ## The attempts of a run -/

/-- An attempt in a run: the world in which it began, how it ended and what it showed. -/
structure Attempt (α : Type) where
  world : World
  result : Except Failure α
  shown : List Entry

/-- The attempts of a run from number `attempt` on, of which `left` may follow it. -/
def attempts (p : RetryPolicy) (l : RetryLog) (operation : Nat → Program α) :
    (left attempt : Nat) → World → List (Attempt α)
  | 0, attempt, w => [⟨w, ((operation attempt).run w).1, (operation attempt).seen w⟩]
  | left + 1, attempt, w =>
    ⟨w, ((operation attempt).run w).1, (operation attempt).seen w⟩ ::
      match (operation attempt).run w with
      | (.error (.fault f), w') =>
        p.attempts l operation left (attempt + 1) (p.worldAfterFault l attempt f w')
      | _ => []

theorem attempts_ok {v : α} (h : (operation attempt).run w = (.ok v, w')) (left : Nat) :
    p.attempts l operation left attempt w = [⟨w, .ok v, (operation attempt).seen w⟩] := by
  cases left <;> simp only [attempts, h]

theorem attempts_last {f : Fault} (h : (operation attempt).run w = (.error (.fault f), w')) :
    p.attempts l operation 0 attempt w =
      [⟨w, .error (.fault f), (operation attempt).seen w⟩] := by
  simp only [attempts, h]

theorem attempts_again {f : Fault} (h : (operation attempt).run w = (.error (.fault f), w'))
    (left : Nat) :
    p.attempts l operation (left + 1) attempt w =
      ⟨w, .error (.fault f), (operation attempt).seen w⟩ ::
        p.attempts l operation left (attempt + 1) (p.worldAfterFault l attempt f w') := by
  simp only [attempts, h]

theorem attempts_broken {x : Failure} (h : (operation attempt).run w = (.error x, w'))
    (hx : ∀ f, x ≠ .fault f) (left : Nat) :
    p.attempts l operation left attempt w = [⟨w, .error x, (operation attempt).seen w⟩] := by
  cases x with
  | fault f => exact absurd rfl (hx f)
  | panic text => cases left <;> simp only [attempts, h]
  | stop code => cases left <;> simp only [attempts, h]

/-- A run of one attempt has no attempt but the first. -/
theorem eq_of_getElem?_singleton {a b : Attempt α} {i : Nat} (h : [a][i]? = some b) :
    i = 0 ∧ a = b := by
  cases i with
  | zero => exact ⟨rfl, Option.some.inj h⟩
  | succ i => simp at h

variable (p l operation) in
/-- Induction along the attempts of a run: an attempt comes to a value, it is the last one and ends
in a fault, it ends in a fault and another one follows, or it breaks the run. -/
theorem attempts_induction {motive : Nat → Nat → World → Prop}
    (ok : ∀ left attempt w v w', (operation attempt).run w = (.ok v, w') → motive left attempt w)
    (last : ∀ attempt w f w', (operation attempt).run w = (.error (.fault f), w') →
      motive 0 attempt w)
    (again : ∀ left attempt w f w', (operation attempt).run w = (.error (.fault f), w') →
      motive left (attempt + 1) (p.worldAfterFault l attempt f w') →
      motive (left + 1) attempt w)
    (broken : ∀ left attempt w x w', (operation attempt).run w = (.error x, w') →
      (∀ f, x ≠ .fault f) → motive left attempt w)
    (left attempt : Nat) (w : World) : motive left attempt w := by
  induction left generalizing attempt w with
  | zero =>
    match h : (operation attempt).run w with
    | (.ok v, w') => exact ok 0 attempt w v w' h
    | (.error (.fault f), w') => exact last attempt w f w' h
    | (.error (.panic text), w') => exact broken 0 attempt w _ w' h (by simp)
    | (.error (.stop code), w') => exact broken 0 attempt w _ w' h (by simp)
  | succ left ih =>
    match h : (operation attempt).run w with
    | (.ok v, w') => exact ok (left + 1) attempt w v w' h
    | (.error (.fault f), w') => exact again left attempt w f w' h (ih _ _)
    | (.error (.panic text), w') => exact broken (left + 1) attempt w _ w' h (by simp)
    | (.error (.stop code), w') => exact broken (left + 1) attempt w _ w' h (by simp)

/-- An attempt is a run of the operation in the world in which it began. -/
theorem exists_of_mem_attempts {left attempt : Nat} {w : World} {a : Attempt α}
    (ha : a ∈ p.attempts l operation left attempt w) :
    ∃ i, a.result = ((operation i).run a.world).1 ∧ a.shown = (operation i).seen a.world := by
  induction left generalizing attempt w with
  | zero =>
    obtain rfl := List.mem_singleton.mp ha
    exact ⟨attempt, rfl, rfl⟩
  | succ left ih =>
    rw [attempts] at ha
    rcases List.mem_cons.mp ha with rfl | ha
    · exact ⟨attempt, rfl, rfl⟩
    · split at ha
      · exact ih ha
      · cases ha

theorem length_attempts_pos (left attempt : Nat) (w : World) :
    0 < (p.attempts l operation left attempt w).length := by
  cases left <;> simp [attempts]

theorem length_attempts_le (left attempt : Nat) (w : World) :
    (p.attempts l operation left attempt w).length ≤ left + 1 := by
  induction left, attempt, w using attempts_induction p l operation with
  | ok left attempt w v w' h => simp [attempts_ok h]
  | last attempt w f w' h => simp [attempts_last h]
  | again left attempt w f w' h ih =>
    rw [attempts_again h, List.length_cons]
    exact Nat.succ_le_succ ih
  | broken left attempt w x w' h hx => simp [attempts_broken h hx]

/-- An attempt is followed by another exactly if it ended in a fault and one is left. -/
theorem succ_lt_length_attempts_iff (left attempt : Nat) (w : World) (i : Nat)
    (a : Attempt α) (ha : (p.attempts l operation left attempt w)[i]? = some a) :
    i + 1 < (p.attempts l operation left attempt w).length ↔
      i < left ∧ ∃ f, a.result = .error (.fault f) := by
  induction left, attempt, w using attempts_induction p l operation
    generalizing i with
  | ok left attempt w v w' h =>
    rw [attempts_ok h] at ha ⊢
    obtain ⟨rfl, rfl⟩ := eq_of_getElem?_singleton ha
    simp
  | last attempt w f w' h =>
    rw [attempts_last h]
    simp
  | again left attempt w f w' h ih =>
    rw [attempts_again h] at ha ⊢
    cases i with
    | zero =>
      obtain rfl := Option.some.inj ha
      simpa using length_attempts_pos left (attempt + 1) _
    | succ i =>
      rw [List.length_cons, Nat.succ_lt_succ_iff, Nat.succ_lt_succ_iff]
      exact ih i ha
  | broken left attempt w x w' h hx =>
    rw [attempts_broken h hx] at ha ⊢
    obtain ⟨rfl, rfl⟩ := eq_of_getElem?_singleton ha
    simpa using fun _ => hx

/-- Apart from the log and the delays, a run shows what its attempts show. -/
theorem filterMap_seen_runFrom {β : Type} {g : Entry → Option β} (hlog : ∀ c, g (.log c) = none)
    (hsleep : ∀ s, g (.sleep s) = none) (left attempt : Nat) (w : World) (errors : List Text) :
    ((p.runFrom l operation left attempt errors).seen w).filterMap g =
      (p.attempts l operation left attempt w).flatMap (·.shown.filterMap g) := by
  induction left, attempt, w using attempts_induction p l operation
    generalizing errors with
  | ok left attempt w v w' h => simp [attempts_ok h, seen_runFrom_ok h]
  | last attempt w f w' h =>
    simp [attempts_last h, seen_runFrom_last h, RetryLog.failedEntry, RetryLog.exhaustedEntry, hlog]
  | again left attempt w f w' h ih =>
    simp [attempts_again h, seen_runFrom_again h, betweenAttempts, RetryLog.failedEntry,
      RetryLog.retryingEntry, hlog, hsleep, ih]
  | broken left attempt w x w' h hx => simp [attempts_broken h hx, seen_runFrom_broken h hx]

def Attempt.value? (a : Attempt α) : Option α :=
  match a.result with
  | .ok v => some v
  | .error _ => none

/-- What is recorded for a failed attempt: the text of its fault, or the kind when there is no
text. -/
def Attempt.failure? (a : Attempt α) : Option Text :=
  match a.result with
  | .error (.fault f) => some (if f.text.isEmpty then f.kind else f.text)
  | _ => none

/-- What is recorded for the attempts that failed, in order. -/
def failures (as : List (Attempt α)) : List Text := as.filterMap Attempt.failure?

def valueOf (as : List (Attempt α)) : Option α := as.findSome? Attempt.value?

/-- Attempts come to a value if one of them does. -/
theorem valueOf_isSome_iff {as : List (Attempt α)} :
    (valueOf as).isSome = true ↔ ∃ a ∈ as, ∃ v, a.result = .ok v := by
  rw [valueOf, List.findSome?_isSome_iff]
  constructor
  · rintro ⟨a, ha, hv⟩
    refine ⟨a, ha, ?_⟩
    cases hresult : a.result with
    | ok v => exact ⟨v, rfl⟩
    | error x => simp [Attempt.value?, hresult] at hv
  · rintro ⟨a, ha, v, hv⟩
    exact ⟨a, ha, by simp [Attempt.value?, hv]⟩

/-- What a run of attempts that returns tells of them. -/
def summary (attempt : Nat) (errors : List Text) (as : List (Attempt α)) : Retried α :=
  ⟨(valueOf as).isSome, attempt + (as.length - 1), errors ++ failures as, valueOf as⟩

theorem summary_ok (attempt : Nat) (errors : List Text) (w : World) (v : α)
    (shown : List Entry) :
    summary attempt errors [⟨w, .ok v, shown⟩] = ⟨true, attempt, errors, some v⟩ := by
  simp [summary, valueOf, failures, Attempt.value?, Attempt.failure?]

theorem summary_fault (attempt : Nat) (errors : List Text) (w : World) (f : Fault)
    (shown : List Entry) :
    summary attempt errors [(⟨w, .error (.fault f), shown⟩ : Attempt α)] =
      ⟨false, attempt, errors ++ [f.reason], none⟩ := rfl

/-- A fault counts as one more attempt before the others. -/
theorem summary_cons_fault (attempt : Nat) (errors : List Text) (w : World) (f : Fault)
    (shown : List Entry) {as : List (Attempt α)} (has : 0 < as.length) :
    summary attempt errors (⟨w, .error (.fault f), shown⟩ :: as) =
      summary (attempt + 1) (errors ++ [f.reason]) as := by
  have hattempts : attempt + as.length = attempt + 1 + (as.length - 1) := by omega
  have hvalue : valueOf (⟨w, .error (.fault f), shown⟩ :: as) = valueOf as := rfl
  simp [summary, hvalue, failures, Attempt.failure?, Fault.reason, hattempts]

theorem eq_of_runFrom_eq_ok {r : Retried α} (left attempt : Nat) (w : World) (errors : List Text)
    (h : ((p.runFrom l operation left attempt errors).run w).1 = .ok r) :
    r = summary attempt errors (p.attempts l operation left attempt w) := by
  induction left, attempt, w using attempts_induction p l operation
    generalizing errors with
  | ok left attempt w v w' hv =>
    rw [run_runFrom_ok hv] at h
    rw [attempts_ok hv, summary_ok]
    exact (Except.ok.inj h).symm
  | last attempt w f w' hf =>
    rw [run_runFrom_last hf] at h
    rw [attempts_last hf, summary_fault]
    exact (Except.ok.inj h).symm
  | again left attempt w f w' hf ih =>
    rw [run_runFrom_again hf] at h
    rw [attempts_again hf, summary_cons_fault _ _ _ _ _ (length_attempts_pos _ _ _)]
    exact ih _ h
  | broken left attempt w x w' hx hbreaks =>
    rw [run_runFrom_broken hx hbreaks] at h
    cases h

/-- Only the last attempt can come to a value, for every other one is followed by an attempt. -/
theorem valueOf_attempts (left attempt : Nat) (w : World) :
    valueOf (p.attempts l operation left attempt w) =
      (p.attempts l operation left attempt w).getLast?.bind Attempt.value? := by
  induction left, attempt, w using attempts_induction p l operation with
  | ok left attempt w v w' h =>
    rw [attempts_ok h]
    rfl
  | last attempt w f w' h =>
    rw [attempts_last h]
    rfl
  | again left attempt w f w' h ih =>
    have hpos : 0 < (p.attempts l operation left (attempt + 1)
        (p.worldAfterFault l attempt f w')).length := length_attempts_pos _ _ _
    obtain ⟨a, as, hmore⟩ := List.exists_cons_of_length_pos hpos
    rw [attempts_again h, hmore, List.getLast?_cons_cons, ← hmore, ← ih]
    rfl
  | broken left attempt w x w' h hx =>
    rw [attempts_broken h hx]
    rfl

/-- A run that returns tells how many attempts there were, what failed, and the value. -/
theorem eq_of_run_eq_ok {r : Retried α} (h : ((p.run l operation).run w).1 = .ok r) :
    r = summary 1 [] (p.attempts l operation p.maxRetries 1 w) :=
  eq_of_runFrom_eq_ok p.maxRetries 1 w [] h

/-- The number that a run tells is that of its attempts. -/
theorem attempts_summary (left : Nat) (w : World) :
    (summary 1 [] (p.attempts l operation left 1 w)).attempts =
      (p.attempts l operation left 1 w).length := by
  have hpos : 0 < (p.attempts l operation left 1 w).length := length_attempts_pos _ _ _
  show 1 + ((p.attempts l operation left 1 w).length - 1) = _
  omega

/-- A run that returns counts its attempts. -/
theorem attempts_of_run_eq_ok {r : Retried α} (h : ((p.run l operation).run w).1 = .ok r) :
    r.attempts = (p.attempts l operation p.maxRetries 1 w).length := by
  rw [eq_of_run_eq_ok h, attempts_summary]

end RetryPolicy

end AlertRelay
