import AlertRelay.Dispatch
import AlertRelay.Retry
import AlertRelay.Proofs.Dispatch.Rounds
import AlertRelay.Proofs.Schedule.Failures

/-!
# What programs keep up

A program keeps up an invariant of the world if the invariant holds whenever the program lets others
go on, which it does while it waits, and at its end (`Program.Upholds`). Between two waits the
invariant may be broken, for nobody else has an effect then. So what each of several programs keeps
up holds after a run of them all, whether they run one after another or side by side:

* `respects_bind`, `respects_attempt`, `respects_runFrom` — what the parts of a program keep
  up the whole does;
* `Dispatcher.upheld_runAll`, `Dispatcher.upheld_deliver` — what the deliveries of handlers keep up
  holds after the delivery of an alert through them, in either way.
-/

namespace AlertRelay

variable {α β : Type} {I : World → Prop}

namespace Program

/-! ## Invariants -/

/-- From a world on, an invariant holds whenever a program waits and at its end, provided that the
others keep it up while the program waits. If it is cancelled it leaves the invariant as well. -/
def Upholds (I : World → Prop) : Program α → World → Prop
  | done _, w => I w
  | fail _, w => I w
  | step (.pause _ onCancel) next, w =>
    I w ∧ (∀ w, I w → I (onCancel.foldl World.see w)) ∧ ∀ w, I w → (next ()).Upholds I w
  | step e next, w => (next (w.perform e).1).Upholds I (w.perform e).2

/-- A program keeps up an invariant wherever it begins. -/
def Respects (I : World → Prop) (p : Program α) : Prop := ∀ w, I w → p.Upholds I w

variable {p : Program α} {w : World}

/-- What a program keeps up holds after its run. -/
theorem Upholds.run (h : p.Upholds I w) : I (p.run w).2 := by
  induction p generalizing w with
  | done a => exact h
  | fail f => exact h
  | step e next ih =>
    cases e with
    | pause => exact ih () (h.2.2 w h.1)
    | _ => exact ih _ h

/-! ### Continuations and tries -/

theorem Upholds.bind {f : α → Program β} (h : p.Upholds I w) (hf : ∀ a, (f a).Respects I) :
    (p >>= f).Upholds I w := by
  rw [bind_eq]
  induction p generalizing w with
  | done a => exact hf a w h
  | fail x => exact h
  | step e next ih =>
    cases e with
    | pause => exact ⟨h.1, h.2.1, fun w hw => ih () (h.2.2 w hw)⟩
    | _ => exact ih _ h

theorem Upholds.attempt (h : p.Upholds I w) : p.attempt.Upholds I w := by
  induction p generalizing w with
  | done a => exact h
  | fail x => cases x <;> exact h
  | step e next ih =>
    cases e with
    | pause => exact ⟨h.1, h.2.1, fun w hw => ih () (h.2.2 w hw)⟩
    | _ => exact ih _ h

theorem respects_pure (a : α) : (pure a : Program α).Respects I := fun _ hw => hw

theorem respects_fail (f : Failure) : (fail f : Program α).Respects I := fun _ hw => hw

theorem respects_ofExcept (x : Except Failure α) : (ofExcept x).Respects I := by
  cases x with
  | ok a => exact respects_pure a
  | error f => exact respects_fail f

/-- What programs keep up they keep up one after another. -/
theorem respects_bind {f : α → Program β} (h : p.Respects I) (hf : ∀ a, (f a).Respects I) :
    (p >>= f).Respects I :=
  fun w hw => (h w hw).bind hf

theorem respects_attempt (h : p.Respects I) : p.attempt.Respects I := fun w hw => (h w hw).attempt

/-! ### Effects -/

theorem respects_note {e : Entry} (h : ∀ w, I w → I (w.see e)) : (note e).Respects I := h

/-- A wait that shows nothing when it is cancelled keeps up every invariant. -/
theorem respects_pause (length : Seconds) : (pause length).Respects I :=
  fun _ hw => ⟨hw, fun _ hw => hw, fun _ hw => hw⟩

theorem respects_await (d : Delayed α) : (await d).Respects I := by
  unfold await
  cases d.wait with
  | none => exact respects_ofExcept d.outcome
  | some length => exact respects_bind (respects_pause length) fun _ => respects_ofExcept d.outcome

/-! ### Turns -/

def Progress.Respects (I : World → Prop) : Progress α → Prop
  | .ended _ => True
  | .waiting _ onCancel p => (∀ w, I w → I (onCancel.foldl World.see w)) ∧ p.Respects I

theorem Upholds.advance (h : p.Upholds I w) :
    I (p.advance w).2 ∧ (p.advance w).1.Respects I := by
  induction p generalizing w with
  | done a => exact ⟨h, trivial⟩
  | fail f => exact ⟨h, trivial⟩
  | step e next ih =>
    -- Only a pause ends the turn.
    cases e with
    | pause => exact h
    | _ => exact ih _ h

/-! ### Retries -/

/-- What an operation and the reports of its attempts keep up its retries do. -/
theorem respects_runFrom {policy : RetryPolicy} {l : RetryLog} {operation : Nat → Program α}
    (hop : ∀ i, (operation i).Respects I)
    (hlog : ∀ w call, call.logger = l.logger → I w → I (w.see (.log call)))
    (hsleep : ∀ w length, I w → I (w.see (.sleep length))) (left attempt : Nat)
    (errors : List Text) : (policy.runFrom l operation left attempt errors).Respects I := by
  have hentry {severity : Severity} {event : Text} {fields : List (String × Value)} :
      (log severity l.logger event fields).Respects I := respects_note fun w => hlog w _ rfl
  induction left generalizing attempt errors with
  | zero =>
    rw [RetryPolicy.runFrom.eq_def]
    refine respects_bind (respects_attempt (hop attempt)) fun x => ?_
    cases x with
    | ok v => exact respects_pure _
    | error f =>
      exact respects_bind hentry fun _ => respects_bind hentry fun _ => respects_pure _
  | succ left ih =>
    rw [RetryPolicy.runFrom.eq_def]
    refine respects_bind (respects_attempt (hop attempt)) fun x => ?_
    cases x with
    | ok v => exact respects_pure _
    | error f =>
      refine respects_bind hentry fun _ => respects_bind hentry fun _ => ?_
      refine respects_bind (respects_bind (respects_note fun w => hsleep w _) fun _ =>
        respects_pause _) fun _ => ih _ _

/-! ## Programs one after another -/

theorem respects_inTurn {ps : List (Program α)} (h : ∀ p ∈ ps, p.Respects I) :
    (inTurn ps).Respects I := by
  induction ps with
  | nil => exact respects_pure []
  | cons p ps ih =>
    have hrest := ih fun q hq => h q (List.mem_cons_of_mem p hq)
    exact respects_bind (h p List.mem_cons_self) fun _ => respects_bind hrest fun _ =>
      respects_pure _

end Program

/-! ## Programs side by side -/

def Stand.Respects (I : World → Prop) : Stand α → Prop
  | .unstarted p => p.Respects I
  | .task (.waiting _ _ onCancel p) => (∀ w, I w → I (onCancel.foldl World.see w)) ∧ p.Respects I
  | _ => True

theorem Stand.respects_ofProgress {progress : Program.Progress α} (h : progress.Respects I)
    (now : Moment) (number : Nat) : (Stand.task (.ofProgress now number progress)).Respects I := by
  rcases progress with (f | a) | _
  · trivial
  · trivial
  · exact h

namespace Schedule

open Pool

/-- An invariant holds, and the programs of a schedule keep it up. -/
structure Upheld (I : World → Prop) (s : Schedule α) : Prop where
  holds : I s.pool.world
  respects : ∀ (i : Nat) (stand : Stand α), s.stands[i]? = some stand → stand.Respects I

namespace Upheld

variable {s s' : Schedule α} {es : List TaskEvent} {i : Nat} {now : Moment} {p : Program α}

/-- The turn of the program that has it next keeps up the invariant. -/
theorem advance (h : s.Upheld I) (hnext : s.Next i now p es) :
    I (p.advance s.pool.world).2 ∧ (p.advance s.pool.world).1.Respects I := by
  refine Program.Upholds.advance ?_
  rcases hnext.stand with ⟨hi, -⟩ | ⟨_, _, -, -, hi, -⟩
  · exact h.respects i _ hi _ h.holds
  · exact (h.respects i _ hi).2 _ h.holds

theorem turn (h : s.Upheld I) (turn : s.Turn es s') : s'.Upheld I := by
  cases turn with
  | @run i now p _ hnext _ =>
    obtain ⟨hholds, hrest⟩ := h.advance hnext
    refine ⟨?_, forall_stands_set (P := fun _ stand => stand.Respects I)
      (hnext.stands_put _ _) ?_ ?_⟩
    · rw [put_world]
      exact hholds
    · exact Stand.respects_ofProgress hrest _ _
    · exact fun j stand hj _ => h.respects j stand hj
  | @tell i _ _ f hnext =>
    refine ⟨?_, forall_stands_set (P := fun _ stand => stand.Respects I)
      (hnext.stands_put _ _) ?_ ?_⟩
    · rw [put_world]
      exact h.holds
    · trivial
    · exact fun j stand hj _ => h.respects j stand hj

/-- Cancelling keeps up the invariant. -/
theorem cancelAll {tasks : List (Task α)} {now : Moment} {w : World} (hw : I w)
    (htasks : ∀ t ∈ tasks, (Stand.task t).Respects I) : I (cancelAll now tasks w) := by
  have hsleepers : ∀ s ∈ cancelOrder now tasks, ∀ w, I w → I (s.onCancel.foldl World.see w) := by
    intro s hs
    obtain ⟨rest, hrest⟩ := mem_cancelOrder.mp hs
    exact (htasks _ (List.mem_of_getElem? hrest)).1
  rw [Pool.cancelAll]
  generalize cancelOrder now tasks = order at hsleepers
  induction order generalizing w with
  | nil => exact hw
  | cons s order ih =>
    obtain ⟨hs, horder⟩ := List.forall_mem_cons.mp hsleepers
    exact ih (hs w hw) horder

theorem holds_of_over (h : s.Upheld I) {out : Except Failure (List α) × World}
    (hover : s.Over es out) : I out.2 := by
  cases hover with
  | ended => exact h.holds
  | stopped hnext _ => exact (h.advance hnext).1
  | broken hnext =>
    refine cancelAll h.holds fun t ht => ?_
    obtain ⟨j, hj⟩ := List.getElem?_of_mem ht
    exact h.respects j _ (getElem?_stands_of_tasks hj)

end Upheld

end Schedule

/-- What each of several programs keeps up holds after their run side by side. -/
theorem upheld_runTogether {ps : List (Program α)} {w : World} (hw : I w)
    (h : ∀ p ∈ ps, p.Respects I) : I (runTogether ps w).2 := by
  obtain ⟨_, turns, hover⟩ := exists_history ps w
  refine Schedule.Upheld.holds_of_over ?_ hover
  refine turns.invariant (I := fun _ s => s.Upheld I) ⟨hw, fun i stand hi => ?_⟩
    fun _ _ _ _ hs turn => hs.turn turn
  obtain ⟨p, hp, rfl⟩ := Schedule.exists_unstarted_of_stands hi
  exact h p (List.mem_of_getElem? hp)

/-! ## The dispatcher -/

namespace Dispatcher

open Program

variable {d : Dispatcher} {w : World}

/-- What each delivery keeps up all deliveries do, side by side or one after another. -/
theorem upheld_runAll {ps : List (Program Outcome)} (hw : I w) (h : ∀ p ∈ ps, p.Respects I) :
    I (d.runAll ps w).2 := by
  unfold runAll
  split
  · exact upheld_runTogether hw h
  · exact (respects_inTurn h w hw).run

theorem respects_isolated {γ : Type} {q : Request γ} {h : Handler} (hcall : (q.call h).Respects I)
    (hreport : ∀ f w, I w → I (w.see (q.report h f))) : (q.isolated h).Respects I := by
  refine respects_bind (respects_attempt hcall) fun x => ?_
  cases x with
  | ok a => exact respects_pure a
  | error f => exact respects_bind (respects_note (hreport f)) fun _ => respects_pure _

/-- What the deliveries of handlers keep up, and calls of the log by the dispatcher do, holds after
the delivery of an alert. -/
theorem upheld_deliver {datacenter : Text} {a : Alert} (hw : I w)
    (hlog : ∀ w call, call.logger = .dispatcher → I w → I (w.see (.log call)))
    (h : ∀ handler ∈ d.handlers, (handler.deliver datacenter a).Respects I) :
    I (d.deliver datacenter a w).2 := by
  have hdeliveries : ∀ p ∈ d.deliveries datacenter a, p.Respects I := by
    intro p hp
    rw [deliveries_eq] at hp
    obtain ⟨handler, hhandler, rfl⟩ := List.mem_map.mp hp
    exact respects_isolated (h handler hhandler) fun _ w => hlog w _ rfl
  have hall : I (d.runAll (d.deliveries datacenter a) (d.received datacenter a w)).2 :=
    upheld_runAll (hlog w _ rfl hw) hdeliveries
  match hrun : d.runAll (d.deliveries datacenter a) (d.received datacenter a w) with
  | (.error f, w') =>
    rw [deliver_of_error hrun]
    rwa [hrun] at hall
  | (.ok outcomes, w') =>
    rw [hrun] at hall
    rw [received] at hrun
    rw [deliver, hrun]
    show I (if _ then w' else _)
    split
    · exact hall
    · exact hlog w' _ rfl hall

/-- What closing each handler keeps up, and calls of the log by the dispatcher do, closing them all
does. -/
theorem respects_closeAll {hs : List Handler}
    (hlog : ∀ w call, call.logger = .dispatcher → I w → I (w.see (.log call)))
    (h : ∀ handler ∈ hs, handler.close.Respects I) : (closeAll hs).Respects I := by
  rw [closeAll_eq]
  refine respects_bind (respects_inTurn fun p hp => ?_) fun _ => respects_pure _
  obtain ⟨handler, hhandler, rfl⟩ := List.mem_map.mp hp
  exact respects_isolated (h handler hhandler) fun _ w => hlog w _ rfl

end Dispatcher

end AlertRelay
