import AlertRelay.Proofs.Dispatch.Deliveries
import AlertRelay.Proofs.Network
import Mathlib.Data.List.Forall2

/-!
# The outcomes of a dispatch

When every delivery of an alert returns on a network, the dispatcher returns one outcome per
handler, in their order, whether the deliveries run one after another or side by side. Side by side
a delivery meets a world in which the others have their effects meanwhile; all that is left of the
network's hand in it is that what it comes to is among the results that it can come to there
(`Program.CanEnd`).
-/

namespace AlertRelay

variable {α γ : Type} {n : Network}

namespace Program

/-! ## What a program can come to -/

/-- A program can come to a result on a network, if its effects are carried out in worlds with that
network, whatever else these worlds are. -/
inductive CanEnd (n : Network) : Program α → Except Failure α → Prop where
  | done (a : α) : CanEnd n (done a) (.ok a)
  | fail (f : Failure) : CanEnd n (fail f) (.error f)
  | step {e : Effect} {next : e.Reply → Program α} {x : Except Failure α} (w : World)
      (hw : w.network = n) (hnext : CanEnd n (next (w.perform e).1) x) : CanEnd n (step e next) x

/-- On a network a program comes to nothing but what it can come to. -/
theorem settled_canEnd (p : Program α) : p.Settled World.network (p.CanEnd n) n := by
  induction p with
  | done a => exact .done a
  | fail f => exact .fail f
  | step e next ih =>
    intro w hw
    rw [World.network_perform, hw]
    exact settled_mono (ih _) fun x hx => .step w hw hx

/-- A program that is settled in two ways is settled in both. -/
theorem settled_and {σ : Type} {part : World → σ} {R R' : Except Failure α → Prop} {p : Program α}
    {s : σ} (h : p.Settled part R s) (h' : p.Settled part R' s) :
    p.Settled part (fun x => R x ∧ R' x) s := by
  induction p generalizing s with
  | done a => exact ⟨h, h'⟩
  | fail f => exact ⟨h, h'⟩
  | step e next ih => exact fun w hw => ih _ (h w hw) (h' w hw)

/-- A program that returns on a network returns a value that it can come to there. -/
theorem Returns.canEnd {Q : α → Prop} {p : Program α} (h : p.Returns n Q) :
    p.Returns n fun a => Q a ∧ p.CanEnd n (.ok a) := by
  refine settled_mono (settled_and h p.settled_canEnd) ?_
  rintro (f | a) ⟨hQ, hend⟩
  · exact hQ.elim
  · exact ⟨hQ, hend⟩

/-- No program changes the network. -/
theorem keeps_network (p : Program α) : p.Keeps World.network := by
  induction p with
  | done a => trivial
  | fail f => trivial
  | step e next ih => exact fun w => ⟨w.network_perform e, ih _⟩

/-! ## Programs that return -/

/-- One after another, programs that return come to results, each in its place. -/
theorem run_inTurn_of_returns {q : γ → Program α} {Q : γ → α → Prop} {xs : List γ}
    (h : ∀ x ∈ xs, (q x).Returns n (Q x)) {w : World} (hw : w.network = n) :
    ∃ as, ((inTurn (xs.map q)).run w).1 = .ok as ∧ List.Forall₂ Q xs as := by
  induction xs generalizing w with
  | nil => exact ⟨[], rfl, .nil⟩
  | cons x xs ih =>
    have hx := h x List.mem_cons_self
    rw [← hw] at hx
    obtain ⟨a, w', hrun, ha⟩ := hx.exists_run
    have hw' : w'.network = n := by
      rw [← hw, ← network_run (q x) w, hrun]
    obtain ⟨as, has, hall⟩ := ih (fun y hy => h y (List.mem_cons_of_mem x hy)) hw'
    refine ⟨a :: as, ?_, .cons ha hall⟩
    rw [List.map_cons, inTurn, run_bind_ok hrun, run_bind]
    rcases hrest : (inTurn (xs.map q)).run w' with ⟨result, w''⟩
    rw [hrest] at has
    obtain rfl : result = .ok as := has
    rfl

end Program

namespace Schedule

open Pool

/-- When nothing waits any more and no program has failed, the results are those of the programs,
each in its place. -/
theorem forall₂_results {Q : γ → α → Prop} {xs : List γ} {tasks : List (Task α)}
    (hnone : firstWait? tasks = none) (hlength : tasks.length = xs.length)
    (hended : ∀ (i : Nat) (x : γ) (a : α), xs[i]? = some x → tasks[i]? = some (.ended a) → Q x a) :
    List.Forall₂ Q xs (results tasks) := by
  induction tasks generalizing xs with
  | nil =>
    obtain rfl := List.length_eq_zero_iff.mp hlength.symm
    exact .nil
  | cons t tasks ih =>
    have hwait := fun (s : Task α) (hs : s ∈ t :: tasks) => waitOf?_eq_none hnone hs
    cases xs with
    | nil => cases hlength
    | cons x xs =>
      cases t with
      | ended a =>
        refine .cons (hended 0 x a rfl rfl) (ih ?_ (Nat.succ.inj hlength) fun i => hended (i + 1))
        rw [firstWait?] at hnone
        exact Option.map_eq_none_iff.mp hnone
      | waiting => exact absurd (hwait _ List.mem_cons_self) (by simp [waitOf?])
      | failing => exact absurd (hwait _ List.mem_cons_self) (by simp [waitOf?])

end Schedule

/-- Side by side, programs that return come to results, each in its place. -/
theorem runTogether_of_returns {q : γ → Program α} {Q : γ → α → Prop} {xs : List γ}
    (h : ∀ x ∈ xs, (q x).Returns n (Q x)) {w : World} (hw : w.network = n) :
    ∃ as, (runTogether (xs.map q) w).1 = .ok as ∧ List.Forall₂ Q xs as := by
  -- The network is the part of the world that settles what each program comes to.
  have hapart : (Schedule.ofPrograms (xs.map q) w).Apart (fun _ => World.network)
      fun i r => ∃ x, xs[i]? = some x ∧ Returned (Q x) r := by
    constructor
    · intro i stand hi
      obtain ⟨p, hp, rfl⟩ := Schedule.exists_unstarted_of_stands hi
      rw [List.getElem?_map] at hp
      obtain ⟨x, hx, rfl⟩ := Option.map_eq_some_iff.mp hp
      have hreturns := h x (List.mem_of_getElem? hx)
      rw [← hw] at hreturns
      exact Program.settled_mono hreturns fun r hr => ⟨x, hx, hr⟩
    · intro i j stand hj _
      obtain ⟨p, -, rfl⟩ := Schedule.exists_unstarted_of_stands hj
      exact p.keeps_network
  obtain ⟨_, turns, hover⟩ := exists_history (xs.map q) w
  have hafter := hapart.turns turns
  have hno : ∀ (i : Nat) (f : Failure), ¬ ∃ x, xs[i]? = some x ∧ Returned (Q x) (.error f) :=
    fun i f ⟨x, _, hf⟩ => hf
  obtain ⟨hall, hnone, -, hout⟩ := hafter.over_ok hno hover
  refine ⟨_, congrArg Prod.fst hout, Schedule.forall₂_results hnone ?_ ?_⟩
  · have hlength := turns.length_stands_ofPrograms
    simpa [Schedule.stands_of_all_started hall] using hlength
  · intro i x a hx hi
    obtain ⟨y, hy, hQ⟩ := hafter.settled i _ (Schedule.getElem?_stands_of_tasks hi)
    obtain rfl := Option.some.inj (hx.symm.trans hy)
    exact hQ

/-! ## The dispatcher -/

namespace Dispatcher

open Program

variable {d : Dispatcher} {datacenter : Text} {a : Alert} {w : World}

/-- A delivery that returns an outcome does so through the dispatcher. -/
theorem returns_deliverThrough {h : Handler} {Q : Outcome → Prop}
    (hreturns : (h.deliver datacenter a).Returns n Q) :
    (deliverThrough h datacenter a).Returns n Q := by
  have htried : (h.deliver datacenter a).attempt.Returns n fun x => ∃ o, x = .ok o ∧ Q o := by
    refine settled_mono (settled_attempt hreturns) ?_
    rintro _ ⟨y, hy, rfl⟩
    obtain ⟨o, rfl, ho⟩ := Returned.exists_eq hy
    exact ⟨o, rfl, ho⟩
  rw [deliverThrough_eq]
  refine htried.bind fun x hx => ?_
  obtain ⟨o, rfl, ho⟩ := hx
  exact Returns.pure ho

/-- If every delivery through the dispatcher returns, it returns the outcomes in the order of its
handlers, either way. -/
theorem deliver_of_through_returns {Q : Handler → Outcome → Prop}
    (h : ∀ handler ∈ d.handlers, (deliverThrough handler datacenter a).Returns w.network
      (Q handler)) :
    ∃ outcomes, (d.deliver datacenter a w).1 = .ok ⟨datacenter, outcomes⟩ ∧
      List.Forall₂ Q d.handlers outcomes := by
  have hreceived : (d.received datacenter a w).network = w.network := rfl
  have hall : ∃ outcomes, (d.runAll (d.deliveries datacenter a) (d.received datacenter a w)).1 =
      .ok outcomes ∧ List.Forall₂ Q d.handlers outcomes := by
    unfold runAll deliveries
    split
    · exact runTogether_of_returns h hreceived
    · exact run_inTurn_of_returns h hreceived
  obtain ⟨outcomes, hok, houtcomes⟩ := hall
  have hrun : d.runAll (d.deliveries datacenter a) (d.received datacenter a w) =
      (.ok outcomes, _) := Prod.ext hok rfl
  exact ⟨outcomes, (deliver_of_ok hrun).1, houtcomes⟩

/-- If every delivery returns, so does the dispatcher. -/
theorem deliver_of_returns {Q : Handler → Outcome → Prop}
    (h : ∀ handler ∈ d.handlers, (handler.deliver datacenter a).Returns w.network (Q handler)) :
    ∃ outcomes, (d.deliver datacenter a w).1 = .ok ⟨datacenter, outcomes⟩ ∧
      List.Forall₂ Q d.handlers outcomes :=
  deliver_of_through_returns fun handler hh => returns_deliverThrough (h handler hh)

end Dispatcher

end AlertRelay
