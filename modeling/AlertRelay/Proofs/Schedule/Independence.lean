import AlertRelay.Dispatch
import AlertRelay.Proofs.Run
import AlertRelay.Proofs.Schedule.Stories

/-!
# Programs that do not depend on each other

Programs do not depend on each other when each has a part of the world that it alone changes and
from which what it comes to follows (`Independent`). Such programs come to the same results one
after another and side by side:

* `run_inTurn_of_independent` — one after another, they come to their results in order;
* `runTogether_of_independent` — so they do side by side, in the order in which they are listed and
  not in that in which they end.
-/

namespace AlertRelay

variable {α β σ : Type}

/-! ## What a part of the world settles -/

namespace Program

variable {part : World → σ} {R : Except Failure α → Prop} {R' : Except Failure β → Prop}

/-- What a part of the world is settles that a program comes to a result of a kind, whatever the
rest of the world is and whatever happens to it meanwhile. -/
def Settled (part : World → σ) (R : Except Failure α → Prop) : Program α → σ → Prop
  | done a, _ => R (.ok a)
  | fail f, _ => R (.error f)
  | step e next, s =>
    ∀ w, part w = s → (next (w.perform e).1).Settled part R (part (w.perform e).2)

/-- No effect of a program changes a part of the world. -/
def Keeps (part : World → σ) : Program α → Prop
  | done _ => True
  | fail _ => True
  | step e next =>
    ∀ w, part (w.perform e).2 = part w ∧ (next (w.perform e).1).Keeps part

/-- A program comes to what its part of the world settles. -/
theorem settled_run {p : Program α} {w : World} (h : p.Settled part R (part w)) :
    R (p.run w).1 := by
  induction p generalizing w with
  | done a => exact h
  | fail f => exact h
  | step e next ih => exact ih _ (h w rfl)

theorem keeps_run {p : Program α} (h : p.Keeps part) (w : World) :
    part (p.run w).2 = part w := by
  induction p generalizing w with
  | done a => rfl
  | fail f => rfl
  | step e next ih => exact (ih _ (h w).2 _).trans (h w).1

/-! ### Continuations and tries -/

/-- What a program comes to settles how the next one begins. -/
theorem settled_bind {p : Program α} {f : α → Program β} {s : σ} (h : p.Settled part R s)
    (hok : ∀ a s, R (.ok a) → (f a).Settled part R' s)
    (herror : ∀ x, R (.error x) → R' (.error x)) : (p >>= f).Settled part R' s := by
  rw [bind_eq]
  induction p generalizing s with
  | done a => exact hok a s h
  | fail x => exact herror x h
  | step e next ih => exact fun w hw => ih _ (h w hw)

theorem settled_attempt {p : Program α} {s : σ} (h : p.Settled part R s) :
    p.attempt.Settled part (fun x => ∃ y, R y ∧ x = tried y) s := by
  induction p generalizing s with
  | done a => exact ⟨_, h, rfl⟩
  | fail x => cases x <;> exact ⟨_, h, rfl⟩
  | step e next ih => exact fun w hw => ih _ (h w hw)

theorem settled_mono {R₁ : Except Failure α → Prop} {p : Program α} {s : σ}
    (h : p.Settled part R s) (hR : ∀ x, R x → R₁ x) : p.Settled part R₁ s := by
  induction p generalizing s with
  | done a => exact hR _ h
  | fail x => exact hR _ h
  | step e next ih => exact fun w hw => ih _ (h w hw)

theorem settled_of_forall (hR : ∀ x, R x) (p : Program α) (s : σ) : p.Settled part R s := by
  induction p generalizing s with
  | done a => exact hR _
  | fail x => exact hR _
  | step e next ih => exact fun w _ => ih _ _

theorem keeps_bind {p : Program α} {f : α → Program β} (h : p.Keeps part)
    (hf : ∀ a, (f a).Keeps part) : (p >>= f).Keeps part := by
  rw [bind_eq]
  induction p with
  | done a => exact hf a
  | fail x => trivial
  | step e next ih => exact fun w => ⟨(h w).1, ih _ (h w).2⟩

theorem keeps_attempt {p : Program α} (h : p.Keeps part) : p.attempt.Keeps part := by
  induction p with
  | done a => trivial
  | fail x => cases x <;> trivial
  | step e next ih => exact fun w => ⟨(h w).1, ih _ (h w).2⟩

theorem keeps_note (h : ∀ w e, part (w.see e) = part w) (e : Entry) : (note e).Keeps part :=
  fun w => ⟨h w e, trivial⟩

/-- There is nothing to change in a part that says nothing of the world. -/
theorem keeps_of_unit (p : Program α) : p.Keeps fun _ => () := by
  induction p with
  | done a => trivial
  | fail f => trivial
  | step e next ih => exact fun w => ⟨rfl, ih _⟩

/-! ### Turns -/

/-- How far a program came is settled like what it comes to. -/
def Progress.Settled (part : World → σ) (R : Except Failure α → Prop) (w : World) :
    Progress α → Prop
  | .ended x => R x
  | .waiting _ _ p => p.Settled part R (part w)

def Progress.Keeps (part : World → σ) : Progress α → Prop
  | .ended _ => True
  | .waiting _ _ p => p.Keeps part

/-- A turn leaves what a program comes to as settled as it was. -/
theorem settled_advance {p : Program α} {w : World} (h : p.Settled part R (part w)) :
    (p.advance w).1.Settled part R (p.advance w).2 := by
  induction p generalizing w with
  | done a => exact h
  | fail f => exact h
  | step e next ih =>
    -- Only a pause ends the turn.
    cases e with
    | pause => exact h w rfl
    | _ => exact ih _ (h w rfl)

theorem keeps_advance {p : Program α} (h : p.Keeps part) (w : World) :
    part (p.advance w).2 = part w ∧ (p.advance w).1.Keeps part := by
  induction p generalizing w with
  | done a => exact ⟨rfl, trivial⟩
  | fail f => exact ⟨rfl, trivial⟩
  | step e next ih =>
    cases e with
    | pause => exact ⟨rfl, (h w).2⟩
    | _ =>
      obtain ⟨hw, hnext⟩ := ih _ (h w).2 (w.perform _).2
      exact ⟨hw.trans (h w).1, hnext⟩

end Program

/-! ## Independent programs side by side -/

namespace Stand

/-- What a part of the world is settles what a program comes to, or came to. -/
def Settled (part : World → σ) (R : Except Failure α → Prop) (w : World) : Stand α → Prop
  | .unstarted p => p.Settled part R (part w)
  | .task (.ended a) => R (.ok a)
  | .task (.waiting _ _ _ p) => p.Settled part R (part w)
  | .task (.failing _ _ _ f) => R (.error f)

def Keeps (part : World → σ) : Stand α → Prop
  | .unstarted p => p.Keeps part
  | .task (.waiting _ _ _ p) => p.Keeps part
  | _ => True

theorem Settled.congr {part : World → σ} {R : Except Failure α → Prop} {w w' : World}
    {stand : Stand α} (h : stand.Settled part R w) (hw : part w' = part w) :
    stand.Settled part R w' := by
  rcases stand with p | _ | ⟨_, _, _, p⟩ | _
  · show p.Settled part R (part w')
    rw [hw]
    exact h
  · exact h
  · show p.Settled part R (part w')
    rw [hw]
    exact h
  · exact h

theorem settled_ofProgress {part : World → σ} {R : Except Failure α → Prop} {w : World}
    {progress : Program.Progress α} (h : progress.Settled part R w) (now : Moment) (number : Nat) :
    (Stand.task (.ofProgress now number progress)).Settled part R w := by
  rcases progress with (f | a) | _ <;> exact h

theorem keeps_ofProgress {part : World → σ} {progress : Program.Progress α}
    (h : progress.Keeps part) (now : Moment) (number : Nat) :
    (Stand.task (.ofProgress now number progress)).Keeps part := by
  rcases progress with (f | a) | _
  · trivial
  · trivial
  · exact h

end Stand

namespace Schedule

open Pool

/-- Each program of a schedule has a part of the world that settles what it comes to and that the
others do not change. -/
structure Apart (part : Nat → World → σ) (R : Nat → Except Failure α → Prop) (s : Schedule α) :
    Prop where
  settled : ∀ i (stand : Stand α), s.stands[i]? = some stand →
    stand.Settled (part i) (R i) s.pool.world
  keeps : ∀ i j (stand : Stand α), s.stands[j]? = some stand → i ≠ j → stand.Keeps (part i)

namespace Apart

variable {part : Nat → World → σ} {R : Nat → Except Failure α → Prop} {s s' : Schedule α}
  {i : Nat} {now : Moment} {p : Program α} {es : List TaskEvent}

/-- The program that has the next turn is settled, and the others' parts are safe from it. -/
theorem next (h : s.Apart part R) (hnext : s.Next i now p es) :
    p.Settled (part i) (R i) (part i s.pool.world) ∧ ∀ j, j ≠ i → p.Keeps (part j) := by
  rcases hnext.stand with ⟨hi, -⟩ | ⟨_, _, -, -, hi, -⟩
  · exact ⟨h.settled i _ hi, fun j hj => h.keeps j i _ hi hj⟩
  · exact ⟨h.settled i _ hi, fun j hj => h.keeps j i _ hi hj⟩

/-- Another task in the place of one keeps the programs apart. -/
theorem set (h : s.Apart part R) {t : Task α} {w : World}
    (hs : s'.stands = s.stands.set i (.task t)) (hw : s'.pool.world = w)
    (hsettled : (Stand.task t).Settled (part i) (R i) w)
    (hkeeps : ∀ j, j ≠ i → (Stand.task t).Keeps (part j))
    (hothers : ∀ j, j ≠ i → part j w = part j s.pool.world) : s'.Apart part R where
  settled := by
    rw [hw]
    refine forall_stands_set hs hsettled fun j stand hj hij => ?_
    exact (h.settled j stand hj).congr (hothers j hij)
  keeps k := by
    refine forall_stands_set (P := fun j stand => k ≠ j → stand.Keeps (part k)) hs ?_ ?_
    · exact fun hk => hkeeps k hk
    · exact fun j stand hj _ hk => h.keeps k j stand hj hk

/-- A turn keeps the programs apart. -/
theorem turn (h : s.Apart part R) (turn : s.Turn es s') : s'.Apart part R := by
  cases turn with
  | @run i now p _ hnext _ =>
    obtain ⟨hsettled, hkeeps⟩ := h.next hnext
    refine h.set (hnext.stands_put _ _) (put_world _ _ _ _) ?_ ?_ ?_
    · exact Stand.settled_ofProgress (Program.settled_advance hsettled) _ _
    · exact fun j hj => Stand.keeps_ofProgress (Program.keeps_advance (hkeeps j hj) _).2 _ _
    · exact fun j hj => (Program.keeps_advance (hkeeps j hj) _).1
  | @tell i _ _ f hnext =>
    have hf : R i (.error f) := h.settled i _ hnext.stand
    exact h.set (hnext.stands_put _ _) (put_world _ _ _ _) hf (fun _ _ => trivial)
      fun _ _ => rfl

theorem turns (h : s.Apart part R) (turns : s.Turns es s') : s'.Apart part R :=
  turns.invariant (I := fun _ s => s.Apart part R) h fun _ _ _ _ h t => h.turn t

/-- A run of programs of which none fails comes to the results of them all. -/
theorem over_ok (h : s.Apart part R) (hR : ∀ i f, ¬ R i (.error f))
    {out : Except Failure (List α) × World} (hover : s.Over es out) :
    s.unstarted = [] ∧ firstWait? s.pool.tasks = none ∧ es = [] ∧
      out = (.ok (results s.pool.tasks), s.pool.world) := by
  cases hover with
  | ended hall hnone => exact ⟨hall, hnone, rfl, rfl⟩
  | @stopped i now p _ code hnext hstop =>
    have hp := Program.settled_advance (h.next hnext).1
    cases hprogress : (p.advance s.pool.world).1 with
    | waiting => rw [hprogress] at hstop; cases hstop
    | ended x =>
      rw [hprogress] at hstop hp
      cases x with
      | ok a => cases hstop
      | error f => exact absurd hp (hR i f)
  | @broken i _ _ f hnext => exact absurd (h.settled i _ hnext.stand) (hR i f)

end Apart

/-- When nothing waits any more, the results are those that the programs came to. -/
theorem results_eq_of_settled {tasks : List (Task α)} {as : List α}
    (hnone : firstWait? tasks = none) (hlength : tasks.length = as.length)
    (hended : ∀ (i : Nat) (a : α), tasks[i]? = some (.ended a) → as[i]? = some a) :
    results tasks = as := by
  induction tasks generalizing as with
  | nil => exact (List.length_eq_zero_iff.mp hlength.symm).symm
  | cons t tasks ih =>
    have hwait := fun (s : Task α) (hs : s ∈ t :: tasks) => waitOf?_eq_none hnone hs
    cases as with
    | nil => cases hlength
    | cons a as =>
      cases t with
      | ended b =>
        obtain rfl := Option.some.inj (hended 0 b rfl)
        refine congrArg (a :: ·) (ih ?_ (Nat.succ.inj hlength) fun i => hended (i + 1))
        rw [firstWait?] at hnone
        exact Option.map_eq_none_iff.mp hnone
      | waiting => exact absurd (hwait _ List.mem_cons_self) (by simp [waitOf?])
      | failing => exact absurd (hwait _ List.mem_cons_self) (by simp [waitOf?])

end Schedule

/-- The end of a program is settled like what the program comes to. -/
def TaskEvent.Settled (R : Nat → Except Failure α → Prop) : TaskEvent → Prop
  | .ended i => ∃ a, R i (.ok a)
  | .failed i f => R i (.error f)
  | _ => True

theorem TaskEvent.settled_ofProgress {part : World → σ} {R : Nat → Except Failure α → Prop}
    {w : World} {i : Nat} {progress : Program.Progress α} (h : progress.Settled part (R i) w)
    {e : TaskEvent} (he : e ∈ ofProgress i progress) : e.Settled R := by
  rcases progress with (f | a) | _ <;> simp only [ofProgress, List.mem_singleton] at he
  · exact he ▸ h
  · exact he ▸ ⟨a, h⟩
  · cases he

theorem Stand.settled_story {part : World → σ} {R : Nat → Except Failure α → Prop} {w : World}
    {i : Nat} {stand : Stand α} (h : stand.Settled part (R i) w) {e : TaskEvent}
    (he : e ∈ stand.story i) : e.Settled R := by
  rcases stand with p | a | _ | ⟨_, _, _, f⟩ <;>
    simp only [story, List.mem_cons, List.not_mem_nil, or_false] at he
  · rcases he with rfl | rfl
    · trivial
    · exact ⟨a, h⟩
  · exact he ▸ trivial
  · rcases he with rfl | rfl
    · trivial
    · exact h

/-- What happens to programs is settled like what they come to. -/
theorem History.settled {part : Nat → World → σ} {R : Nat → Except Failure α → Prop}
    {ps : List (Program α)} {w : World} {events : List TaskEvent}
    {out : Except Failure (List α) × World} (history : History ps w events out)
    (h : (Schedule.ofPrograms ps w).Apart part R) {e : TaskEvent} (he : e ∈ events) :
    e.Settled R := by
  obtain ⟨turns, hover⟩ := history
  have hapart := h.turns turns
  rcases List.mem_append.mp he with he | he
  · obtain ⟨stand, hs, hstory⟩ := turns.traced.mem_story he
    exact Stand.settled_story (hapart.settled e.task stand hs) hstory
  · cases hover with
    | ended => cases he
    | stopped hnext _ =>
      rcases List.mem_append.mp he with he | he
      · rcases hnext.stand with ⟨-, -, rfl⟩ | ⟨_, _, -, -, -, rfl⟩
        · obtain rfl := List.mem_singleton.mp he
          trivial
        · cases he
      · exact TaskEvent.settled_ofProgress
          (Program.settled_advance (hapart.next hnext).1) he
    | broken =>
      obtain ⟨i, -, rfl⟩ := List.mem_map.mp he
      trivial

/-! ## Independent programs -/

/-- Each of several programs has a part of the world that settles what it comes to. The others do
not change it, and what was seen is not in it. -/
structure Independent (part : Nat → World → σ) (ps : List (Program α))
    (rs : List (Except Failure α)) (w : World) : Prop where
  length_eq : rs.length = ps.length
  settled : ∀ i (p : Program α) r, ps[i]? = some p → rs[i]? = some r →
    p.Settled (part i) (· = r) (part i w)
  keeps : ∀ i j (p : Program α), ps[j]? = some p → i ≠ j → p.Keeps (part i)
  unseen : ∀ i w e, part i (w.see e) = part i w

namespace Independent

variable {part : Nat → World → σ} {ps : List (Program α)} {rs : List (Except Failure α)}
  {w : World}

theorem see (h : Independent part ps rs w) (e : Entry) : Independent part ps rs (w.see e) where
  length_eq := h.length_eq
  settled i p r hp hr := by rw [h.unseen i w e]; exact h.settled i p r hp hr
  keeps := h.keeps
  unseen := h.unseen

/-- Independent programs that are all still to be started stand apart. -/
theorem apart (h : Independent part ps rs w) :
    (Schedule.ofPrograms ps w).Apart part (fun i x => rs[i]? = some x) where
  settled i stand hi := by
    obtain ⟨p, hp, rfl⟩ := Schedule.exists_unstarted_of_stands hi
    have hlt : i < rs.length := by
      rw [h.length_eq]
      exact (List.getElem?_eq_some_iff.mp hp).1
    have hsettled := h.settled i p rs[i] hp (List.getElem?_eq_getElem hlt)
    rw [List.getElem?_eq_getElem hlt]
    show p.Settled (part i) (fun x => some rs[i] = some x) (part i w)
    simpa only [Option.some.injEq, eq_comm] using hsettled
  keeps i j stand hj hij := by
    obtain ⟨p, hp, rfl⟩ := Schedule.exists_unstarted_of_stands hj
    exact h.keeps i j p hp hij

/-- What is left when the first program has run is independent as well. -/
theorem tail {p : Program α} {r : Except Failure α} (h : Independent part (p :: ps) (r :: rs) w) :
    Independent (fun i => part (i + 1)) ps rs (p.run w).2 where
  length_eq := Nat.succ.inj h.length_eq
  settled i q x hq hx := by
    rw [Program.keeps_run (h.keeps (i + 1) 0 p rfl (Nat.succ_ne_zero i))]
    exact h.settled (i + 1) q x hq hx
  keeps i j q hq hij := h.keeps (i + 1) (j + 1) q hq (by omega)
  unseen i := h.unseen (i + 1)

end Independent

/-- One after another, independent programs come to their results in order. -/
theorem run_inTurn_of_independent {part : Nat → World → σ} {ps : List (Program α)} {as : List α}
    {w : World} (h : Independent part ps (as.map .ok) w) :
    ((Program.inTurn ps).run w).1 = .ok as := by
  induction ps generalizing part as w with
  | nil =>
    obtain rfl : as = [] := by simpa using h.length_eq
    rfl
  | cons p ps ih =>
    cases as with
    | nil => simpa using h.length_eq
    | cons a as =>
      have hp : p.run w = (.ok a, (p.run w).2) :=
        Prod.ext (Program.settled_run (h.settled 0 p (.ok a) rfl rfl)) rfl
      have hps : (Program.inTurn ps).run (p.run w).2 = (.ok as, _) := Prod.ext (ih h.tail) rfl
      rw [Program.inTurn, Program.run_bind_ok hp, Program.run_bind_ok hps]
      rfl

/-- Side by side, independent programs come to their results in the order in which they are
listed. -/
theorem runTogether_of_independent {part : Nat → World → σ} {ps : List (Program α)} {as : List α}
    {w : World} (h : Independent part ps (as.map .ok) w) {events : List TaskEvent}
    {out : Except Failure (List α) × World} (history : History ps w events out) :
    out.1 = .ok as ∧ ∀ i < ps.length, TaskEvent.about events i = [.started i, .ended i] := by
  obtain ⟨turns, hover⟩ := history
  have hno : ∀ (i : Nat) (f : Failure), ¬ (as.map Except.ok)[i]? = some (.error f) := by
    simp
  obtain ⟨hall, hnone, rfl, rfl⟩ := (h.apart.turns turns).over_ok hno hover
  have hlength := turns.length_stands_ofPrograms
  constructor
  · refine congrArg Except.ok (Schedule.results_eq_of_settled hnone ?_ fun i a hi => ?_)
    · simpa [Schedule.stands_of_all_started hall, ← h.length_eq] using hlength
    · have hsettled : (as.map Except.ok)[i]? = some (.ok a) :=
        (h.apart.turns turns).settled i _ (Schedule.getElem?_stands_of_tasks hi)
      simpa using hsettled
  · intro i hi
    rw [List.append_nil]
    exact turns.traced.story_of_ended hall hnone (hlength ▸ hi)

end AlertRelay
