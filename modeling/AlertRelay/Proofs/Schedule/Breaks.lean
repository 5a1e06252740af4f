import AlertRelay.Proofs.Schedule.Failures
import AlertRelay.Proofs.Schedule.Marks

/-!
# Runs that break

When a failure breaks a run, the programs that wait are cancelled, those whose wait is over before
the others. A wait that is over then began after the failure was told and takes no time, and the
wait before it began after the program had failed and took no time either. So programs that never
wait for no time twice in a row (`Program.Steady`) are cancelled in their order
(`Schedule.Turns.not_hasCome`).

* `History.ended` — in a run in which no program fails each ends;
* `History.broken` — a run in which a program fails and none stops the process comes to the failure
  that happened first, and leaves no program on its way.
-/

namespace AlertRelay

variable {α β : Type}

/-! ## Programs that do not wait for no time again and again -/

namespace Program

/-- A wait takes no time. -/
def isYield (length : Seconds) : Bool := length.micros? = some 0

/-- A program never waits for no time twice in a row, with nothing but effects in between, and not
in its next wait if it has just done so. -/
def SteadyAfter (yielded : Bool) : Program α → Prop
  | done _ => True
  | fail _ => True
  | step (.pause length _) next =>
    (yielded = true → isYield length = false) ∧ (next ()).SteadyAfter (isYield length)
  | step _ next => ∀ r, (next r).SteadyAfter yielded

/-- A program never waits for no time twice in a row. -/
def Steady (p : Program α) : Prop := p.SteadyAfter false

/-- A program that may not begin with a wait of no time is steady wherever it stands. -/
theorem steadyAfter_of_true {p : Program α} (h : p.SteadyAfter true) (yielded : Bool) :
    p.SteadyAfter yielded := by
  induction p with
  | done a => trivial
  | fail f => trivial
  | step e next ih =>
    cases e with
    | pause length onCancel => exact ⟨fun _ => h.1 rfl, h.2⟩
    | _ => exact fun r => ih r (h r)

theorem steady_of_steadyAfter {p : Program α} {yielded : Bool} (h : p.SteadyAfter yielded) :
    p.Steady := by
  cases yielded with
  | false => exact h
  | true => exact steadyAfter_of_true h false

theorem steadyAfter_of_quiet {p : Program α} (h : p.Quiet) (yielded : Bool) :
    p.SteadyAfter yielded := by
  induction p with
  | done a => trivial
  | fail f => trivial
  | step e next ih =>
    cases e with
    | pause length onCancel => cases h.1
    | _ => exact fun r => ih r (h.2 r)

/-- What neither waits nor leaves a mark may follow a steady program. -/
theorem steadyAfter_bind {p : Program α} {f : α → Program β} {yielded : Bool}
    (h : p.SteadyAfter yielded) (hf : ∀ a, (f a).Quiet) : (p >>= f).SteadyAfter yielded := by
  rw [bind_eq]
  induction p generalizing yielded with
  | done a => exact steadyAfter_of_quiet (hf a) yielded
  | fail x => trivial
  | step e next ih =>
    cases e with
    | pause length onCancel => exact ⟨h.1, ih _ h.2⟩
    | _ => exact fun r => ih r (h r)

theorem steadyAfter_attempt {p : Program α} {yielded : Bool} (h : p.SteadyAfter yielded) :
    p.attempt.SteadyAfter yielded := by
  induction p generalizing yielded with
  | done a => trivial
  | fail x => cases x <;> trivial
  | step e next ih =>
    cases e with
    | pause length onCancel => exact ⟨h.1, ih _ h.2⟩
    | _ => exact fun r => ih r (h r)

/-- What a program has left to do after a wait. -/
def Progress.SteadyAfter (yielded : Bool) : Progress α → Prop
  | .ended _ => True
  | .waiting length _ p => (yielded = true → isYield length = false) ∧
      p.SteadyAfter (isYield length)

theorem steadyAfter_advance {p : Program α} {yielded : Bool} (h : p.SteadyAfter yielded)
    (w : World) : (p.advance w).1.SteadyAfter yielded := by
  induction p generalizing w with
  | done a => trivial
  | fail f => trivial
  | step e next ih =>
    cases e with
    | pause => exact h
    | _ => exact ih _ (h _) _

end Program

/-! ## Waits that are over -/

namespace Moment

theorem hasCome_self {m e : Moment} (h : e.hasCome m = true) : m.hasCome m = true := by
  cases m <;> cases e <;> simp [hasCome] at *

/-- A wait that is over at the moment at which it began takes no time. -/
theorem isYield_of_hasCome_after {m : Moment} {length : Seconds}
    (h : (m.after length).hasCome m = true) : Program.isYield length = true := by
  cases m with
  | never => cases h
  | «at» n =>
    cases hm : length.micros? with
    | none => simp [after, hm, hasCome] at h
    | some k =>
      simp only [after, hm, hasCome, decide_eq_true_eq] at h
      obtain rfl : k = 0 := by omega
      simp [Program.isYield, hm]

theorem eq_of_hasCome {m e : Moment} (hle : m.le e = true) (h : e.hasCome m = true) : e = m := by
  cases m <;> cases e <;> simp only [hasCome, le, decide_eq_true_eq, Bool.false_eq_true] at *
  rw [Nat.le_antisymm h hle]

end Moment

namespace Stand

/-- What is left of a program is steady. -/
def Steady : Stand α → Prop
  | .unstarted p => p.Steady
  | .task (.waiting _ _ _ p) => p.Steady
  | _ => True

/-- Of a failure and a steady program whose wait is over: if the wait began after the failure it
takes no time, and if the failure was told, it takes no time and began before that. -/
def Before (now : Moment) : Stand α → Stand α → Prop
  | .task (.failing _ n told _), .task (.waiting ends n' _ p) => ends.hasCome now = true →
      (told = true ∨ n ≤ n' → p.SteadyAfter true) ∧ (told = true → n' < n)
  | _, _ => True

def IsTold : Stand α → Prop
  | .task (.failing _ _ told _) => told = true
  | _ => False

theorem before_self (now : Moment) (stand : Stand α) : Before now stand stand := by
  rcases stand with _ | _ | _ | _ <;> trivial

/-- All waits began before a failure in this turn. -/
theorem before_ofProgress {now m : Moment} {turns : Nat} {stand : Stand α}
    (h : stand.WaitsFrom now turns) (progress : Program.Progress α) :
    Before m (.task (.ofProgress m turns progress)) stand := by
  rcases progress with (f | a) | _
  · rcases stand with _ | _ | ⟨e, n, c, p⟩ | _
    · trivial
    · trivial
    · have hlt : n < turns := (h e n rfl).2
      refine fun _ => ⟨fun hafter => ?_, nofun⟩
      exact absurd hlt (Nat.not_lt.mpr (hafter.resolve_left nofun))
    · trivial
  · trivial
  · trivial

theorem not_isTold_ofProgress (now : Moment) (number : Nat) (progress : Program.Progress α) :
    ¬ (Stand.task (.ofProgress now number progress)).IsTold := by
  rcases progress with (f | a) | _ <;> simp [Task.ofProgress, IsTold]

theorem steady_ofProgress {progress : Program.Progress α} {yielded : Bool}
    (h : progress.SteadyAfter yielded) (now : Moment) (number : Nat) :
    (Stand.task (.ofProgress now number progress)).Steady := by
  rcases progress with (f | a) | ⟨length, _, p⟩
  · trivial
  · trivial
  · exact Program.steady_of_steadyAfter h.2

end Stand

namespace Schedule

open Pool TaskEvent

/-- Program `j` is steady, and its wait is not over once a failure that was told has its turn. -/
structure Paced (j : Nat) (now : Moment) (s : Schedule α) : Prop where
  steady : ∀ stand, s.stands[j]? = some stand → stand.Steady
  before : ∀ (i : Nat) failing stand, s.stands[i]? = some failing → s.stands[j]? = some stand →
    Stand.Before now failing stand
  started : ∀ (i : Nat) stand, s.stands[i]? = some stand → stand.IsTold → s.unstarted = []

/-- At the beginning nothing has failed. -/
theorem paced_ofPrograms {ps : List (Program α)} {j : Nat} {p : Program α} (hj : ps[j]? = some p)
    (hp : p.Steady) (now : Moment) (w : World) : (ofPrograms ps w).Paced j now := by
  refine ⟨fun stand hstand => ?_, fun i failing stand hi _ => ?_, fun i stand hi htold => ?_⟩
  · obtain ⟨q, hq, rfl⟩ := exists_unstarted_of_stands hstand
    exact Option.some.inj (hj.symm.trans hq) ▸ hp
  · obtain ⟨q, -, rfl⟩ := exists_unstarted_of_stands hi
    trivial
  · obtain ⟨q, -, rfl⟩ := exists_unstarted_of_stands hi
    exact htold.elim

namespace Paced

variable {s s' : Schedule α} {es es' : List TaskEvent} {now m : Moment} {i j number : Nat}
  {f : Failure}

theorem steady_next (h : s.Paced j now) {p : Program α} (hnext : s.Next j m p es') : p.Steady := by
  rcases hnext.stand with ⟨hj, -⟩ | ⟨_, _, -, -, hj, -⟩
  · exact h.steady _ hj
  · exact h.steady _ hj

/-- A steady program that goes on after a failure begins no wait of no time once that was told. -/
theorem before_advance (h : s.Paced j now) {p : Program α} (hnext : s.Next j now p es') {k n : Nat}
    {ends : Moment} {told : Bool}
    (hk : s.stands[k]? = some (Stand.task (.failing ends n told f))) :
    Stand.Before now (Stand.task (.failing ends n told f))
      (.task (.ofProgress now s.pool.turns (p.advance s.pool.world).1)) := by
  match hp : (p.advance s.pool.world).1 with
  | .ended (.ok a) => trivial
  | .ended (.error g) => trivial
  | .waiting length onCancel q =>
    intro hcome
    have hyield := Moment.isYield_of_hasCome_after hcome
    have hadvance (yielded : Bool) (hafter : p.SteadyAfter yielded) :
        (yielded = true → Program.isYield length = false) ∧ q.SteadyAfter true := by
      have hsteady := Program.steadyAfter_advance hafter s.pool.world
      rw [hp] at hsteady
      exact ⟨hsteady.1, hyield ▸ hsteady.2⟩
    refine ⟨fun _ => (hadvance false (h.steady_next hnext)).2, fun htold => ?_⟩
    -- It goes on from a wait of no time, so the next one takes some.
    have hall := h.started k _ hk htold
    have hafter : p.SteadyAfter true := by
      cases hnext with
      | start hrest => cases hrest.symm.trans hall
      | goOn _ _ htask =>
        have hbefore := h.before k _ _ hk (getElem?_stands_of_tasks htask)
        exact (hbefore (Moment.hasCome_self hcome)).1 (.inl htold)
    rw [(hadvance true hafter).1 rfl] at hyield
    cases hyield

/-- A turn in which a program is started or goes on keeps up the pace of a program. -/
theorem run (h : s.Paced j now) (hordered : s.FailsInOrder es now) {p : Program α}
    (hnext : s.Next i m p es') :
    (s.put i (.ofProgress m s.pool.turns (p.advance s.pool.world).1)
      (p.advance s.pool.world).2).Paced j m := by
  have hput := hnext.stands_put (.ofProgress m s.pool.turns (p.advance s.pool.world).1)
    (p.advance s.pool.world).2
  refine ⟨fun stand hj => ?_, fun k failing stand hk hj => ?_, fun k stand hk htold => ?_⟩
  · rcases stand_of_set hput hj with ⟨rfl, rfl⟩ | ⟨-, hold⟩
    · have hadvance := Program.steadyAfter_advance (h.steady_next hnext) s.pool.world
      exact Stand.steady_ofProgress hadvance ..
    · exact h.steady stand hold
  · rcases stand_of_set hput hk with ⟨rfl, rfl⟩ | ⟨-, hfails⟩
    · rcases stand_of_set hput hj with ⟨-, rfl⟩ | ⟨-, hold⟩
      · exact Stand.before_self ..
      · exact Stand.before_ofProgress (hordered.waits j _ hold) _
    · rcases failing with _ | _ | _ | ⟨e, n, told, g⟩
      · trivial
      · trivial
      · trivial
      · -- Time stands still after a failure.
        obtain rfl : e = now := hordered.failing k _ hfails
        obtain rfl := hordered.now_eq hnext hfails
        rcases stand_of_set hput hj with ⟨rfl, rfl⟩ | ⟨-, hold⟩
        · exact h.before_advance hnext hfails
        · exact h.before k _ stand hfails hold
  · rcases stand_of_set hput hk with ⟨-, rfl⟩ | ⟨-, hold⟩
    · exact (Stand.not_isTold_ofProgress _ _ _ htold).elim
    · by_contra hrest
      exact unstarted_ne_nil_of_put hrest (h.started k stand hold htold)

/-- A turn in which a failure is told keeps up the pace of a program. -/
theorem tell (h : s.Paced j now) (hordered : s.FailsInOrder es now)
    (hnext : s.FailsNext i m number false f) :
    (s.put i (.failing m s.pool.turns true f) s.pool.world).Paced j now := by
  have hput := hnext.stands_put (.failing m s.pool.turns true f) s.pool.world
  obtain rfl : m = now := hordered.failing i _ hnext.stand
  refine ⟨fun stand hj => ?_, fun k failing stand hk hj => ?_, fun k stand hk htold => ?_⟩
  · rcases stand_of_set hput hj with ⟨-, rfl⟩ | ⟨-, hold⟩
    · trivial
    · exact h.steady stand hold
  · rcases stand_of_set hput hj with ⟨-, rfl⟩ | ⟨-, hold⟩
    · rcases failing with _ | _ | _ | _ <;> trivial
    · rcases stand_of_set hput hk with ⟨rfl, rfl⟩ | ⟨-, hfails⟩
      · -- A wait that is over began after the failure, or it would have had its turn before.
        rcases stand with _ | _ | ⟨e, n, c, p⟩ | _
        · trivial
        · trivial
        · intro hcome
          obtain ⟨hle, hlt⟩ := hordered.waits j _ hold e n rfl
          obtain rfl := Moment.eq_of_hasCome hle hcome
          have hlate : number ≤ n := le_number_of_firstWait? hnext.first hold rfl
          exact ⟨fun _ => (h.before k _ _ hnext.stand hold hcome).1 (.inr hlate), fun _ => hlt⟩
        · trivial
      · exact h.before k failing stand hfails hold
  · by_contra hrest
    exact unstarted_ne_nil_of_put hrest hnext.all_started

theorem turn (h : s.Paced j now) (hordered : s.FailsInOrder es now) (htraced : Traced es s)
    (turn : s.Turn es' s') : ∃ now', s'.FailsInOrder (es ++ es') now' ∧ s'.Paced j now' := by
  cases turn with
  | run hnext _ => exact ⟨_, hordered.run htraced hnext _ _, h.run hordered hnext⟩
  | tell hnext =>
    rw [List.append_nil]
    exact ⟨now, hordered.tell hnext, h.tell hordered hnext⟩

/-- When a failure breaks the run, the wait of a steady program is not over. -/
theorem not_hasCome (h : s.Paced j now) (hordered : s.FailsInOrder es now)
    (hnext : s.FailsNext i m number true f) {ends : Moment} {n : Nat} {onCancel : List Entry}
    {p : Program α} (hj : s.pool.tasks[j]? = some (.waiting ends n onCancel p)) :
    ends.hasCome m = false := by
  by_contra hover
  rw [Bool.not_eq_false] at hover
  have hj := getElem?_stands_of_tasks hj
  obtain rfl : m = now := hordered.failing i _ hnext.stand
  obtain rfl := Moment.eq_of_hasCome (hordered.waits j _ hj ends n rfl).1 hover
  have hlt : n < number := (h.before i _ _ hnext.stand hj hover).2 rfl
  exact absurd hlt (Nat.not_lt.mpr (le_number_of_firstWait? hnext.first hj rfl))

end Paced

/-- After any number of turns a steady program has kept its pace. -/
theorem Turns.paced {ps : List (Program α)} {w : World} {s : Schedule α} {es : List TaskEvent}
    (turns : (ofPrograms ps w).Turns es s) {j : Nat} {p : Program α} (hp : ps[j]? = some p)
    (hsteady : p.Steady) : ∃ now, s.FailsInOrder es now ∧ s.Paced j now := by
  have hall : Traced es s ∧ ∃ now, s.FailsInOrder es now ∧ s.Paced j now :=
    turns.invariant (I := fun es s => Traced es s ∧ ∃ now, s.FailsInOrder es now ∧ s.Paced j now)
      ⟨traced_ofPrograms ps w, _, failsInOrder_ofPrograms ps w, paced_ofPrograms hp hsteady _ w⟩
      fun _ _ _ _ ⟨htraced, _, hordered, hpaced⟩ turn =>
        ⟨htraced.turn turn, hpaced.turn hordered htraced turn⟩
  exact hall.2

/-- When a failure breaks a run, no steady program is among those whose wait is over. -/
theorem Turns.not_hasCome {ps : List (Program α)} {w : World} {s : Schedule α}
    {es : List TaskEvent} (turns : (ofPrograms ps w).Turns es s) {i number : Nat} {now : Moment}
    {f : Failure} (hnext : s.FailsNext i now number true f) {sleeper : Sleeper} {p : Program α}
    (hp : ps[sleeper.task]? = some p) (hsteady : p.Steady)
    (hs : sleeper ∈ cancelOrder now s.pool.tasks) : sleeper.ends.hasCome now = false := by
  obtain ⟨_, hordered, hpaced⟩ := turns.paced hp hsteady
  obtain ⟨rest, hrest⟩ := mem_cancelOrder.mp hs
  exact hpaced.not_hasCome hordered hnext hrest

end Schedule

/-! ## Runs that break -/

/-- A program that asks for the end of the process fails with that. -/
theorem TaskEvent.mem_ofProgress_of_stopOf? {i : Nat} {progress : Program.Progress α}
    {code : Value} (h : Pool.stopOf? progress = some code) :
    .failed i (.stop code) ∈ ofProgress i progress := by
  rcases progress with ((_ | _ | _) | _) | _ <;> cases h
  exact List.mem_singleton_self _

open TaskEvent in
/-- In a run in which no program fails, each is started and ends. -/
theorem History.ended {ps : List (Program α)} {w : World} {events : List TaskEvent}
    {out : Except Failure (List α) × World} (history : History ps w events out)
    (hfails : ∀ i f, .failed i f ∉ events) {i : Nat} (hi : i < ps.length) :
    about events i = [.started i, .ended i] := by
  obtain @⟨es, es', s, out, turns, hover⟩ := history
  have hlength := turns.length_stands_ofPrograms
  cases hover with
  | ended hall hnone =>
    rw [List.append_nil]
    exact turns.traced.story_of_ended hall hnone (hlength ▸ hi)
  | @stopped k _ _ _ code _ hcode =>
    refine absurd ?_ (hfails k (.stop code))
    exact List.mem_append_right _ (List.mem_append_right _ (mem_ofProgress_of_stopOf? hcode))
  | broken hnext =>
    exact absurd (List.mem_append_left _ (turns.traced.failed hnext.stand)) (hfails _ _)

open TaskEvent in
/-- A run in which a program fails and none stops the process comes to the failure that happened
first. Every program was started once and has ended, has failed or is cancelled; what is cancelled
is so after all else, and in order, except that programs that are not steady may come first. -/
theorem History.broken {ps : List (Program α)} {w : World} {events : List TaskEvent}
    {out : Except Failure (List α) × World} (history : History ps w events out)
    (hfails : ∃ i f, .failed i f ∈ events) (hstop : ∀ i code, .failed i (.stop code) ∉ events) :
    (∃ i f, events.find? isFailure = some (.failed i f) ∧ out.1 = .error f) ∧
      (∀ i < ps.length, about events i = [.started i, .ended i] ∨
        (∃ f, about events i = [.started i, .failed i f]) ∨
          about events i = [.started i, .cancelled i]) ∧
      ∃ (before : List TaskEvent) (ready waiting : List Nat),
        events = before ++ (ready ++ waiting).map .cancelled ∧ (∀ i, .cancelled i ∉ before) ∧
          (∀ i ∈ ready, ∀ p, ps[i]? = some p → ¬ p.Steady) ∧ waiting.Pairwise (· < ·) := by
  obtain @⟨es, es', s, out, turns, hover⟩ := history
  have hlength := turns.length_stands_ofPrograms
  cases hover with
  | ended hall hnone =>
    -- A program that has failed waits for its failure to be told.
    obtain ⟨i, f, hf⟩ := hfails
    rw [List.append_nil] at hf
    obtain ⟨ends, number, told, hi⟩ := turns.traced.failing hf
    cases Pool.waitOf?_eq_none hnone (Schedule.mem_tasks_of_stand hi)
  | @stopped k _ _ _ code _ hcode =>
    refine absurd ?_ (hstop k code)
    exact List.mem_append_right _ (List.mem_append_right _ (mem_ofProgress_of_stopOf? hcode))
  | @broken i number now f hnext =>
    obtain ⟨_, hordered⟩ := turns.failsInOrder
    have hfind := hordered.first_of_broken turns.traced hnext
    refine ⟨⟨i, f, ?_, rfl⟩, fun j hj => ?_, ?_⟩
    · rw [List.find?_append, hfind]
      rfl
    · exact turns.traced.story_of_broken hnext.all_started now (hlength ▸ hj)
    · obtain ⟨ready, waiting, horder, hready, hwaiting⟩ :=
        Pool.exists_cancelOrder_eq now s.pool.tasks
      refine ⟨es, ready.map (·.task), waiting.map (·.task), ?_, turns.traced.not_cancelled,
        fun j hj p hp hsteady => ?_, List.pairwise_map.mpr hwaiting⟩
      · rw [horder, ← List.map_append, List.map_map]
        rfl
      · obtain ⟨sleeper, hs, rfl⟩ := List.mem_map.mp hj
        have hcancelled : sleeper ∈ Pool.cancelOrder now s.pool.tasks :=
          horder ▸ List.mem_append_left _ hs
        have hnot := turns.not_hasCome hnext hp hsteady hcancelled
        rw [hready sleeper hs] at hnot
        cases hnot

end AlertRelay
