import AlertRelay.Schedule
import Mathlib.Data.List.Basic

/-!
# Programs side by side, turn by turn

A run of programs side by side is a sequence of turns. In a turn a program is started or goes on, up
to its next wait or its end, or a failure is told; `Schedule.Turn` says what one turn can do and
what happens in it, `Schedule.Over` how a run ends. `History` is what happens to the programs in a
whole run.

* `waitOf?_firstWait?`, `not_comesBefore_firstWait?` — the wait that comes first belongs to a task,
  and no other comes before it;
* `exists_history`, `History.unique` — every run is a sequence of turns that comes to its end, and
  of one only;
* `Schedule.Turns.invariant` — what every turn keeps up holds after any number of turns.
-/

namespace AlertRelay

variable {α : Type}

/-! ## Points of time -/

namespace Moment

theorem le_refl (m : Moment) : m.le m = true := by
  cases m <;> simp [le]

theorem le_trans {a b c : Moment} (hab : a.le b = true) (hbc : b.le c = true) :
    a.le c = true := by
  cases a <;> cases b <;> cases c <;> simp only [le, decide_eq_true_eq, reduceCtorEq] at *
  exact Nat.le_trans hab hbc

theorem le_antisymm {a b : Moment} (hab : a.le b = true) (hba : b.le a = true) : a = b := by
  cases a <;> cases b <;> simp only [le, decide_eq_true_eq, reduceCtorEq] at *
  rw [Nat.le_antisymm hab hba]

theorem le_total (a b : Moment) : a.le b = true ∨ b.le a = true := by
  cases a <;> cases b <;> simp only [le, decide_eq_true_eq, Bool.false_eq_true, or_true, true_or,
    or_self]
  exact Nat.le_total _ _

theorem zero_le (m : Moment) : (Moment.at 0).le m = true := by
  cases m <;> simp [le]

/-- A wait does not end before it begins. -/
theorem le_after (m : Moment) (s : Seconds) : m.le (m.after s) = true := by
  cases m <;> cases h : s.micros? <;> simp [after, le, h]

end Moment

/-! ## The wait that comes first -/

namespace Pool

theorem comesBefore_self (ends : Moment) (number : Nat) :
    comesBefore ends number ends number = false := by
  simp [comesBefore, Moment.le_refl]

theorem comesBefore_asymm {a b : Moment} {m n : Nat} (h : comesBefore a m b n = true) :
    comesBefore b n a m = false := by
  simp only [comesBefore, Bool.and_eq_true, Bool.or_eq_true, Bool.not_eq_true',
    decide_eq_true_eq] at h
  obtain ⟨hab, hba | hmn⟩ := h
  · simp [comesBefore, hba]
  · simp [comesBefore, hab, Nat.le_of_lt hmn]

/-- A wait comes before whatever does not come before a later one. -/
theorem not_comesBefore_trans {a b c : Moment} {l m n : Nat} (hba : comesBefore b m a l = false)
    (hcb : comesBefore c n b m = false) : comesBefore c n a l = false := by
  cases a <;> cases b <;> cases c <;> simp [comesBefore, Moment.le] at * <;> omega

/-- Of two waits that end together, the one that began first comes before the other. -/
theorem comesBefore_of_lt {ends : Moment} {m n : Nat} (h : m < n) :
    comesBefore ends m ends n = true := by
  simp [comesBefore, Moment.le_refl, h]

/-- A wait that no other comes before ends no later than the other. -/
theorem le_of_not_comesBefore {a b : Moment} {m n : Nat} (h : comesBefore b n a m = false) :
    a.le b = true := by
  rcases Moment.le_total a b with hab | hba
  · exact hab
  · simp only [comesBefore, hba, Bool.true_and, Bool.or_eq_false_iff, Bool.not_eq_false'] at h
    exact h.1

/-- The wait that comes first is that of a task. -/
theorem waitOf?_firstWait? {tasks : List (Task α)} {i number : Nat} {ends : Moment}
    (h : firstWait? tasks = some (i, ends, number)) :
    ∃ t, tasks[i]? = some t ∧ waitOf? t = some (ends, number) := by
  fun_induction firstWait? tasks generalizing i ends number with
  | case1 => cases h
  | case2 t tasks _ ih =>
    obtain ⟨⟨j, wait⟩, hrest, heq⟩ := Option.map_eq_some_iff.mp h
    obtain ⟨rfl, rfl⟩ := Prod.mk.inj heq
    exact ih hrest
  | case3 t tasks _ _ _ ht _ =>
    cases h
    exact ⟨t, rfl, ht⟩
  | case4 t tasks ends' number' j _ _ hrest ht _ _ =>
    cases h
    exact ⟨t, rfl, ht⟩
  | case5 t tasks ends' number' j e n hrest ht _ ih =>
    cases h
    exact ih hrest

theorem waitOf?_eq_of_firstWait? {tasks : List (Task α)} {i number : Nat} {ends : Moment}
    (h : firstWait? tasks = some (i, ends, number)) {t : Task α} (ht : tasks[i]? = some t) :
    waitOf? t = some (ends, number) := by
  obtain ⟨t', ht', hwait⟩ := waitOf?_firstWait? h
  obtain rfl := Option.some.inj (ht.symm.trans ht')
  exact hwait

/-- Without a wait that comes first, nothing waits. -/
theorem waitOf?_eq_none {tasks : List (Task α)} (h : firstWait? tasks = none) {t : Task α}
    (ht : t ∈ tasks) : waitOf? t = none := by
  fun_induction firstWait? tasks with
  | case1 => cases ht
  | case2 s tasks hs ih =>
    rcases List.mem_cons.mp ht with rfl | ht
    · exact hs
    · exact ih (Option.map_eq_none_iff.mp h) ht
  | case3 => cases h
  | case4 => cases h
  | case5 => cases h

/-- No wait comes before the one that comes first. -/
theorem not_comesBefore_firstWait? {tasks : List (Task α)} {i number : Nat} {ends : Moment}
    (h : firstWait? tasks = some (i, ends, number)) {t : Task α} (ht : t ∈ tasks) {e : Moment}
    {n : Nat} (hwait : waitOf? t = some (e, n)) : comesBefore e n ends number = false := by
  fun_induction firstWait? tasks generalizing i ends number with
  | case1 => cases ht
  | case2 s tasks hs ih =>
    obtain ⟨⟨j, wait⟩, hrest, heq⟩ := Option.map_eq_some_iff.mp h
    obtain ⟨rfl, rfl⟩ := Prod.mk.inj heq
    rcases List.mem_cons.mp ht with rfl | ht
    · rw [hs] at hwait
      cases hwait
    · exact ih hrest ht
  | case3 s tasks _ _ hrest hs _ =>
    cases h
    rcases List.mem_cons.mp ht with rfl | ht
    · obtain ⟨rfl, rfl⟩ := Prod.mk.inj (Option.some.inj (hs.symm.trans hwait))
      exact comesBefore_self _ _
    · rw [waitOf?_eq_none hrest ht] at hwait
      cases hwait
  | case4 s tasks _ _ j e' n' hrest hs hbefore ih =>
    cases h
    rcases List.mem_cons.mp ht with rfl | ht
    · obtain ⟨rfl, rfl⟩ := Prod.mk.inj (Option.some.inj (hs.symm.trans hwait))
      exact comesBefore_self _ _
    · exact not_comesBefore_trans (comesBefore_asymm hbefore) (ih hrest ht)
  | case5 s tasks _ _ j e' n' hrest hs hbefore ih =>
    cases h
    rcases List.mem_cons.mp ht with rfl | ht
    · obtain ⟨rfl, rfl⟩ := Prod.mk.inj (Option.some.inj (hs.symm.trans hwait))
      exact Bool.eq_false_iff.mpr hbefore
    · exact ih hrest ht

/-! ## The order in which programs are cancelled -/

/-- The programs that wait, with the index of the first task given. -/
theorem mem_sleepers {tasks : List (Task α)} {k : Nat} {s : Sleeper} :
    s ∈ sleepers k tasks ↔ ∃ i rest, s.task = k + i ∧
      tasks[i]? = some (.waiting s.ends s.number s.onCancel rest) := by
  induction tasks generalizing k with
  | nil => simp [sleepers]
  | cons t tasks ih =>
    -- The first task has index `k`, and the others have those from `k + 1` on.
    have htail : s ∈ sleepers (k + 1) tasks ↔ ∃ i rest, s.task = k + (i + 1) ∧
        (t :: tasks)[i + 1]? = some (.waiting s.ends s.number s.onCancel rest) := by
      simp only [ih, List.getElem?_cons_succ, Nat.add_assoc, Nat.add_comm 1]
    rw [← Nat.or_exists_add_one, ← htail]
    cases t with
    | ended a => simp [sleepers]
    | failing => simp [sleepers]
    | waiting ends number onCancel rest =>
      obtain ⟨task, ends', number', onCancel'⟩ := s
      simp only [sleepers, List.mem_cons, Sleeper.mk.injEq, List.getElem?_cons_zero]
      grind

theorem pairwise_sleepers (tasks : List (Task α)) (k : Nat) :
    (sleepers k tasks).Pairwise (·.task < ·.task) := by
  induction tasks generalizing k with
  | nil => exact .nil
  | cons t tasks ih =>
    cases t with
    | ended a => exact ih (k + 1)
    | failing => exact ih (k + 1)
    | waiting ends number onCancel rest =>
      refine .cons (fun s hs => ?_) (ih (k + 1))
      obtain ⟨i, -, hi, -⟩ := mem_sleepers.mp hs
      show k < s.task
      omega

/-- All that wait are cancelled, and nothing else is. -/
theorem perm_cancelOrder (now : Moment) (tasks : List (Task α)) :
    (cancelOrder now tasks).Perm (sleepers 0 tasks) := by
  refine ((List.mergeSort_perm _ _).append_right _).trans ?_
  exact List.filter_append_perm ..

/-- What is cancelled are the programs that wait. -/
theorem mem_cancelOrder {now : Moment} {tasks : List (Task α)} {s : Sleeper} :
    s ∈ cancelOrder now tasks ↔
      ∃ rest, tasks[s.task]? = some (.waiting s.ends s.number s.onCancel rest) := by
  rw [(perm_cancelOrder now tasks).mem_iff, mem_sleepers]
  simp

/-- Each is cancelled once. -/
theorem nodup_cancelOrder (now : Moment) (tasks : List (Task α)) :
    ((cancelOrder now tasks).map (·.task)).Nodup := by
  refine ((perm_cancelOrder now tasks).map _).nodup_iff.mpr ?_
  exact List.pairwise_map.mpr ((pairwise_sleepers tasks 0).imp Nat.ne_of_lt)

/-- Of those that are cancelled, the ones whose wait is over come first and the others after them in
order. -/
theorem exists_cancelOrder_eq (now : Moment) (tasks : List (Task α)) :
    ∃ ready waiting, cancelOrder now tasks = ready ++ waiting ∧
      (∀ s ∈ ready, s.ends.hasCome now = true) ∧ waiting.Pairwise (·.task < ·.task) := by
  refine ⟨_, _, rfl, fun s hs => ?_, (pairwise_sleepers tasks 0).filter _⟩
  exact (List.mem_filter.mp (List.mem_mergeSort.mp hs)).2

end Pool

/-! ## What happens in a turn -/

/-- Something that happens to one of several programs, which are counted in order. -/
inductive TaskEvent where
  | started (i : Nat)
  | ended (i : Nat)
  | failed (i : Nat) (f : Failure)
  | cancelled (i : Nat)

namespace TaskEvent

def task : TaskEvent → Nat
  | started i => i
  | ended i => i
  | failed i _ => i
  | cancelled i => i

def isFailure : TaskEvent → Bool
  | failed _ _ => true
  | _ => false

/-- What happens at the end of a turn: a program ends or fails unless it waits. -/
def ofProgress (i : Nat) : Program.Progress α → List TaskEvent
  | .ended (.ok _) => [ended i]
  | .ended (.error f) => [failed i f]
  | .waiting _ _ _ => []

end TaskEvent

structure Schedule (α : Type) where
  pool : Pool α
  unstarted : List (Program α) := []

inductive Stand (α : Type) where
  | unstarted (p : Program α)
  | task (t : Task α)

namespace Schedule

open Pool

def ofPrograms (ps : List (Program α)) (w : World) : Schedule α := ⟨{ world := w }, ps⟩

def stands (s : Schedule α) : List (Stand α) :=
  s.pool.tasks.map .task ++ s.unstarted.map .unstarted

/-- The schedule after a turn that left a task in a world: that of a program that was to be started,
or else that of program `i`. -/
def put (s : Schedule α) (i : Nat) (t : Task α) (w : World) : Schedule α :=
  match s.unstarted with
  | [] => ⟨s.pool.afterTurn w (s.pool.tasks.set i t), []⟩
  | _ :: ps => ⟨s.pool.afterTurn w (s.pool.tasks ++ [t]), ps⟩

/-- A program has the next turn, at a moment: the first that is to be started or else the one whose
wait comes first. -/
inductive Next (s : Schedule α) : Nat → Moment → Program α → List TaskEvent → Prop where
  | start {p : Program α} {ps : List (Program α)} (hrest : s.unstarted = p :: ps) :
    s.Next s.pool.tasks.length (.at 0) p [.started s.pool.tasks.length]
  | goOn {i number : Nat} {now : Moment} {onCancel : List Entry} {p : Program α}
    (hall : s.unstarted = []) (hfirst : firstWait? s.pool.tasks = some (i, now, number))
    (htask : s.pool.tasks[i]? = some (.waiting now number onCancel p)) :
    s.Next i now p []

/-- The failure of a program comes next: it is told, or it breaks the run if it was told before. -/
structure FailsNext (s : Schedule α) (i : Nat) (now : Moment) (number : Nat) (told : Bool)
    (f : Failure) : Prop where
  all_started : s.unstarted = []
  first : firstWait? s.pool.tasks = some (i, now, number)
  failing : s.pool.tasks[i]? = some (.failing now number told f)

/-- One turn, with what happens in it. -/
inductive Turn (s : Schedule α) : List TaskEvent → Schedule α → Prop where
  | run {i : Nat} {now : Moment} {p : Program α} {es : List TaskEvent} (hnext : s.Next i now p es)
    (hstop : stopOf? (p.advance s.pool.world).1 = none) :
    s.Turn (es ++ TaskEvent.ofProgress i (p.advance s.pool.world).1)
      (s.put i (.ofProgress now s.pool.turns (p.advance s.pool.world).1)
        (p.advance s.pool.world).2)
  | tell {i number : Nat} {now : Moment} {f : Failure} (hnext : s.FailsNext i now number false f) :
    s.Turn [] (s.put i (.failing now s.pool.turns true f) s.pool.world)

/-- A run is over: every program has ended, one asks for the end of the process, or a failure that
was told breaks the run. -/
inductive Over (s : Schedule α) : List TaskEvent → Except Failure (List α) × World → Prop where
  | ended (hall : s.unstarted = []) (hnone : firstWait? s.pool.tasks = none) :
    s.Over [] (.ok (results s.pool.tasks), s.pool.world)
  | stopped {i : Nat} {now : Moment} {p : Program α} {es : List TaskEvent} {code : Value}
    (hnext : s.Next i now p es) (hstop : stopOf? (p.advance s.pool.world).1 = some code) :
    s.Over (es ++ TaskEvent.ofProgress i (p.advance s.pool.world).1)
      (.error (.stop code), (p.advance s.pool.world).2)
  | broken {i number : Nat} {now : Moment} {f : Failure} (hnext : s.FailsNext i now number true f) :
    s.Over ((cancelOrder now s.pool.tasks).map (.cancelled ·.task))
      (.error f, cancelAll now s.pool.tasks s.pool.world)

inductive Turns (s : Schedule α) : List TaskEvent → Schedule α → Prop where
  | refl : s.Turns [] s
  | snoc {es es' : List TaskEvent} {s' s'' : Schedule α} (turns : s.Turns es s')
    (turn : s'.Turn es' s'') : s.Turns (es ++ es') s''

/-- What every turn keeps up holds after any number of turns. -/
theorem Turns.invariant {s s' : Schedule α} {es : List TaskEvent}
    {I : List TaskEvent → Schedule α → Prop} (turns : s.Turns es s') (hinit : I [] s)
    (hturn : ∀ es s es' s', I es s → s.Turn es' s' → I (es ++ es') s') : I es s' := by
  induction turns with
  | refl => exact hinit
  | snoc _ turn ih => exact hturn _ _ _ _ ih turn

end Schedule

/-- What happens to programs in a whole run, and what the run comes to. -/
inductive History (ps : List (Program α)) (w : World) :
    List TaskEvent → Except Failure (List α) × World → Prop where
  | mk {es es' : List TaskEvent} {s : Schedule α} {out : Except Failure (List α) × World}
    (turns : (Schedule.ofPrograms ps w).Turns es s) (hover : s.Over es' out) :
    History ps w (es ++ es') out

/-! ## Every run has a history -/

namespace Schedule

open Pool

/-- Turns that started every program go on to the end of the run. -/
theorem Turns.over_run {s : Schedule α} {es : List TaskEvent} {pool : Pool α}
    (turns : s.Turns es ⟨pool, []⟩) :
    ∃ es s' es', s.Turns es s' ∧ s'.Over es' pool.run := by
  -- Each way in which `run` goes on adds a turn, and each way in which it stops is an end.
  fun_induction Pool.run pool generalizing es
  case case1 pool hnone => exact ⟨_, _, _, turns, .ended rfl hnone⟩
  case case2 pool i wait hfirst ends number onCancel p htask turn code hstop =>
    cases waitOf?_eq_of_firstWait? hfirst htask
    exact ⟨_, _, _, turns, .stopped (.goOn rfl hfirst htask) hstop⟩
  case case3 pool i wait hfirst ends number onCancel p htask turn hstop ih =>
    cases waitOf?_eq_of_firstWait? hfirst htask
    exact ih (turns.snoc (.run (.goOn rfl hfirst htask) hstop))
  case case4 pool i wait hfirst ends number f htask ih =>
    cases waitOf?_eq_of_firstWait? hfirst htask
    exact ih (turns.snoc (.tell ⟨rfl, hfirst, htask⟩))
  case case5 pool i wait hfirst ends number f htask =>
    cases waitOf?_eq_of_firstWait? hfirst htask
    exact ⟨_, _, _, turns, .broken ⟨rfl, hfirst, htask⟩⟩
  case case6 pool i wait hfirst hwaiting huntold htold =>
    -- The wait that comes first is one, so its task waits or fails.
    obtain ⟨t, ht, hwait⟩ := waitOf?_firstWait? hfirst
    cases t with
    | ended a => cases hwait
    | waiting ends number onCancel p => exact absurd ht (hwaiting ends number onCancel p)
    | failing ends number told f =>
      cases told with
      | false => exact absurd ht (huntold ends number f)
      | true => exact absurd ht (htold ends number f)

/-- Turns go on to the end of the run. -/
theorem Turns.over_start {s : Schedule α} {es : List TaskEvent} {pool : Pool α}
    {ps : List (Program α)} (turns : s.Turns es ⟨pool, ps⟩) :
    ∃ es s' es', s.Turns es s' ∧ s'.Over es' (pool.start ps) := by
  induction ps generalizing es pool with
  | nil => exact turns.over_run
  | cons p ps ih =>
    have hnext : (Schedule.mk pool (p :: ps)).Next pool.tasks.length (.at 0) p
      [.started pool.tasks.length] := .start rfl
    rw [Pool.start]
    cases hstop : stopOf? (p.advance pool.world).1 with
    | some code => exact ⟨_, _, _, turns, .stopped hnext hstop⟩
    | none => exact ih (turns.snoc (.run hnext hstop))

end Schedule

/-- Every run is a sequence of turns that comes to its end. -/
theorem exists_history (ps : List (Program α)) (w : World) :
    ∃ events, History ps w events (runTogether ps w) := by
  have turns : (Schedule.ofPrograms ps w).Turns [] ⟨{ world := w }, ps⟩ := .refl
  obtain ⟨es, s, es', turns, hover⟩ := turns.over_start
  exact ⟨es ++ es', .mk turns hover⟩

/-! ## A run has no other history -/

namespace Schedule

open Pool

variable {s s₁ s₂ : Schedule α} {i j m n : Nat} {now now' : Moment} {p q : Program α}
  {es es' fs : List TaskEvent} {told told' : Bool} {f f' : Failure}
  {out out' : Except Failure (List α) × World}

/-- One program has the next turn. -/
theorem Next.unique (h : s.Next i now p es) (h' : s.Next j now' q es') :
    i = j ∧ now = now' ∧ p = q ∧ es = es' := by
  cases h with
  | start hrest =>
    cases h' with
    | start hrest' =>
      cases hrest.symm.trans hrest'
      exact ⟨rfl, rfl, rfl, rfl⟩
    | goOn hall _ _ => cases hrest.symm.trans hall
  | goOn hall hfirst htask =>
    cases h' with
    | start hrest => cases hall.symm.trans hrest
    | goOn _ hfirst' htask' =>
      cases hfirst.symm.trans hfirst'
      cases htask.symm.trans htask'
      exact ⟨rfl, rfl, rfl, rfl⟩

theorem FailsNext.unique (h : s.FailsNext i now m told f) (h' : s.FailsNext j now' n told' f') :
    i = j ∧ now = now' ∧ told = told' ∧ f = f' := by
  cases h.first.symm.trans h'.first
  cases h.failing.symm.trans h'.failing
  exact ⟨rfl, rfl, rfl, rfl⟩

theorem Next.not_failsNext (h : s.Next i now p es) : ¬ s.FailsNext j now' n told f := by
  intro h'
  cases h with
  | start hrest => cases hrest.symm.trans h'.all_started
  | goOn _ hfirst htask =>
    cases hfirst.symm.trans h'.first
    cases htask.symm.trans h'.failing

/-- Something is left to be done as long as a program has the next turn. -/
theorem Next.not_idle (h : s.Next i now p es) (hall : s.unstarted = []) :
    firstWait? s.pool.tasks ≠ none := by
  intro hnone
  cases h with
  | start hrest => cases hall.symm.trans hrest
  | goOn _ hfirst _ => cases hnone.symm.trans hfirst

/-- There is one next turn. -/
theorem Turn.unique (h : s.Turn es s₁) (h' : s.Turn es' s₂) : es = es' ∧ s₁ = s₂ := by
  cases h with
  | run hnext _ =>
    cases h' with
    | run hnext' _ =>
      obtain ⟨rfl, rfl, rfl, rfl⟩ := hnext.unique hnext'
      exact ⟨rfl, rfl⟩
    | tell hfails => exact absurd hfails hnext.not_failsNext
  | tell hfails =>
    cases h' with
    | run hnext _ => exact absurd hfails hnext.not_failsNext
    | tell hfails' =>
      obtain ⟨rfl, rfl, -, rfl⟩ := hfails.unique hfails'
      exact ⟨rfl, rfl⟩

/-- There is no turn after the end. -/
theorem Over.not_turn (hover : s.Over es out) : ¬ s.Turn es' s₁ := by
  intro turn
  cases hover with
  | ended hall hnone =>
    cases turn with
    | run hnext _ => exact hnext.not_idle hall hnone
    | tell hfails => cases hnone.symm.trans hfails.first
  | stopped hnext hstop =>
    cases turn with
    | run hnext' hgoes =>
      obtain ⟨rfl, rfl, rfl, rfl⟩ := hnext.unique hnext'
      cases hstop.symm.trans hgoes
    | tell hfails => exact absurd hfails hnext.not_failsNext
  | broken hfails =>
    cases turn with
    | run hnext _ => exact absurd hfails hnext.not_failsNext
    | tell hfails' => cases (hfails.unique hfails').2.2.1

/-- There is one end. -/
theorem Over.unique (hover : s.Over es out) (hover' : s.Over es' out') : es = es' ∧ out = out' := by
  cases hover with
  | ended hall hnone =>
    cases hover' with
    | ended _ _ => exact ⟨rfl, rfl⟩
    | stopped hnext _ => exact absurd hnone (hnext.not_idle hall)
    | broken hfails => cases hnone.symm.trans hfails.first
  | stopped hnext hstop =>
    cases hover' with
    | ended hall hnone => exact absurd hnone (hnext.not_idle hall)
    | stopped hnext' hstop' =>
      obtain ⟨rfl, rfl, rfl, rfl⟩ := hnext.unique hnext'
      cases hstop.symm.trans hstop'
      exact ⟨rfl, rfl⟩
    | broken hfails => exact absurd hfails hnext.not_failsNext
  | broken hfails =>
    cases hover' with
    | ended _ hnone => cases hnone.symm.trans hfails.first
    | stopped hnext _ => exact absurd hfails hnext.not_failsNext
    | broken hfails' =>
      obtain ⟨-, rfl, -, rfl⟩ := hfails.unique hfails'
      exact ⟨rfl, rfl⟩

/-- Several turns are none, or a first one and the others. -/
theorem Turns.first (turns : s.Turns es s₁) :
    es = [] ∧ s₁ = s ∨
      ∃ fs gs t, s.Turn fs t ∧ t.Turns gs s₁ ∧ es = fs ++ gs := by
  induction turns with
  | refl => exact .inl ⟨rfl, rfl⟩
  | @snoc _ es' t t' _ turn ih =>
    rcases ih with ⟨rfl, rfl⟩ | ⟨fs, gs, u, hfirst, hrest, rfl⟩
    · exact .inr ⟨es', [], t', turn, .refl, (List.append_nil _).symm⟩
    · exact .inr ⟨fs, gs ++ es', u, hfirst, hrest.snoc turn, List.append_assoc ..⟩

/-- Turns from the same beginning lead on to the end. -/
theorem Turns.lead_on (turns : s.Turns es s₁) (hover : s₁.Over es' out) (turns' : s.Turns fs s₂) :
    ∃ gs, s₂.Turns gs s₁ ∧ es = fs ++ gs := by
  -- Each of the other turns is the first of those that are left until the end.
  induction turns' with
  | refl => exact ⟨es, turns, rfl⟩
  | @snoc fs fs' t t' _ turn ih =>
    obtain ⟨gs, hrest, rfl⟩ := ih
    rcases hrest.first with ⟨-, rfl⟩ | ⟨hs, gs', u, hfirst, hrest', rfl⟩
    · exact absurd turn hover.not_turn
    · obtain ⟨rfl, rfl⟩ := turn.unique hfirst
      exact ⟨gs', hrest', (List.append_assoc ..).symm⟩

end Schedule

/-- A run has one history, and it comes to one thing. -/
theorem History.unique {ps : List (Program α)} {w : World} {es es' : List TaskEvent}
    {out out' : Except Failure (List α) × World} (h : History ps w es out)
    (h' : History ps w es' out') : es = es' ∧ out = out' := by
  obtain @⟨es, fs, s, out, turns, hover⟩ := h
  obtain @⟨es', fs', s', out', turns', hover'⟩ := h'
  obtain ⟨gs, hrest, rfl⟩ := turns.lead_on hover turns'
  -- There is no turn after the end of the second run either.
  rcases hrest.first with ⟨rfl, rfl⟩ | ⟨_, _, _, hfirst, -, -⟩
  · obtain ⟨rfl, rfl⟩ := hover.unique hover'
    exact ⟨by rw [List.append_nil], rfl⟩
  · exact absurd hfirst hover'.not_turn

end AlertRelay
