import AlertRelay.World

/-!
# Running programs side by side

Programs that run at the same time take turns: all are started in order, each runs up to its next
wait, and from then on the wait that ends first decides who goes on; of waits that end together the
one that began first. The failure of a program is told in two further turns of its own, so that
others whose waits end at that very moment may still go on; then all that wait are cancelled, and
the failure is the result. A program whose wait is over when it is cancelled has its turn first,
before those that must be woken for it. A program that asks for the end of the process ends
everything at once.

The run ends because every turn replaces one program by a part of itself, by its result or by a
further step of its failure (`Task.shrinks_set`), and such replacements cannot go on for ever
(`Task.shrinks_wf`).
-/

namespace AlertRelay

variable {α : Type}

/-! ### Parts of a program -/

/-- One program is what is left of another after its first effect. -/
inductive Program.Child : Program α → Program α → Prop where
  | next (e : Effect) (k : e.Reply → Program α) (r : e.Reply) : Child (k r) (.step e k)

theorem Program.child_wf : WellFounded (Program.Child (α := α)) := by
  refine ⟨fun p => ?_⟩
  induction p with
  | done a => exact ⟨_, fun _ h => nomatch h⟩
  | fail f => exact ⟨_, fun _ h => nomatch h⟩
  | step e k ih =>
    refine ⟨_, fun q h => ?_⟩
    cases h with
    | next _ _ r => exact ih r

/-- One program is what is left of another after some of its effects. -/
abbrev Program.Part : Program α → Program α → Prop := Relation.TransGen Program.Child

/-- What is left after a turn is a part of the program. -/
theorem Program.part_of_advance {p q : Program α} {w w' : World} {length : Seconds}
    {onCancel : List Entry} (h : p.advance w = (.waiting length onCancel q, w')) : Part q p := by
  induction p generalizing w with
  | done a => simp [advance] at h
  | fail f => simp [advance] at h
  | step e k ih =>
    cases e <;> simp only [advance] at h
    case pause =>
      injection h with h _
      injection h with _ _ h
      exact h ▸ .single (.next _ k ())
    all_goals exact (ih _ h).tail (.next _ k _)

/-! ### Programs among others -/

/-- A program among others: it has ended, it waits, or it has failed and its failure is being told.
A wait has the number of the turn in which it began. -/
inductive Task (α : Type) where
  | ended (a : α)
  | waiting (ends : Moment) (number : Nat) (onCancel : List Entry) (rest : Program α)
  | failing (ends : Moment) (number : Nat) (told : Bool) (f : Failure)

namespace Task

/-- Where a program stands after a turn at a moment; a wait that begins takes the number of the
turn. -/
def ofProgress (now : Moment) (number : Nat) : Program.Progress α → Task α
  | .ended (.ok a) => .ended a
  | .ended (.error f) => .failing now number false f
  | .waiting length onCancel rest => .waiting (now.after length) number onCancel rest

/-- Where a program stands after a turn, compared with before: it has ended or failed, a part of
what was left is left, or its failure is told. -/
inductive Smaller : Task α → Task α → Prop where
  | ended (a : α) (m : Moment) (n : Nat) (c : List Entry) (p : Program α) :
    Smaller (.ended a) (.waiting m n c p)
  | failed (f : Failure) (m m' : Moment) (n n' : Nat) (c : List Entry) (p : Program α) :
    Smaller (.failing m' n' false f) (.waiting m n c p)
  | part {p q : Program α} (h : Program.Part q p) (m m' : Moment) (n n' : Nat) (c c' : List Entry) :
    Smaller (.waiting m' n' c' q) (.waiting m n c p)
  | told (f : Failure) (m m' : Moment) (n n' : Nat) :
    Smaller (.failing m' n' true f) (.failing m n false f)

/-- A turn makes a program smaller. -/
theorem smaller_ofProgress (m now : Moment) (n number : Nat) (c : List Entry) (p : Program α)
    (w : World) : Smaller (ofProgress now number (p.advance w).1) (.waiting m n c p) := by
  match h : p.advance w with
  | (.ended (.ok a), _) => exact .ended a m n c p
  | (.ended (.error f), _) => exact .failed f m now n number c p
  | (.waiting _ _ q, _) => exact .part (Program.part_of_advance h) ..

theorem smaller_wf : WellFounded (Smaller (α := α)) := by
  have ended_acc (a : α) : Acc Smaller (.ended a) := ⟨_, fun _ h => nomatch h⟩
  have told_acc (m : Moment) (n : Nat) (f : Failure) :
      Acc (Smaller (α := α)) (.failing m n true f) :=
    ⟨_, fun _ h => nomatch h⟩
  have failing_acc (m : Moment) (n : Nat) (told : Bool) (f : Failure) :
      Acc (Smaller (α := α)) (.failing m n told f) := by
    refine ⟨_, fun t h => ?_⟩
    cases h with
    | told _ _ m' _ n' => exact told_acc m' n' f
  refine ⟨fun t => ?_⟩
  cases t with
  | ended a => exact ended_acc a
  | failing m n told f => exact failing_acc m n told f
  | waiting m n c p =>
    induction Program.child_wf.transGen.apply p generalizing m n c with
    | intro p _ ih =>
      refine ⟨_, fun t h => ?_⟩
      cases h with
      | ended a => exact ended_acc a
      | failed f _ m' _ n' => exact failing_acc m' n' false f
      | part h => exact ih _ h ..

/-- One program of several has had a turn. -/
inductive Shrinks : List (Task α) → List (Task α) → Prop where
  | head {t t' : Task α} (h : Smaller t' t) (ts : List (Task α)) : Shrinks (t' :: ts) (t :: ts)
  | tail (t : Task α) {ts ts' : List (Task α)} (h : Shrinks ts' ts) : Shrinks (t :: ts') (t :: ts)

theorem shrinks_acc_cons {t : Task α} (ht : Acc Smaller t) {ts : List (Task α)}
    (hts : Acc Shrinks ts) : Acc Shrinks (t :: ts) := by
  induction ht generalizing ts with
  | intro t _ iht =>
    induction hts with
    | intro ts hts ihts =>
      refine ⟨_, fun l hl => ?_⟩
      cases hl with
      | head h => exact iht _ h ⟨_, hts⟩
      | tail _ h => exact ihts _ h

theorem shrinks_wf : WellFounded (Shrinks (α := α)) := by
  refine ⟨fun ts => ?_⟩
  induction ts with
  | nil => exact ⟨_, fun _ h => nomatch h⟩
  | cons t ts ih => exact shrinks_acc_cons (smaller_wf.apply t) ih

/-- A smaller program in the place of another makes the list shrink. -/
theorem shrinks_set {ts : List (Task α)} {i : Nat} {t t' : Task α} (h : ts[i]? = some t)
    (hs : Smaller t' t) : Shrinks (ts.set i t') ts := by
  induction ts generalizing i with
  | nil => simp at h
  | cons s ts ih =>
    cases i with
    | zero =>
      simp only [List.getElem?_cons_zero, Option.some.injEq] at h
      exact h ▸ .head hs ts
    | succ i => exact .tail s (ih (by simpa using h))

end Task

structure Remaining (α : Type) where
  tasks : List (Task α)

instance : WellFoundedRelation (Remaining α) :=
  ⟨InvImage Task.Shrinks Remaining.tasks, InvImage.wf _ Task.shrinks_wf⟩

/-! ### The run -/

structure Pool (α : Type) where
  tasks : List (Task α) := []
  turns : Nat := 0
  world : World

namespace Pool

/-- The code with which a program has asked for the end of the process. -/
def stopOf? : Program.Progress α → Option Value
  | .ended (.error (.stop code)) => some code
  | _ => none

def afterTurn (pool : Pool α) (world : World) (tasks : List (Task α)) : Pool α :=
  ⟨tasks, pool.turns + 1, world⟩

/-- When the wait of a task ends, and its number. -/
def waitOf? : Task α → Option (Moment × Nat)
  | .ended _ => none
  | .waiting ends number _ _ => some (ends, number)
  | .failing ends number _ _ => some (ends, number)

/-- Whether one wait comes before another: it ends earlier, or they end together and it began
earlier. -/
def comesBefore (ends : Moment) (number : Nat) (ends' : Moment) (number' : Nat) : Bool :=
  ends.le ends' && (!ends'.le ends || number < number')

/-- The wait that comes first: the index of its task, its end and its number. -/
def firstWait? : List (Task α) → Option (Nat × Moment × Nat)
  | [] => none
  | t :: tasks =>
    match waitOf? t, firstWait? tasks with
    | none, rest => rest.map fun (i, w) => (i + 1, w)
    | some (ends, number), none => some (0, ends, number)
    | some (ends, number), some (i, ends', number') =>
      if comesBefore ends number ends' number' then some (0, ends, number)
      else some (i + 1, ends', number')

structure Sleeper where
  task : Nat
  ends : Moment
  number : Nat
  onCancel : List Entry

/-- The programs that wait, in order, when the first of the tasks has index `i`. -/
def sleepers (i : Nat) : List (Task α) → List Sleeper
  | [] => []
  | .waiting ends number onCancel _ :: tasks =>
    ⟨i, ends, number, onCancel⟩ :: sleepers (i + 1) tasks
  | _ :: tasks => sleepers (i + 1) tasks

/-- The order in which the programs that wait are cancelled at a moment: those whose wait is over in
the order of their turns, and then the others. -/
def cancelOrder (now : Moment) (tasks : List (Task α)) : List Sleeper :=
  let waiting := sleepers 0 tasks
  (waiting.filter (·.ends.hasCome now)).mergeSort (·.number ≤ ·.number) ++
    waiting.filter (!·.ends.hasCome now)

def cancelAll (now : Moment) (tasks : List (Task α)) (w : World) : World :=
  (cancelOrder now tasks).foldl (fun w s => s.onCancel.foldl World.see w) w

def results : List (Task α) → List α
  | [] => []
  | .ended a :: tasks => a :: results tasks
  | _ :: tasks => results tasks

/-- Lets programs take turns until all have ended or a failure breaks the run. -/
def run (pool : Pool α) : Except Failure (List α) × World :=
  match firstWait? pool.tasks with
  | none => (.ok (results pool.tasks), pool.world)
  | some (i, _) =>
    match _h : pool.tasks[i]? with
    | some (.waiting ends _ _ rest) =>
      let turn := rest.advance pool.world
      match stopOf? turn.1 with
      | some code => (.error (.stop code), turn.2)
      | none =>
        (pool.afterTurn turn.2 (pool.tasks.set i (.ofProgress ends pool.turns turn.1))).run
    | some (.failing ends _ false f) =>
      (pool.afterTurn pool.world (pool.tasks.set i (.failing ends pool.turns true f))).run
    | some (.failing now _ true f) => (.error f, cancelAll now pool.tasks pool.world)
    | _ => (.ok (results pool.tasks), pool.world)
termination_by Remaining.mk pool.tasks
decreasing_by
  · exact Task.shrinks_set ‹_› (Task.smaller_ofProgress ..)
  · exact Task.shrinks_set ‹_› (.told ..)

/-- Starts programs in order, each up to its first wait, and then lets them take turns. -/
def start (pool : Pool α) : List (Program α) → Except Failure (List α) × World
  | [] => pool.run
  | p :: ps =>
    let turn := p.advance pool.world
    match stopOf? turn.1 with
    | some code => (.error (.stop code), turn.2)
    | none =>
      (pool.afterTurn turn.2 (pool.tasks ++ [.ofProgress (.at 0) pool.turns turn.1])).start ps

end Pool

/-- Runs programs side by side: their results in order, or the failure that broke the run. -/
def runTogether (ps : List (Program α)) (w : World) : Except Failure (List α) × World :=
  Pool.start { world := w } ps

end AlertRelay
