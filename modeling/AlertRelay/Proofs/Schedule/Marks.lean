import AlertRelay.Dispatch
import AlertRelay.Proofs.Run
import AlertRelay.Proofs.Schedule.Stories

/-!
# What an observer sees of a schedule

A delivery may show that it starts, that it finishes and, if it is cancelled while it waits, that it
is cancelled (`Program.Shows`). When every program of a run shows this, the marks that the run
leaves in the trace are what happened to the programs, in order:

* `History.marks` — side by side;
* `marks_run_inTurn` — one after another, where each starts and finishes before the next.
-/

namespace AlertRelay

variable {α β : Type}

/-! ## Marks -/

/-- Whether an entry says that a delivery starts, finishes or is cancelled. -/
def Entry.isMark : Entry → Bool
  | .start _ => true
  | .finish _ _ _ => true
  | .cancelled _ => true
  | _ => false

namespace World

def marks (w : World) : List Entry := w.trace.filter Entry.isMark

theorem marks_see (w : World) (e : Entry) :
    (w.see e).marks = w.marks ++ [e].filter Entry.isMark := by
  simp [marks]

theorem marks_see_of_not_mark {e : Entry} (h : e.isMark = false) (w : World) :
    (w.see e).marks = w.marks := by
  simp [marks_see, h]

theorem marks_foldl_see (es : List Entry) (w : World) :
    (es.foldl see w).marks = w.marks ++ es.filter Entry.isMark := by
  induction es generalizing w with
  | nil => exact (List.append_nil _).symm
  | cons e es ih =>
    rw [List.foldl_cons, ih, marks_see, List.append_assoc, ← List.filter_append]
    rfl

end World

/-- What an observer sees of what happens to the deliveries of a message by named handlers. -/
def TaskEvent.entry (names : Nat → Text) (datacenter message : Text) : TaskEvent → Entry
  | started i => .start (names i)
  | ended i => .finish (names i) datacenter message
  | failed i _ => .finish (names i) datacenter message
  | cancelled i => .cancelled (names i)

def Effect.isSilent : Effect → Bool
  | .note e => !e.isMark
  | .pause _ _ => false
  | _ => true

theorem World.marks_perform {e : Effect} (h : e.isSilent = true) (w : World) :
    (w.perform e).2.marks = w.marks := by
  rw [marks, trace_perform, List.filter_append, ← marks]
  cases e with
  | note e =>
    rw [Effect.isSilent, Bool.not_eq_true'] at h
    simp [shown, h]
  | pause => cases h
  | acquire slot timeout =>
    cases hs : w.sessions.current? slot <;> simp [shown, hs, Entry.isMark]
  | release slot =>
    cases hs : w.sessions.current? slot <;> simp [shown, hs, Entry.isMark]
  | _ => simp [shown, Entry.isMark]

/-! ## Programs that show what they do -/

namespace Program

/-- A program neither leaves a mark nor waits. -/
def Quiet : Program α → Prop
  | done _ => True
  | fail _ => True
  | step e next => e.isSilent = true ∧ ∀ r, (next r).Quiet

/-- A program shows that it finishes and is quiet from then on. Up to there it may wait, and shows
it if it is cancelled while it does. -/
def Finishing (name datacenter message : Text) : Program α → Prop
  | done _ => False
  | fail _ => False
  | step (.note e) next =>
    e = .finish name datacenter message ∧ (next ()).Quiet ∨
      e.isMark = false ∧ (next ()).Finishing name datacenter message
  | step (.pause _ onCancel) next =>
    onCancel.filter Entry.isMark = [.cancelled name] ∧
      (next ()).Finishing name datacenter message
  | step _ next => ∀ r, (next r).Finishing name datacenter message

/-- A program shows first that it starts, and then that it finishes or is cancelled. -/
def Shows (name datacenter message : Text) (p : Program α) : Prop :=
  ∃ next, p = step (.note (.start name)) next ∧ (next ()).Finishing name datacenter message

variable {name datacenter message : Text}

/-! ### Continuations and tries -/

theorem quiet_bind {p : Program α} {f : α → Program β} (h : p.Quiet) (hf : ∀ a, (f a).Quiet) :
    (p >>= f).Quiet := by
  rw [bind_eq]
  induction p with
  | done a => exact hf a
  | fail x => trivial
  | step e next ih => exact ⟨h.1, fun r => ih r (h.2 r)⟩

theorem quiet_attempt {p : Program α} (h : p.Quiet) : p.attempt.Quiet := by
  induction p with
  | done a => trivial
  | fail x => cases x <;> trivial
  | step e next ih => exact ⟨h.1, fun r => ih r (h.2 r)⟩

theorem finishing_bind {p : Program α} {f : α → Program β}
    (h : p.Finishing name datacenter message) (hf : ∀ a, (f a).Quiet) :
    (p >>= f).Finishing name datacenter message := by
  rw [bind_eq]
  induction p with
  | done a => exact h.elim
  | fail x => exact h.elim
  | step e next ih =>
    cases e with
    | note e =>
      rcases h with ⟨rfl, hq⟩ | ⟨he, hnext⟩
      · exact .inl ⟨rfl, quiet_bind hq hf⟩
      · exact .inr ⟨he, ih () hnext⟩
    | pause => exact ⟨h.1, ih () h.2⟩
    | _ => exact fun r => ih r (h r)

theorem finishing_attempt {p : Program α} (h : p.Finishing name datacenter message) :
    p.attempt.Finishing name datacenter message := by
  induction p with
  | done a => exact h.elim
  | fail x => exact h.elim
  | step e next ih =>
    cases e with
    | note e =>
      rcases h with ⟨rfl, hq⟩ | ⟨he, hnext⟩
      · exact .inl ⟨rfl, quiet_attempt hq⟩
      · exact .inr ⟨he, ih () hnext⟩
    | pause => exact ⟨h.1, ih () h.2⟩
    | _ => exact fun r => ih r (h r)

/-! ### Runs and turns -/

theorem marks_run_quiet {p : Program α} (h : p.Quiet) (w : World) :
    (p.run w).2.marks = w.marks := by
  induction p generalizing w with
  | done a => rfl
  | fail f => rfl
  | step e next ih => exact (ih _ (h.2 _) _).trans (World.marks_perform h.1 w)

theorem marks_run_finishing {p : Program α} (h : p.Finishing name datacenter message) (w : World) :
    (p.run w).2.marks = w.marks ++ [.finish name datacenter message] := by
  induction p generalizing w with
  | done a => exact h.elim
  | fail f => exact h.elim
  | step e next ih =>
    have silent (hs : e.isSilent = true) (hnext : ∀ r, (next r).Finishing name datacenter message) :
        ((step e next).run w).2.marks = w.marks ++ [.finish name datacenter message] := by
      rw [run_step, ih _ (hnext _), World.marks_perform hs]
    cases e with
    | note e =>
      rcases h with ⟨rfl, hq⟩ | ⟨he, hnext⟩
      · exact (marks_run_quiet hq _).trans (World.marks_see _ _)
      · exact silent (by simp [Effect.isSilent, he]) fun _ => hnext
    | pause => exact ih () h.2 w
    | _ => exact silent rfl h

/-- A program that shows what it does leaves two marks when it runs alone. -/
theorem marks_run_shows {p : Program α} (h : p.Shows name datacenter message) (w : World) :
    (p.run w).2.marks = w.marks ++ [.start name, .finish name datacenter message] := by
  obtain ⟨next, rfl, hnext⟩ := h
  have hmarks := marks_run_finishing hnext (w.see (.start name))
  rw [World.marks_see, List.append_assoc] at hmarks
  exact hmarks

/-- A quiet program comes to its end in one turn. -/
theorem advance_quiet {p : Program α} (h : p.Quiet) (w : World) :
    ∃ x w', p.advance w = (.ended x, w') ∧ w'.marks = w.marks := by
  induction p generalizing w with
  | done a => exact ⟨_, w, rfl, rfl⟩
  | fail f => exact ⟨_, w, rfl, rfl⟩
  | step e next ih =>
    obtain ⟨x, w', hnext, hmarks⟩ := ih _ (h.2 (w.perform e).1) (w.perform e).2
    refine ⟨x, w', ?_, hmarks.trans (World.marks_perform h.1 w)⟩
    cases e with
    | pause => cases h.1
    | _ => exact hnext

/-- How far a program came that shows what it does: it has finished, or it waits and is still to
finish. -/
def Progress.Finishing (name datacenter message : Text) : Progress α → Prop
  | .ended _ => True
  | .waiting _ onCancel p =>
    onCancel.filter Entry.isMark = [.cancelled name] ∧ p.Finishing name datacenter message

/-- A turn leaves the marks of what happens in it. -/
theorem advance_finishing {p : Program α} {names : Nat → Text} {i : Nat}
    (h : p.Finishing (names i) datacenter message) (w : World) :
    (p.advance w).1.Finishing (names i) datacenter message ∧
      (p.advance w).2.marks = w.marks ++
        (TaskEvent.ofProgress i (p.advance w).1).map
          (TaskEvent.entry names datacenter message) := by
  induction p generalizing w with
  | done a => exact h.elim
  | fail f => exact h.elim
  | step e next ih =>
    have silent (hs : e.isSilent = true)
        (hnext : ∀ r, (next r).Finishing (names i) datacenter message) :
        (step e next).advance w = (next (w.perform e).1).advance (w.perform e).2 →
        ((step e next).advance w).1.Finishing (names i) datacenter message ∧
          ((step e next).advance w).2.marks = w.marks ++
            (TaskEvent.ofProgress i ((step e next).advance w).1).map
              (TaskEvent.entry names datacenter message) := by
      intro hadvance
      rw [hadvance, ← World.marks_perform hs w]
      exact ih _ (hnext _) _
    cases e with
    | note e =>
      rcases h with ⟨rfl, hq⟩ | ⟨he, hnext⟩
      · obtain ⟨x, w', hadvance, hmarks⟩ := advance_quiet hq (w.see _)
        rw [show (step _ next).advance w = (.ended x, w') from hadvance, hmarks, World.marks_see]
        cases x <;> exact ⟨trivial, rfl⟩
      · exact silent (by simp [Effect.isSilent, he]) (fun _ => hnext) rfl
    | pause => exact ⟨h, (List.append_nil _).symm⟩
    | _ => exact silent rfl h rfl

theorem advance_shows {p : Program α} {names : Nat → Text} {i : Nat}
    (h : p.Shows (names i) datacenter message) (w : World) :
    (p.advance w).1.Finishing (names i) datacenter message ∧
      (p.advance w).2.marks = w.marks ++
        (.started i :: TaskEvent.ofProgress i (p.advance w).1).map
          (TaskEvent.entry names datacenter message) := by
  obtain ⟨next, rfl, hnext⟩ := h
  obtain ⟨hrest, hmarks⟩ := advance_finishing hnext (w.see (.start (names i)))
  refine ⟨hrest, hmarks.trans ?_⟩
  rw [World.marks_see, List.append_assoc]
  rfl

end Program

/-! ## Side by side -/

namespace Stand

/-- A program of a schedule shows what it has left to do. -/
def Shows (name datacenter message : Text) : Stand α → Prop
  | .unstarted p => p.Shows name datacenter message
  | .task (.waiting _ _ onCancel p) =>
    onCancel.filter Entry.isMark = [.cancelled name] ∧ p.Finishing name datacenter message
  | _ => True

theorem shows_ofProgress {name datacenter message : Text} {progress : Program.Progress α}
    (h : progress.Finishing name datacenter message) (now : Moment) (number : Nat) :
    (Stand.task (.ofProgress now number progress)).Shows name datacenter message := by
  rcases progress with (f | a) | _
  · trivial
  · trivial
  · exact h

end Stand

namespace Schedule

open Pool

variable {names : Nat → Text} {datacenter message : Text} {w : World}

/-- What happened has left its marks, and the programs of a schedule show what they have left to
do. -/
structure Marked (names : Nat → Text) (datacenter message : Text) (w : World)
    (events : List TaskEvent) (s : Schedule α) : Prop where
  marks : s.pool.world.marks = w.marks ++ events.map (TaskEvent.entry names datacenter message)
  shows_stand : ∀ i (stand : Stand α), s.stands[i]? = some stand →
    stand.Shows (names i) datacenter message

namespace Marked

variable {s s' : Schedule α} {es es' : List TaskEvent}

/-- The turn of the program that has it next leaves the marks of what happens in it. -/
theorem advance (h : s.Marked names datacenter message w es) {i : Nat} {now : Moment}
    {p : Program α} (hnext : s.Next i now p es') :
    (p.advance s.pool.world).1.Finishing (names i) datacenter message ∧
      (p.advance s.pool.world).2.marks = w.marks ++
        (es ++ (es' ++ TaskEvent.ofProgress i (p.advance s.pool.world).1)).map
          (TaskEvent.entry names datacenter message) := by
  rw [List.map_append, ← List.append_assoc, ← h.marks]
  rcases hnext.stand with ⟨hi, -, rfl⟩ | ⟨_, _, -, -, hi, rfl⟩
  · exact Program.advance_shows (h.shows_stand i _ hi) _
  · exact Program.advance_finishing (h.shows_stand i _ hi).2 _

theorem turn (h : s.Marked names datacenter message w es) (turn : s.Turn es' s') :
    s'.Marked names datacenter message w (es ++ es') := by
  cases turn with
  | @run i now p _ hnext _ =>
    obtain ⟨hrest, hmarks⟩ := h.advance hnext
    refine ⟨?_, forall_stands_set (hnext.stands_put _ _) ?_ ?_⟩
    · rw [put_world]
      exact hmarks
    · exact Stand.shows_ofProgress hrest _ _
    · exact fun j stand hj _ => h.shows_stand j stand hj
  | @tell i _ _ f hnext =>
    refine ⟨?_, forall_stands_set (hnext.stands_put _ _) ?_ ?_⟩
    · rw [put_world, List.append_nil]
      exact h.marks
    · trivial
    · exact fun j stand hj _ => h.shows_stand j stand hj

end Marked

/-- Cancelling leaves the marks of the programs that wait, in the order in which they are
cancelled. -/
theorem marks_cancelAll {tasks : List (Task α)}
    (h : ∀ i t, tasks[i]? = some t → (Stand.task t).Shows (names i) datacenter message)
    (now : Moment) (w : World) :
    (cancelAll now tasks w).marks =
      w.marks ++ (cancelOrder now tasks).map fun s => .cancelled (names s.task) := by
  have hsleepers : ∀ s ∈ cancelOrder now tasks,
      s.onCancel.filter Entry.isMark = [.cancelled (names s.task)] := by
    intro s hs
    obtain ⟨rest, hrest⟩ := mem_cancelOrder.mp hs
    exact (h s.task _ hrest).1
  rw [cancelAll]
  generalize cancelOrder now tasks = order at hsleepers ⊢
  induction order generalizing w with
  | nil => exact (List.append_nil _).symm
  | cons s order ih =>
    obtain ⟨hs, horder⟩ := List.forall_mem_cons.mp hsleepers
    rw [List.foldl_cons, ih _ horder, World.marks_foldl_see, hs, List.append_assoc]
    rfl

/-- In the end the marks are what happened. -/
theorem Marked.marks_over {s : Schedule α} {es es' : List TaskEvent}
    (h : s.Marked names datacenter message w es) {out : Except Failure (List α) × World}
    (hover : s.Over es' out) :
    out.2.marks = w.marks ++ (es ++ es').map (TaskEvent.entry names datacenter message) := by
  cases hover with
  | ended hall hnone =>
    rw [List.append_nil]
    exact h.marks
  | stopped hnext hstop => exact (h.advance hnext).2
  | broken hnext =>
    have htasks : ∀ i t, s.pool.tasks[i]? = some t →
        (Stand.task t).Shows (names i) datacenter message :=
      fun i t hi => h.shows_stand i _ (getElem?_stands_of_tasks hi)
    rw [List.map_append, ← List.append_assoc, ← h.marks, marks_cancelAll htasks, List.map_map]
    rfl

end Schedule

/-- The marks of a run of programs that show what they do are what happened to the programs. -/
theorem History.marks {names : Nat → Text} {datacenter message : Text} {ps : List (Program α)}
    {w : World} {events : List TaskEvent} {out : Except Failure (List α) × World}
    (history : History ps w events out)
    (hshows : ∀ i (p : Program α), ps[i]? = some p → p.Shows (names i) datacenter message) :
    out.2.marks = w.marks ++ events.map (TaskEvent.entry names datacenter message) := by
  obtain ⟨turns, hover⟩ := history
  have hinit : (Schedule.ofPrograms ps w).Marked names datacenter message w [] := by
    refine ⟨(List.append_nil _).symm, fun i stand hi => ?_⟩
    obtain ⟨p, hp, rfl⟩ := Schedule.exists_unstarted_of_stands hi
    exact hshows i p hp
  exact (turns.invariant (I := fun es s => s.Marked names datacenter message w es) hinit
    fun _ _ _ _ h t => h.turn t).marks_over hover

/-! ## One after another -/

namespace TaskEvent

/-- Each of `n` programs starts and ends before the next. -/
def onceEach (n : Nat) : List TaskEvent := (List.range n).flatMap fun i => [started i, ended i]

theorem map_entry_onceEach_succ (names : Nat → Text) (datacenter message : Text) (n : Nat) :
    (onceEach (n + 1)).map (entry names datacenter message) =
      [.start (names 0), .finish (names 0) datacenter message] ++
        (onceEach n).map (entry (fun i => names (i + 1)) datacenter message) := by
  simp [onceEach, List.range_succ_eq_map, List.flatMap_map, List.map_flatMap, entry]

/-- What happens is what happens to each program, apart from the order. -/
theorem perm_flatMap_about (events : List TaskEvent) (n : Nat) :
    (events.filter (·.task < n)).Perm ((List.range n).flatMap (about events)) := by
  induction n with
  | zero => simp
  | succ n ih =>
    rw [List.range_succ, List.flatMap_append, List.flatMap_singleton]
    refine .trans ?_ (ih.append_right _)
    -- What happens to the programs up to `n` parts into what happens to those before and to `n`.
    refine (List.filter_append_perm (fun e => decide (e.task < n)) _).symm.trans ?_
    rw [List.filter_filter, List.filter_filter, about]
    refine List.Perm.of_eq ?_
    congr 1
    · exact List.filter_congr fun e _ => by grind
    · exact List.filter_congr fun e _ => by grind

/-- When each of `n` programs starts and ends once, that is all that happens. -/
theorem perm_onceEach {events : List TaskEvent} {n : Nat} (htask : ∀ e ∈ events, e.task < n)
    (habout : ∀ i < n, about events i = [started i, ended i]) :
    events.Perm (onceEach n) := by
  have hall : events.filter (·.task < n) = events :=
    List.filter_eq_self.mpr fun e he => by simpa using htask e he
  have hflat : (List.range n).flatMap (about events) = onceEach n :=
    List.flatMap_congr fun i hi => habout i (List.mem_range.mp hi)
  have hperm := perm_flatMap_about events n
  rwa [hall, hflat] at hperm

end TaskEvent

/-- One after another, programs that show what they do leave the marks of starting and finishing
each before the next. -/
theorem marks_run_inTurn {names : Nat → Text} {datacenter message : Text}
    {ps : List (Program α)} {w w' : World} {as : List α}
    (hrun : (Program.inTurn ps).run w = (.ok as, w'))
    (hshows : ∀ i (p : Program α), ps[i]? = some p → p.Shows (names i) datacenter message) :
    w'.marks = w.marks ++
      (TaskEvent.onceEach ps.length).map (TaskEvent.entry names datacenter message) := by
  induction ps generalizing names w w' as with
  | nil =>
    cases hrun
    exact (List.append_nil _).symm
  | cons p ps ih =>
    rw [Program.inTurn] at hrun
    rw [List.length_cons, TaskEvent.map_entry_onceEach_succ, ← List.append_assoc,
      ← Program.marks_run_shows (hshows 0 p rfl) w]
    match hp : p.run w with
    | (.error f, w₁) =>
      rw [Program.run_bind_error hp] at hrun
      cases hrun
    | (.ok a, w₁) =>
      rw [Program.run_bind_ok hp] at hrun
      match hps : (Program.inTurn ps).run w₁ with
      | (.error f, w₂) =>
        rw [Program.run_bind_error hps] at hrun
        cases hrun
      | (.ok rest, w₂) =>
        rw [Program.run_bind_ok hps] at hrun
        cases hrun
        exact ih hps fun i => hshows (i + 1)

end AlertRelay
