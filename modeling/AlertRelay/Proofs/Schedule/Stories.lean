import AlertRelay.Proofs.Schedule.Turns

/-!
# What happens to each program

What has happened to one of several programs, in order, tells where it stands: it was started once,
and it has ended once, has failed once or still waits (`Schedule.Traced`). Every turn keeps this up,
so at the end of a run

* nothing is left to be told of a run that comes to results but starts and ends (`story_of_ended`);
* when a failure breaks the run, each program has ended, has failed or is cancelled, and the
  cancellations come last (`story_of_broken`).
-/

namespace AlertRelay

variable {α : Type}

namespace Schedule

open Pool

/-! ## A turn changes where one program stands -/

section Put

variable {s : Schedule α} {i : Nat} {now : Moment} {p : Program α} {es : List TaskEvent}

@[simp] theorem put_world (s : Schedule α) (i : Nat) (t : Task α) (w : World) :
    (s.put i t w).pool.world = w := by
  unfold put
  split <;> rfl

@[simp] theorem put_turns (s : Schedule α) (i : Nat) (t : Task α) (w : World) :
    (s.put i t w).pool.turns = s.pool.turns + 1 := by
  unfold put
  split <;> rfl

@[simp] theorem stands_ofPrograms (ps : List (Program α)) (w : World) :
    (ofPrograms ps w).stands = ps.map .unstarted := rfl

/-- At the beginning all programs are still to be started. -/
theorem exists_unstarted_of_stands {ps : List (Program α)} {w : World} {stand : Stand α}
    (hi : (ofPrograms ps w).stands[i]? = some stand) :
    ∃ p, ps[i]? = some p ∧ stand = .unstarted p := by
  rw [stands_ofPrograms, List.getElem?_map] at hi
  obtain ⟨p, hp, hstand⟩ := Option.map_eq_some_iff.mp hi
  exact ⟨p, hp, hstand.symm⟩

theorem getElem?_stands_of_tasks {t : Task α} (h : s.pool.tasks[i]? = some t) :
    s.stands[i]? = some (.task t) := by
  rw [stands, List.getElem?_append_left (by simpa using (List.getElem?_eq_some_iff.mp h).1),
    List.getElem?_map, h]
  rfl

/-- When all programs are started, they stand where the tasks of the pool do. -/
theorem stands_of_all_started (h : s.unstarted = []) : s.stands = s.pool.tasks.map .task := by
  simp [stands, h]

theorem stands_put_of_all_started (h : s.unstarted = []) (i : Nat) (t : Task α) (w : World) :
    (s.put i t w).stands = s.stands.set i (.task t) := by
  simp [stands, put, h, afterTurn, List.map_set]

/-- The program that has the next turn is still to be started, or it waits. -/
theorem Next.stand (h : s.Next i now p es) :
    (s.stands[i]? = some (.unstarted p) ∧ now = .at 0 ∧ es = [.started i]) ∨
      ∃ number onCancel, s.unstarted = [] ∧ firstWait? s.pool.tasks = some (i, now, number) ∧
        s.stands[i]? = some (.task (.waiting now number onCancel p)) ∧ es = [] := by
  cases h with
  | start hrest =>
    refine .inl ⟨?_, rfl, rfl⟩
    simp [stands, hrest]
  | goOn hall hfirst htask =>
    exact .inr ⟨_, _, hall, hfirst, getElem?_stands_of_tasks htask, rfl⟩

/-- The turn of a program changes where that program stands and nothing else. -/
theorem Next.stands_put (h : s.Next i now p es) (t : Task α) (w : World) :
    (s.put i t w).stands = s.stands.set i (.task t) := by
  cases h with
  | start hrest => simp [stands, put, hrest, afterTurn]
  | goOn hall _ _ => exact stands_put_of_all_started hall i t w

theorem Next.lt_length (h : s.Next i now p es) : i < s.stands.length := by
  rcases h.stand with ⟨hi, -⟩ | ⟨_, _, -, -, hi, -⟩ <;>
    exact (List.getElem?_eq_some_iff.mp hi).1

/-- Programs that are to be started after a turn were to be started before. -/
theorem unstarted_ne_nil_of_put {t : Task α} {w : World} (h : (s.put i t w).unstarted ≠ []) :
    s.unstarted ≠ [] := by
  intro hall
  simp [put, hall] at h

variable {number : Nat} {told : Bool} {f : Failure}

theorem FailsNext.stand (h : s.FailsNext i now number told f) :
    s.stands[i]? = some (.task (.failing now number told f)) :=
  getElem?_stands_of_tasks h.failing

theorem FailsNext.stands_put (h : s.FailsNext i now number told f) (t : Task α) (w : World) :
    (s.put i t w).stands = s.stands.set i (.task t) :=
  stands_put_of_all_started h.all_started i t w

end Put

/-- After a task was put in the place of one program, that program stands there and the others
stand where they did. -/
theorem stand_of_set {s s' : Schedule α} {i j : Nat} {t : Task α} {stand : Stand α}
    (hs : s'.stands = s.stands.set i (.task t)) (hj : s'.stands[j]? = some stand) :
    j = i ∧ stand = .task t ∨ j ≠ i ∧ s.stands[j]? = some stand := by
  rw [hs] at hj
  by_cases hij : j = i
  · subst hij
    rw [List.getElem?_set] at hj
    split at hj
    · split at hj
      · exact .inl ⟨rfl, (Option.some.inj hj).symm⟩
      · cases hj
    · exact absurd rfl ‹_›
  · rw [List.getElem?_set_ne (Ne.symm hij)] at hj
    exact .inr ⟨hij, hj⟩

/-- What holds of the task that was put in the place of one program and of where the others stand
holds of where all stand. -/
theorem forall_stands_set {s s' : Schedule α} {i : Nat} {t : Task α}
    {P : Nat → Stand α → Prop} (hs : s'.stands = s.stands.set i (.task t)) (hself : P i (.task t))
    (hothers : ∀ j stand, s.stands[j]? = some stand → j ≠ i → P j stand) (j : Nat)
    (stand : Stand α) (hj : s'.stands[j]? = some stand) : P j stand := by
  rcases stand_of_set hs hj with ⟨rfl, rfl⟩ | ⟨hne, hj⟩
  · exact hself
  · exact hothers j stand hj hne

/-- The number of programs stays the same. -/
theorem Turns.length_stands {s s' : Schedule α} {es : List TaskEvent} (turns : s.Turns es s') :
    s'.stands.length = s.stands.length := by
  refine turns.invariant (I := fun _ t => t.stands.length = s.stands.length) rfl ?_
  intro es t es' t' ih turn
  cases turn with
  | run hnext _ => rw [hnext.stands_put, List.length_set, ih]
  | tell hnext => rw [hnext.stands_put, List.length_set, ih]

theorem Turns.length_stands_ofPrograms {ps : List (Program α)} {w : World} {s : Schedule α}
    {es : List TaskEvent} (turns : (ofPrograms ps w).Turns es s) :
    s.stands.length = ps.length := by
  rw [turns.length_stands, stands_ofPrograms, List.length_map]

end Schedule

/-! ## The story of a program -/

/-- What has happened to a program, told from where it stands. -/
def Stand.story (i : Nat) : Stand α → List TaskEvent
  | .unstarted _ => []
  | .task (.ended _) => [.started i, .ended i]
  | .task (.waiting _ _ _ _) => [.started i]
  | .task (.failing _ _ _ f) => [.started i, .failed i f]

namespace TaskEvent

/-- What happens to program `i`. -/
def about (events : List TaskEvent) (i : Nat) : List TaskEvent :=
  events.filter (·.task == i)

theorem about_append (es es' : List TaskEvent) (i : Nat) :
    about (es ++ es') i = about es i ++ about es' i := List.filter_append ..

theorem mem_about_task {e : TaskEvent} {events : List TaskEvent} (h : e ∈ events) :
    e ∈ about events e.task := by
  simp [about, h]

theorem task_of_mem_ofProgress {i : Nat} {progress : Program.Progress α} {e : TaskEvent}
    (h : e ∈ ofProgress i progress) : e.task = i := by
  rcases progress with (f | a) | _ <;> simp only [ofProgress, List.mem_singleton] at h
  · rw [h, task]
  · rw [h, task]
  · cases h

theorem about_ofProgress_of_ne {i j : Nat} (h : i ≠ j) (progress : Program.Progress α) :
    about (ofProgress i progress) j = [] := by
  rcases progress with (f | a) | _ <;> simp [about, ofProgress, task, h]

/-- After its turn a program stands where what happened in the turn leaves it. -/
theorem story_ofProgress (i : Nat) (now : Moment) (number : Nat) (progress : Program.Progress α) :
    (Stand.task (.ofProgress now number progress)).story i =
      .started i :: about (ofProgress i progress) i := by
  rcases progress with (f | a) | _ <;> simp [about, ofProgress, task, Task.ofProgress, Stand.story]

/-- Of programs that are cancelled once each, one event is about each. -/
theorem about_cancelled {cancelled : List Nat} (h : cancelled.Nodup) (i : Nat) :
    about (cancelled.map .cancelled) i = if i ∈ cancelled then [.cancelled i] else [] := by
  rw [about, List.filter_map]
  have heq : ((·.task == i) ∘ TaskEvent.cancelled) = (· == i) := rfl
  rw [heq, List.filter_beq, List.Nodup.count h]
  split <;> rfl

end TaskEvent

namespace Schedule

open Pool TaskEvent

/-- What happened to each program tells where it stands. -/
def Traced (events : List TaskEvent) (s : Schedule α) : Prop :=
  ∀ i, about events i = (s.stands[i]?.map (Stand.story i)).getD []

theorem traced_ofPrograms (ps : List (Program α)) (w : World) :
    Traced [] (ofPrograms ps w) := by
  intro i
  rw [stands_ofPrograms, List.getElem?_map]
  cases ps[i]? <;> rfl

/-- A turn keeps up what is told of each program. -/
theorem Traced.turn {s s' : Schedule α} {es es' : List TaskEvent} (h : Traced es s)
    (turn : s.Turn es' s') : Traced (es ++ es') s' := by
  intro j
  rw [about_append, h j]
  cases turn with
  | @run i now p es' hnext _ =>
    rw [hnext.stands_put, about_append]
    by_cases hj : i = j
    · -- Its story begins when it is started, and goes on with what happens at the end of the turn.
      subst hj
      rw [List.getElem?_set_self hnext.lt_length, Option.map_some, Option.getD_some,
        story_ofProgress]
      rcases hnext.stand with ⟨hi, -, rfl⟩ | ⟨_, _, -, -, hi, rfl⟩
      · simp [hi, Stand.story, about, task]
      · simp [hi, Stand.story, about]
    · rw [List.getElem?_set_ne hj, about_ofProgress_of_ne hj]
      rcases hnext.stand with ⟨-, -, rfl⟩ | ⟨_, _, -, -, -, rfl⟩ <;> simp [about, task, hj]
  | @tell i _ _ f hnext =>
    rw [hnext.stands_put]
    by_cases hj : i = j
    · subst hj
      rw [List.getElem?_set_self (List.getElem?_eq_some_iff.mp hnext.stand).1, hnext.stand]
      rfl
    · rw [List.getElem?_set_ne hj]
      exact List.append_nil _

/-- After any number of turns what happened to each program tells where it stands. -/
theorem Turns.traced {ps : List (Program α)} {w : World} {s : Schedule α} {es : List TaskEvent}
    (turns : (ofPrograms ps w).Turns es s) : Traced es s :=
  turns.invariant (traced_ofPrograms ps w) fun _ _ _ _ h turn => h.turn turn

namespace Traced

variable {s : Schedule α} {es : List TaskEvent}

/-- What happens, happens to a program and is part of its story. -/
theorem mem_story (h : Traced es s) {e : TaskEvent} (he : e ∈ es) :
    ∃ stand, s.stands[e.task]? = some stand ∧ e ∈ stand.story e.task := by
  have hmem := mem_about_task he
  rw [h e.task] at hmem
  cases hs : s.stands[e.task]? with
  | none => rw [hs] at hmem; cases hmem
  | some stand => rw [hs] at hmem; exact ⟨stand, rfl, hmem⟩

/-- Nothing is cancelled as long as there are turns. -/
theorem not_cancelled (h : Traced es s) (i : Nat) : .cancelled i ∉ es := by
  intro he
  obtain ⟨stand, -, hmem⟩ := h.mem_story he
  rcases stand with p | _ | _ | _ <;> simp [Stand.story] at hmem

/-- A program that has failed stands there with its failure. -/
theorem failing (h : Traced es s) {i : Nat} {f : Failure} (he : .failed i f ∈ es) :
    ∃ ends number told, s.stands[i]? = some (.task (.failing ends number told f)) := by
  obtain ⟨stand, hs, hmem⟩ := h.mem_story he
  rcases stand with p | a | ⟨ends, number, c, p⟩ | ⟨ends, number, told, f'⟩ <;>
    simp [Stand.story] at hmem
  obtain ⟨-, rfl⟩ := hmem
  exact ⟨ends, number, told, hs⟩

/-- A program whose failure stands there has failed. -/
theorem failed (h : Traced es s) {i number : Nat} {ends : Moment} {told : Bool} {f : Failure}
    (hi : s.stands[i]? = some (.task (.failing ends number told f))) : .failed i f ∈ es := by
  have habout : about es i = [.started i, .failed i f] := by rw [h i, hi]; rfl
  have hmem : .failed i f ∈ about es i := by rw [habout]; simp
  exact List.mem_of_mem_filter hmem

/-- When nothing waits any more, each program was started and has ended. -/
theorem story_of_ended (h : Traced es s) (hall : s.unstarted = [])
    (hnone : firstWait? s.pool.tasks = none) {i : Nat} (hi : i < s.stands.length) :
    about es i = [.started i, .ended i] := by
  rw [h i, stands_of_all_started hall, List.getElem?_map]
  rw [stands_of_all_started hall, List.length_map] at hi
  have hwait := waitOf?_eq_none hnone (List.getElem_mem hi)
  rw [List.getElem?_eq_getElem hi]
  cases ht : s.pool.tasks[i] with
  | ended a => rfl
  | waiting => rw [ht] at hwait; cases hwait
  | failing => rw [ht] at hwait; cases hwait

/-- When a failure breaks the run, each program was started and has ended, has failed or is
cancelled. -/
theorem story_of_broken (h : Traced es s) (hall : s.unstarted = []) (now : Moment) {i : Nat}
    (hi : i < s.stands.length) :
    let events := es ++ (cancelOrder now s.pool.tasks).map (.cancelled ·.task)
    about events i = [.started i, .ended i] ∨ (∃ f, about events i = [.started i, .failed i f]) ∨
      about events i = [.started i, .cancelled i] := by
  intro events
  rw [stands_of_all_started hall, List.length_map] at hi
  have habout : about events i = about es i ++
      if i ∈ (cancelOrder now s.pool.tasks).map (·.task) then [.cancelled i] else [] := by
    rw [about_append, ← about_cancelled (nodup_cancelOrder now s.pool.tasks), List.map_map]
    rfl
  have hcancelled : i ∈ (cancelOrder now s.pool.tasks).map (·.task) ↔
      ∃ ends number onCancel rest, s.pool.tasks[i] = .waiting ends number onCancel rest := by
    constructor
    · rintro hmem
      obtain ⟨sleeper, hs, rfl⟩ := List.mem_map.mp hmem
      obtain ⟨rest, hrest⟩ := mem_cancelOrder.mp hs
      exact ⟨_, _, _, rest, (List.getElem?_eq_some_iff.mp hrest).2⟩
    · rintro ⟨ends, number, onCancel, rest, hrest⟩
      refine List.mem_map.mpr ⟨⟨i, ends, number, onCancel⟩, mem_cancelOrder.mpr ⟨rest, ?_⟩, rfl⟩
      exact List.getElem?_eq_some_iff.mpr ⟨hi, hrest⟩
  rw [habout, h i, stands_of_all_started hall, List.getElem?_map, List.getElem?_eq_getElem hi]
  cases ht : s.pool.tasks[i] with
  | ended a => simp [hcancelled, ht, Stand.story]
  | waiting => simp [hcancelled, ht, Stand.story]
  | failing ends number told f => simp [hcancelled, ht, Stand.story]

/-- What happens up to the end, happens to one of the programs. -/
theorem task_lt (h : Traced es s) {e : TaskEvent} (he : e ∈ es) : e.task < s.stands.length := by
  obtain ⟨stand, hs, -⟩ := h.mem_story he
  exact (List.getElem?_eq_some_iff.mp hs).1

end Traced

/-- What happens at the end, happens to one of the programs. -/
theorem Over.task_lt {s : Schedule α} {es : List TaskEvent}
    {out : Except Failure (List α) × World} (hover : s.Over es out) {e : TaskEvent} (he : e ∈ es) :
    e.task < s.stands.length := by
  cases hover with
  | ended => cases he
  | stopped hnext _ =>
    have hlt := hnext.lt_length
    rcases List.mem_append.mp he with he | he
    · rcases hnext.stand with ⟨-, -, rfl⟩ | ⟨_, _, -, -, -, rfl⟩
      · obtain rfl := List.mem_singleton.mp he
        exact hlt
      · cases he
    · rw [task_of_mem_ofProgress he]
      exact hlt
  | broken hnext =>
    obtain ⟨sleeper, hs, rfl⟩ := List.mem_map.mp he
    obtain ⟨rest, hrest⟩ := mem_cancelOrder.mp hs
    rw [stands_of_all_started hnext.all_started, List.length_map]
    exact (List.getElem?_eq_some_iff.mp hrest).1

end Schedule

/-- What happens in a run, happens to one of the programs. -/
theorem History.task_lt {ps : List (Program α)} {w : World} {events : List TaskEvent}
    {out : Except Failure (List α) × World} (history : History ps w events out) :
    ∀ e ∈ events, e.task < ps.length := by
  obtain @⟨es, es', s, out, turns, hover⟩ := history
  have hlength := turns.length_stands_ofPrograms
  intro e he
  rcases List.mem_append.mp he with he | he
  · exact hlength ▸ turns.traced.task_lt he
  · exact hlength ▸ hover.task_lt he

end AlertRelay
