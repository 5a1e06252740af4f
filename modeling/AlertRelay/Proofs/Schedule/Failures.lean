import AlertRelay.Proofs.Schedule.Stories

/-!
# The failure that breaks a run

Several programs may fail before a run breaks, for a failure is told in turns of its own. The run
breaks with the one that happened first. From the first failure on time stands still, so all
failures happen at one moment; and as each turn is told to wait behind those that wait already, the
failures are told, and break the run, in the order in which they happened
(`Schedule.FailsInOrder`, `Schedule.FailsInOrder.first_of_broken`).
-/

namespace AlertRelay

variable {α : Type}

namespace Schedule

open Pool TaskEvent

section Waits

variable {s : Schedule α} {i j number n : Nat} {now e : Moment} {p : Program α}
  {es : List TaskEvent} {t : Task α}

theorem mem_tasks_of_stand (h : s.stands[j]? = some (Stand.task t)) : t ∈ s.pool.tasks := by
  have hmem := List.mem_of_getElem? h
  simpa [stands] using hmem

/-- The wait that comes first ends no later than another. -/
theorem le_of_firstWait? (hfirst : firstWait? s.pool.tasks = some (i, now, number))
    (hj : s.stands[j]? = some (Stand.task t)) (hwait : waitOf? t = some (e, n)) : now.le e = true :=
  le_of_not_comesBefore (not_comesBefore_firstWait? hfirst (mem_tasks_of_stand hj) hwait)

/-- No wait that ends at the same moment as the first began before it. -/
theorem le_number_of_firstWait? (hfirst : firstWait? s.pool.tasks = some (i, now, number))
    (hj : s.stands[j]? = some (Stand.task t)) (hwait : waitOf? t = some (now, n)) : number ≤ n := by
  have hnot := not_comesBefore_firstWait? hfirst (mem_tasks_of_stand hj) hwait
  by_contra hlt
  rw [comesBefore_of_lt (Nat.lt_of_not_le hlt)] at hnot
  cases hnot

/-- A turn is no later than the end of any wait. -/
theorem Next.le_wait (h : s.Next i now p es) (hj : s.stands[j]? = some (Stand.task t))
    (hwait : waitOf? t = some (e, n)) : now.le e = true := by
  rcases h.stand with ⟨-, rfl, -⟩ | ⟨_, _, -, hfirst, -, -⟩
  · exact Moment.zero_le e
  · exact le_of_firstWait? hfirst hj hwait

/-- A wait that begins in a turn ends no earlier and has the number of the turn. -/
theorem waitOf?_ofProgress {progress : Program.Progress α}
    (h : waitOf? (.ofProgress now number progress) = some (e, n)) :
    now.le e = true ∧ n = number := by
  rcases progress with (f | a) | ⟨length, _, _⟩ <;> cases h
  · exact ⟨Moment.le_refl now, rfl⟩
  · exact ⟨Moment.le_after now length, rfl⟩

end Waits

end Schedule

/-! ## Failures keep their order -/

namespace Stand

open Pool

/-- A wait of a program ends no earlier than a moment and began before a turn. -/
def WaitsFrom (now : Moment) (turns : Nat) : Stand α → Prop
  | .unstarted _ => True
  | .task t => ∀ e n, waitOf? t = some (e, n) → now.le e = true ∧ n < turns

/-- The failure of a program happened at a moment. -/
def FailsAt (now : Moment) : Stand α → Prop
  | .task (.failing e _ _ _) => e = now
  | _ => True

/-- The failure of a program comes after one that waits from turn `n` on: it is not told before that
one, and if both were told or both were not, it waits from a later turn on. -/
def FailsAfter (n : Nat) (told : Bool) : Stand α → Prop
  | .task (.failing _ n' told' _) => (told' = true → told = true) ∧ (told' = told → n < n')
  | _ => True

variable {now : Moment} {number n : Nat} {told : Bool} {progress : Program.Progress α}

theorem failsAt_ofProgress : (Stand.task (.ofProgress now number progress)).FailsAt now := by
  rcases progress with (f | a) | _
  · rfl
  · trivial
  · trivial

theorem failsAfter_ofProgress (h : n < number) :
    (Stand.task (.ofProgress now number progress)).FailsAfter n told := by
  rcases progress with (f | a) | _
  · exact ⟨nofun, fun _ => h⟩
  · trivial
  · trivial

end Stand

namespace Schedule

open Pool TaskEvent

/-- All failures happened at one moment, before which no wait ends, and the first of them comes
before the others. -/
structure FailsInOrder (events : List TaskEvent) (now : Moment) (s : Schedule α) : Prop where
  waits : ∀ (i : Nat) (stand : Stand α), s.stands[i]? = some stand →
    stand.WaitsFrom now s.pool.turns
  failing : ∀ (i : Nat) (stand : Stand α), s.stands[i]? = some stand → stand.FailsAt now
  starting : s.unstarted ≠ [] → now = .at 0
  first : ∀ (i : Nat) f, events.find? isFailure = some (.failed i f) →
    ∃ n told, s.stands[i]? = some (Stand.task (.failing now n told f)) ∧
      ∀ (j : Nat) (stand : Stand α), s.stands[j]? = some stand → j ≠ i → stand.FailsAfter n told

/-- At the beginning nothing has failed, and nothing waits. -/
theorem failsInOrder_ofPrograms (ps : List (Program α)) (w : World) :
    FailsInOrder [] (.at 0) (ofPrograms ps w) := by
  refine ⟨fun i stand hi => ?_, fun i stand hi => ?_, fun _ => rfl, nofun⟩
  · obtain ⟨p, -, rfl⟩ := exists_unstarted_of_stands hi
    trivial
  · obtain ⟨p, -, rfl⟩ := exists_unstarted_of_stands hi
    trivial

/-- The first that happens to fail does so with its failure. -/
theorem exists_first_failure {events : List TaskEvent} {i : Nat} {f : Failure}
    (h : .failed i f ∈ events) : ∃ k g, events.find? isFailure = some (.failed k g) := by
  have hsome : (events.find? isFailure).isSome = true :=
    List.find?_isSome.mpr ⟨_, h, rfl⟩
  obtain ⟨e, he⟩ := Option.isSome_iff_exists.mp hsome
  cases e with
  | failed k g => exact ⟨k, g, he⟩
  | started k => exact absurd (List.find?_some he) (by simp [isFailure])
  | ended k => exact absurd (List.find?_some he) (by simp [isFailure])
  | cancelled k => exact absurd (List.find?_some he) (by simp [isFailure])

/-- A failure that is the first is one of a turn, unless one happened before. -/
theorem find?_failure_append {es es' : List TaskEvent} {i : Nat} {f : Failure}
    (h : (es ++ es').find? isFailure = some (.failed i f)) :
    es.find? isFailure = some (.failed i f) ∨
      (∀ k g, .failed k g ∉ es) ∧ .failed i f ∈ es' := by
  rw [List.find?_append] at h
  cases hes : es.find? isFailure with
  | some e => exact .inl (by rwa [hes] at h)
  | none =>
    rw [hes] at h
    refine .inr ⟨fun k g hmem => ?_, List.mem_of_find?_eq_some h⟩
    exact absurd rfl (List.find?_eq_none.mp hes _ hmem)

namespace FailsInOrder

variable {s s' : Schedule α} {es es' : List TaskEvent} {now m : Moment} {i number : Nat}
  {f : Failure}

/-- A turn keeps up that no wait ends before its moment. -/
theorem waits_put (h : s.FailsInOrder es now) {t : Task α} {w : World}
    (hput : (s.put i t w).stands = s.stands.set i (.task t))
    (hself : ∀ e n, waitOf? t = some (e, n) → m.le e = true ∧ n = s.pool.turns)
    (hle : ∀ (j : Nat) t e n, s.stands[j]? = some (Stand.task t) → waitOf? t = some (e, n) →
      m.le e = true) (j : Nat) (stand : Stand α) (hj : (s.put i t w).stands[j]? = some stand) :
    stand.WaitsFrom m (s.put i t w).pool.turns := by
  rw [put_turns]
  refine forall_stands_set (P := fun _ stand => stand.WaitsFrom m (s.pool.turns + 1)) hput ?_
    (fun j stand hj _ => ?_) j stand hj
  · intro e n hwait
    obtain ⟨hle, rfl⟩ := hself e n hwait
    exact ⟨hle, Nat.lt_succ_self _⟩
  · cases stand with
    | unstarted p => trivial
    | task t =>
      intro e n hwait
      exact ⟨hle j t e n hj hwait, Nat.lt_succ_of_lt (h.waits j _ hj e n hwait).2⟩

/-- Time stands still once a program has failed. -/
theorem now_eq (h : s.FailsInOrder es now) {p : Program α} (hnext : s.Next i m p es') {j n : Nat}
    {told : Bool} (hj : s.stands[j]? = some (Stand.task (.failing now n told f))) : now = m := by
  refine Moment.le_antisymm ?_ (hnext.le_wait hj rfl)
  rcases hnext.stand with ⟨hi, rfl, -⟩ | ⟨_, _, -, -, hi, -⟩
  · have hstarting : now = .at 0 := by
      refine h.starting fun hall => ?_
      rw [stands_of_all_started hall, List.getElem?_map] at hi
      obtain ⟨t, -, ht⟩ := Option.map_eq_some_iff.mp hi
      cases ht
    exact hstarting ▸ Moment.le_refl _
  · exact (h.waits i _ hi _ _ rfl).1

/-- A turn in which a program is started or goes on keeps the order, from its moment on. -/
theorem run (h : s.FailsInOrder es now) (htraced : Traced es s) {p : Program α}
    (hnext : s.Next i m p es') (w : World) (progress : Program.Progress α) :
    (s.put i (.ofProgress m s.pool.turns progress) w).FailsInOrder
      (es ++ (es' ++ ofProgress i progress)) m := by
  have hput := hnext.stands_put (.ofProgress m s.pool.turns progress) w
  refine ⟨h.waits_put hput (fun _ _ => waitOf?_ofProgress) fun _ _ _ _ => hnext.le_wait,
    forall_stands_set hput Stand.failsAt_ofProgress fun j stand hj _ => ?_, fun hrest => ?_,
    fun k g hfind => ?_⟩
  · rcases stand with _ | _ | _ | ⟨e, n, told, g⟩
    · trivial
    · trivial
    · trivial
    · obtain rfl : e = now := h.failing j _ hj
      exact h.now_eq hnext hj
  · rcases hnext.stand with ⟨-, rfl, -⟩ | ⟨_, _, hall, -⟩
    · rfl
    · exact absurd hall (unstarted_ne_nil_of_put hrest)
  · rcases find?_failure_append hfind with hold | ⟨hnone, hmem⟩
    · -- The first failure stays where it is, and one of this turn waits from this turn on.
      obtain ⟨n, told, hk, hothers⟩ := h.first k g hold
      obtain rfl := h.now_eq hnext hk
      have hik : i ≠ k := by
        rintro rfl
        rcases hnext.stand with ⟨hi, -⟩ | ⟨_, _, -, -, hi, -⟩ <;> cases hi.symm.trans hk
      refine ⟨n, told, by rw [hput, List.getElem?_set_ne hik]; exact hk, ?_⟩
      refine forall_stands_set (P := fun j stand => j ≠ k → stand.FailsAfter n told) hput ?_ ?_
      · exact fun _ => Stand.failsAfter_ofProgress (h.waits k _ hk _ _ rfl).2
      · exact fun j stand hj _ => hothers j stand hj
    · -- No program has failed before, so the one whose turn it was is the only one.
      have hprogress : k = i ∧ progress = .ended (.error g) := by
        rcases List.mem_append.mp hmem with hmem | hmem
        · rcases hnext.stand with ⟨-, -, rfl⟩ | ⟨_, _, -, -, -, rfl⟩ <;> simp at hmem
        · rcases progress with (f | a) | _ <;> simp [ofProgress] at hmem
          obtain ⟨rfl, rfl⟩ := hmem
          exact ⟨rfl, rfl⟩
      obtain ⟨rfl, rfl⟩ := hprogress
      refine ⟨s.pool.turns, false, by rw [hput, List.getElem?_set_self hnext.lt_length]; rfl, ?_⟩
      refine forall_stands_set (P := fun j stand => j ≠ k → stand.FailsAfter _ false) hput ?_ ?_
      · exact fun hkk => absurd rfl hkk
      · intro j stand hj _ _
        rcases stand with _ | _ | _ | ⟨e, n, told, g'⟩
        · trivial
        · trivial
        · trivial
        · exact absurd (htraced.failed hj) (hnone j g')

/-- When a failure is told, the one that happened first was told before or is told now. -/
theorem told_of_first (h : s.FailsInOrder es now) (hnext : s.FailsNext i m number false f)
    {k n : Nat} {told : Bool} {g : Failure}
    (hk : s.stands[k]? = some (Stand.task (.failing now n told g)))
    (hfirst : false = told → n < number) : told = true := by
  cases told with
  | true => rfl
  | false =>
    obtain rfl : m = now := h.failing i _ hnext.stand
    exact absurd (hfirst rfl) (Nat.not_lt.mpr (le_number_of_firstWait? hnext.first hk rfl))

/-- A turn in which a failure is told keeps the order. -/
theorem tell (h : s.FailsInOrder es now) (hnext : s.FailsNext i m number false f) :
    (s.put i (.failing m s.pool.turns true f) s.pool.world).FailsInOrder es now := by
  have hput := hnext.stands_put (.failing m s.pool.turns true f) s.pool.world
  obtain rfl : m = now := h.failing i _ hnext.stand
  refine ⟨h.waits_put hput ?_ ?_, forall_stands_set hput rfl fun j stand hj _ => ?_,
    fun hrest => ?_, fun k g hfind => ?_⟩
  · rintro e n ⟨rfl, rfl⟩
    exact ⟨Moment.le_refl _, rfl⟩
  · exact fun j t e n hj hwait => (h.waits j _ hj e n hwait).1
  · exact h.failing j stand hj
  · exact absurd hnext.all_started (unstarted_ne_nil_of_put hrest)
  · obtain ⟨n, told, hk, hothers⟩ := h.first k g hfind
    by_cases hik : i = k
    · -- The first failure is told. None of the others was, or else it would have been before.
      subst hik
      cases hnext.stand.symm.trans hk
      have hi := (List.getElem?_eq_some_iff.mp hnext.stand).1
      refine ⟨s.pool.turns, true, by rw [hput, List.getElem?_set_self hi], ?_⟩
      refine forall_stands_set (P := fun j stand => j ≠ i → stand.FailsAfter _ true) hput ?_ ?_
      · exact fun hii => absurd rfl hii
      · intro j stand hj _ hji
        have hafter := hothers j stand hj hji
        rcases stand with _ | _ | _ | ⟨e, n', told', g'⟩
        · trivial
        · trivial
        · trivial
        · exact ⟨fun _ => rfl, fun htold => absurd (hafter.1 htold) nofun⟩
    · -- Another failure is told, and from now on it waits behind the first.
      have htold := h.told_of_first hnext hk (hothers i _ hnext.stand hik).2
      refine ⟨n, told, by rw [hput, List.getElem?_set_ne hik]; exact hk, ?_⟩
      refine forall_stands_set (P := fun j stand => j ≠ k → stand.FailsAfter n told) hput ?_ ?_
      · exact fun _ => ⟨fun _ => htold, fun _ => (h.waits k _ hk _ _ rfl).2⟩
      · exact fun j stand hj _ => hothers j stand hj

theorem turn (h : s.FailsInOrder es now) (htraced : Traced es s) (turn : s.Turn es' s') :
    ∃ now', s'.FailsInOrder (es ++ es') now' := by
  cases turn with
  | run hnext _ => exact ⟨_, h.run htraced hnext _ _⟩
  | tell hnext => exact ⟨now, by rw [List.append_nil]; exact h.tell hnext⟩

/-- The failure that breaks the run happened first. -/
theorem first_of_broken (h : s.FailsInOrder es now) (htraced : Traced es s)
    (hnext : s.FailsNext i m number true f) :
    es.find? isFailure = some (.failed i f) := by
  obtain ⟨k, g, hfind⟩ := exists_first_failure (htraced.failed hnext.stand)
  obtain ⟨n, told, hk, hothers⟩ := h.first k g hfind
  obtain rfl : m = now := h.failing i _ hnext.stand
  by_cases hik : i = k
  · subst hik
    cases hnext.stand.symm.trans hk
    exact hfind
  · -- Were it another one, the first would have been told too and would wait before it.
    obtain ⟨htold, hlt⟩ := hothers i _ hnext.stand hik
    obtain rfl := htold rfl
    exact absurd (hlt rfl) (Nat.not_lt.mpr (le_number_of_firstWait? hnext.first hk rfl))

end FailsInOrder

/-- After any number of turns the failures are in their order. -/
theorem Turns.failsInOrder {ps : List (Program α)} {w : World} {s : Schedule α}
    {es : List TaskEvent} (turns : (ofPrograms ps w).Turns es s) :
    ∃ now, s.FailsInOrder es now := by
  have hboth : Traced es s ∧ ∃ now, s.FailsInOrder es now :=
    turns.invariant (I := fun es s => Traced es s ∧ ∃ now, s.FailsInOrder es now)
      ⟨traced_ofPrograms ps w, _, failsInOrder_ofPrograms ps w⟩
      fun _ _ _ _ ⟨htraced, now, h⟩ turn => ⟨htraced.turn turn, h.turn htraced turn⟩
  exact hboth.2

end Schedule

end AlertRelay
