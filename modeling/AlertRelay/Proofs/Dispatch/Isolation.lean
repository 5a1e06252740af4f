import AlertRelay.Proofs.Dispatch.Rounds
import AlertRelay.Proofs.Lives
import AlertRelay.StandIn

/-!
# The life of a dispatcher

A dispatcher lives through steps: it delivers alerts and it is closed. `Dispatcher.life` records
what each step came to. When handlers are called one after another, every step is a round of calls
in which no fault leaves its handler: `Delivered` and `Closed` say what a step is, whatever handlers
there are and whatever they come to, and `sequential_life_isolates_handlers` that it is so in every
life.
-/

namespace AlertRelay

inductive DispatchStep where
  | deliver (datacenter : Text) (a : Alert)
  | close

/-- What a step in the life of a dispatcher came to, and the worlds before and after it. Only a
delivery has a result. -/
structure DispatchRecord where
  step : DispatchStep
  before : World
  result : Except Failure (Option DispatchResult)
  after : World

def DispatchRecord.stops (r : DispatchRecord) : Bool :=
  match r.result with
  | .error (.stop _) => true
  | _ => false

namespace Dispatcher

open Program

def perform (d : Dispatcher) (w : World) : DispatchStep → DispatchRecord × World
  | .deliver datacenter a =>
    let (result, w') := d.deliver datacenter a w
    (⟨.deliver datacenter a, w, result.map some, w'⟩, w')
  | .close =>
    let (result, w') := d.close w
    (⟨.close, w, result.map fun _ => none, w'⟩, w')

/-- The records of the steps of a life. A step that fails is followed by the next one, unless the
process stops with it. -/
def life (d : Dispatcher) : List DispatchStep → World → List DispatchRecord :=
  recordsOf d.perform DispatchRecord.stops

/-- Whether each step begins in the world that the one before it left. -/
def Linked : World → List DispatchRecord → Prop
  | _, [] => True
  | w, r :: records => r.before = w ∧ Linked r.after records

variable {d : Dispatcher} {w : World}

@[simp] theorem step_perform (d : Dispatcher) (w : World) (s : DispatchStep) :
    (d.perform w s).1.step = s := by
  cases s <;> rfl

@[simp] theorem before_perform (d : Dispatcher) (w : World) (s : DispatchStep) :
    (d.perform w s).1.before = w := by
  cases s <;> rfl

@[simp] theorem after_perform (d : Dispatcher) (w : World) (s : DispatchStep) :
    (d.perform w s).1.after = (d.perform w s).2 := by
  cases s <;> rfl

theorem linked_life (d : Dispatcher) (steps : List DispatchStep) (w : World) :
    Linked w (d.life steps w) := by
  induction steps generalizing w with
  | nil => trivial
  | cons s steps ih =>
    rw [life, recordsOf]
    refine ⟨before_perform d w s, ?_⟩
    split
    · trivial
    · rw [after_perform]
      exact ih _

/-! ## What a step is -/

def receivedEntry (hs : List Handler) (datacenter : Text) (a : Alert) : Entry :=
  .log ⟨.info, .dispatcher, "alert_received",
    [("datacenter", .text datacenter), ("node", .text a.node), ("service", .text a.service),
      ("tag", .text a.tag), ("status", .text a.status.name), ("handlers", .int hs.length)], none⟩

/-- The entries with which a delivery ends: one with the names of the channels that failed, in
order, if there are any. -/
def closingEntries (a : Alert) (result : DispatchResult) : List Entry :=
  if ∃ o ∈ result.outcomes, o.succeeded = false then
    [.log ⟨.warning, .dispatcher, "alert_partially_delivered",
      [("datacenter", .text result.datacenter), ("node", .text a.node),
        ("service", .text a.service),
        ("failed", .list ((result.outcomes.filter fun o => o.succeeded = false).map fun o =>
          .text o.channel))], none⟩]
  else []

/-- What a delivery through handlers one after another is, told by their calls. -/
structure Delivered (hs : List Handler) (datacenter : Text) (a : Alert) (r : DispatchRecord)
    (calls : List (Call Outcome)) : Prop where
  /-- Once the receipt of the alert is logged, the handlers are asked to deliver it. -/
  round : ∃ w', Round (delivering datacenter a) hs (r.before.see (receivedEntry hs datacenter a))
    calls w'
  /-- Unless a handler panics or stops the process, there is an outcome for each handler in order:
  its own, or the failed one that stands for a fault. -/
  result : (∀ c ∈ calls, ¬ c.Breaks) → ∃ outcomes,
    calls.map (·.told (delivering datacenter a)) = outcomes.map .ok ∧
      r.result = .ok (some ⟨datacenter, outcomes⟩)
  /-- Nothing gets out but the panic or stop of a handler. -/
  error_iff : ∀ x, r.result = .error x ↔ ∃ c ∈ calls, c.result = .error x ∧ x.Breaks
  /-- The receipt is seen first, then each call with the report of its fault, and last that some
  channels failed, if there are any. -/
  trace : r.after.trace = r.before.trace ++
    receivedEntry hs datacenter a ::
      (calls.flatMap (·.seen (delivering datacenter a)) ++
        match r.result with
        | .ok (some result) => closingEntries a result
        | _ => [])

/-- What the closing of handlers one after another is, told by their calls. -/
structure Closed (hs : List Handler) (r : DispatchRecord) (calls : List (Call Unit)) : Prop where
  round : Round closing hs r.before calls r.after
  result : (∀ c ∈ calls, ¬ c.Breaks) → r.result = .ok none
  error_iff : ∀ x, r.result = .error x ↔ ∃ c ∈ calls, c.result = .error x ∧ x.Breaks
  trace : r.after.trace = r.before.trace ++ calls.flatMap (·.seen closing)

theorem map_eq_error_iff {α β : Type} {f : α → β} {r : Except Failure α} {x : Failure} :
    r.map f = .error x ↔ r = .error x := by
  cases r <;> simp [Except.map]

/-- The failed channels are those of the outcomes that are no success, in order. -/
theorem failedChannels_eq (result : DispatchResult) :
    result.failedChannels.map Value.text =
      (result.outcomes.filter fun o => o.succeeded = false).map fun o => .text o.channel := by
  simp [DispatchResult.failedChannels]

/-- The last call of the log is made exactly if not all channels succeeded. -/
theorem closingEntries_eq (a : Alert) (result : DispatchResult) :
    closingEntries a result =
      if result.allSucceeded then [] else [.log (logPartial a result)] := by
  have hall : result.allSucceeded = true ↔ ¬ ∃ o ∈ result.outcomes, o.succeeded = false := by
    simp [DispatchResult.allSucceeded]
  by_cases hfailed : ∃ o ∈ result.outcomes, o.succeeded = false
  · rw [closingEntries, if_pos hfailed, if_neg fun h => hall.mp h hfailed, logPartial,
      failedChannels_eq]
  · rw [closingEntries, if_neg hfailed, if_pos (hall.mpr hfailed)]

/-- A delivery ends with the closing entries of its outcomes. -/
theorem deliver_eq_of_ok {outcomes : List Outcome} {w' : World} {datacenter : Text} {a : Alert}
    (hrun : d.runAll (d.deliveries datacenter a) (d.received datacenter a w) =
      (.ok outcomes, w')) :
    d.deliver datacenter a w =
      (.ok ⟨datacenter, outcomes⟩,
        (closingEntries a ⟨datacenter, outcomes⟩).foldl World.see w') := by
  rw [received] at hrun
  rw [deliver, hrun, closingEntries_eq]
  refine Prod.ext rfl ?_
  show (if _ then w' else _) = _
  split
  · rfl
  · rfl

/-- What a delivery through handlers one after another comes to, and what it leaves. -/
theorem perform_deliver (hs : List Handler) (datacenter : Text) (a : Alert) (w : World) :
    let record := ((Dispatcher.mk hs false).perform w (.deliver datacenter a)).1
    let round := (inTurn (hs.map (delivering datacenter a).isolated)).run
      (received ⟨hs, false⟩ datacenter a w)
    record.result = round.1.map (fun outcomes => some ⟨datacenter, outcomes⟩) ∧
      record.after.trace = round.2.trace ++
        match record.result with
        | .ok (some result) => closingEntries a result
        | _ => [] := by
  intro record round
  have hrun : runAll ⟨hs, false⟩ (deliveries ⟨hs, false⟩ datacenter a)
      (received ⟨hs, false⟩ datacenter a w) = round := by
    rw [deliveries_eq]
    rfl
  match round with
  | (.ok outcomes, w') =>
    have hrecord : record = ⟨.deliver datacenter a, w, .ok (some ⟨datacenter, outcomes⟩),
        (closingEntries a ⟨datacenter, outcomes⟩).foldl World.see w'⟩ := by
      simp only [record, perform, deliver_eq_of_ok hrun]
      rfl
    rw [hrecord]
    exact ⟨rfl, World.trace_foldl_see _ w'⟩
  | (.error x, w') =>
    have hrecord : record = ⟨.deliver datacenter a, w, .error x, w'⟩ := by
      simp only [record, perform, deliver_of_error hrun]
      rfl
    rw [hrecord]
    exact ⟨rfl, (List.append_nil _).symm⟩

/-- Handlers that deliver one after another are asked for it in a round of calls. -/
theorem exists_delivered (hs : List Handler) (datacenter : Text) (a : Alert) (w : World) :
    ∃ calls, Delivered hs datacenter a
      ((Dispatcher.mk hs false).perform w (.deliver datacenter a)).1 calls := by
  obtain ⟨calls, hround, hyields, hseen⟩ :=
    exists_round (delivering datacenter a) hs (received ⟨hs, false⟩ datacenter a w)
  obtain ⟨hresult, hafter⟩ := perform_deliver hs datacenter a w
  refine ⟨calls, ⟨_, hround⟩, fun hno => ?_, fun x => ?_, ?_⟩
  · obtain ⟨outcomes, hok, htold⟩ := hyields.ok hno
    refine ⟨outcomes, htold, ?_⟩
    rw [hresult, hok]
    rfl
  · rw [hresult, map_eq_error_iff]
    exact hyields.error_iff x
  · rw [hafter, trace_run, hseen, received, World.trace_see, before_perform, List.append_assoc,
      List.append_assoc]
    rfl

/-- What the closing of handlers one after another comes to, and what it leaves. -/
theorem perform_close (hs : List Handler) (w : World) :
    let record := ((Dispatcher.mk hs false).perform w .close).1
    let round := (inTurn (hs.map closing.isolated)).run w
    record.result = round.1.map (fun _ => none) ∧ record.after = round.2 := by
  intro record round
  have hclose : (Dispatcher.mk hs false).close w = (round.1.map fun _ => (), round.2) := by
    show (closeAll hs).run w = _
    rw [closeAll_eq]
    rcases hround : round with ⟨_ | _, w'⟩
    · rw [run_bind_error hround]
      rfl
    · rw [run_bind_ok hround]
      rfl
  simp only [record, perform, hclose]
  cases round.1 <;> exact ⟨rfl, trivial⟩

/-- Handlers that close one after another are asked for it in a round of calls. -/
theorem exists_closed (hs : List Handler) (w : World) :
    ∃ calls, Closed hs ((Dispatcher.mk hs false).perform w .close).1 calls := by
  obtain ⟨calls, hround, hyields, hseen⟩ := exists_round closing hs w
  obtain ⟨hresult, hafter⟩ := perform_close hs w
  refine ⟨calls, ?_, fun hno => ?_, fun x => ?_, ?_⟩
  · rw [hafter]
    exact hround
  · obtain ⟨as, has, -⟩ := hyields.ok hno
    rw [hresult, has]
    rfl
  · rw [hresult, map_eq_error_iff]
    exact hyields.error_iff x
  · rw [hafter, trace_run, hseen]
    rfl

/-- **No fault leaves its handler.** In every life of a dispatcher that goes through its handlers
one after another, each step begins where the one before it ended, and no step is left out unless
the process stops. A delivery is a round in which every handler is asked for it once, in order; it
comes to one outcome for each of them, and what is seen of it is the receipt of the alert, the calls
with the reports of their faults, and last that some channels failed, if any did. A closing is such
a round as well. Nothing but the panic or stop of a handler gets out of a step, and then the
handlers behind it are not called. -/
theorem sequential_life_isolates_handlers (hs : List Handler) (steps : List DispatchStep)
    (w : World) :
    let records := (Dispatcher.mk hs false).life steps w
    Linked w records ∧ records.map (·.step) <+: steps ∧
      ((∀ r ∈ records, r.stops = false) → records.map (·.step) = steps) ∧
      ∀ r ∈ records,
        (∀ datacenter a, r.step = .deliver datacenter a →
          ∃ calls, Delivered hs datacenter a r calls) ∧
        (r.step = .close → ∃ calls, Closed hs r calls) := by
  intro records
  obtain ⟨hbegins, hall⟩ := steps_recordsOf (step_perform ⟨hs, false⟩) steps w
  refine ⟨linked_life _ _ _, hbegins, hall, fun r hr => ?_⟩
  obtain ⟨w', s, -, rfl⟩ := mem_recordsOf (P := fun _ => True) trivial (fun _ _ _ => trivial) hr
  rw [step_perform]
  constructor
  · rintro datacenter a rfl
    exact exists_delivered hs datacenter a w'
  · rintro rfl
    exact exists_closed hs w'

/-- A fault without a text and a handler that cannot be closed. -/
example :
    let broken : StandIn :=
      { name := "broken", result := .error (.fault ⟨"OSError", ""⟩),
        closeFailure := some (.fault ⟨"RuntimeError", "close failed"⟩) }
    let calm : StandIn := { name := "calm", result := .ok ⟨"calm", true, 1, [], []⟩ }
    let a : Alert := ⟨"node1", "web", "v2", .critical, "down", ""⟩
    ((Dispatcher.mk [broken.handler, calm.handler] false).life [.close, .deliver "dc1" a] {}).map
        (·.result) =
      [.ok none, .ok (some ⟨"dc1", [⟨"broken", false, 0, ["OSError"], []⟩,
        ⟨"calm", true, 1, [], []⟩]⟩)] := by
  rfl

end Dispatcher

end AlertRelay
