import AlertRelay.Proofs.Dispatch.Deliveries
import AlertRelay.Proofs.StandIn

/-!
# Fan-out, side by side and one after another

Handlers that do not depend on each other, and of which none panics or stops the process, deliver
an alert with the same outcomes whether they run side by side or one after another
(`concurrent_agrees_with_sequential`). What an observer sees differs in its order only.
-/

namespace AlertRelay.Dispatcher

open TaskEvent

/-- **Side by side as one after another.** Handlers that do not depend on each other, each of which
comes to an outcome or a fault, deliver with the same result in either way: their outcomes in the
order of the handlers. Side by side each is started once and ends once, and none is cancelled; where
the handlers show it, the marks of the two ways are the same but for their order. -/
theorem concurrent_agrees_with_sequential {σ : Type} {part : Nat → World → σ} {hs : List Handler}
    {rs : List (Except Fault Outcome)} {datacenter : Text} {a : Alert} {w : World}
    (hind : Independent part (hs.map (·.deliver datacenter a)) (rs.map (·.mapError .fault)) w) :
    let concurrent : Dispatcher := ⟨hs, true⟩
    let sequential : Dispatcher := ⟨hs, false⟩
    (concurrent.deliver datacenter a w).1 = .ok ⟨datacenter, List.zipWith outcomeOf hs rs⟩ ∧
      (sequential.deliver datacenter a w).1 = .ok ⟨datacenter, List.zipWith outcomeOf hs rs⟩ ∧
      ∃ events,
        History (concurrent.deliveries datacenter a) (concurrent.received datacenter a w) events
          (runTogether (concurrent.deliveries datacenter a)
            (concurrent.received datacenter a w)) ∧
        (∀ i < hs.length, about events i = [.started i, .ended i]) ∧
        events.Perm (onceEach hs.length) ∧
        ((∀ h ∈ hs, (h.deliver datacenter a).Shows h.name datacenter a.message) →
          (concurrent.deliver datacenter a w).2.marks =
            w.marks ++ events.map (entry (names hs) datacenter a.message) ∧
          (sequential.deliver datacenter a w).2.marks =
            w.marks ++ (onceEach hs.length).map (entry (names hs) datacenter a.message)) := by
  intro concurrent sequential
  have hdeliveries := independent_deliveries hind
  rw [zipWith_resultOf_mapError] at hdeliveries
  -- Side by side.
  obtain ⟨events, history⟩ :=
    exists_history (concurrent.deliveries datacenter a) (concurrent.received datacenter a w)
  obtain ⟨hok, habout⟩ := runTogether_of_independent (hdeliveries.see _) history
  have hconcurrent : concurrent.runAll (concurrent.deliveries datacenter a)
      (concurrent.received datacenter a w) = (.ok (List.zipWith outcomeOf hs rs), _) :=
    Prod.ext hok rfl
  -- One after another.
  have hsequential : sequential.runAll (sequential.deliveries datacenter a)
      (sequential.received datacenter a w) = (.ok (List.zipWith outcomeOf hs rs), _) :=
    Prod.ext (run_inTurn_of_independent (hdeliveries.see _)) rfl
  have hlength : (hs.map (deliverThrough · datacenter a)).length = hs.length := List.length_map _
  have hperm : events.Perm (onceEach hs.length) := by
    rw [← hlength]
    exact perm_onceEach history.task_lt habout
  refine ⟨(deliver_of_ok hconcurrent).1, (deliver_of_ok hsequential).1, events, history,
    hlength ▸ habout, hperm, fun hshows => ⟨?_, ?_⟩⟩
  · rw [marks_deliver, ← marks_received concurrent datacenter a w]
    exact history.marks (shows_deliveries hshows)
  · rw [marks_deliver, ← marks_received sequential datacenter a w, ← hlength]
    exact marks_run_inTurn hsequential (shows_deliveries hshows)

/-- Two stand-ins, of which the second finishes first and fails: the outcomes keep the order of the
handlers. -/
theorem concurrent_agrees_with_sequential_two :
    let slow : StandIn :=
      { name := "slow", delay := some (.whole 2), result := .ok ⟨"slow", true, 1, [], []⟩ }
    let quick : StandIn :=
      { name := "quick", delay := some (.whole 1), result := .error (.fault ⟨"TimeoutError", []⟩) }
    let hs := [slow.handler, quick.handler]
    let a : Alert := ⟨"node1", "web", "v2", .critical, "down", ""⟩
    let result : DispatchResult :=
      ⟨"dc1", [⟨"slow", true, 1, [], []⟩, ⟨"quick", false, 0, ["TimeoutError"], []⟩]⟩
    ((Dispatcher.mk hs true).deliver "dc1" a {}).1 = .ok result ∧
      ((Dispatcher.mk hs false).deliver "dc1" a {}).1 = .ok result ∧
      ∃ events : List TaskEvent, events.Perm (onceEach 2) ∧
        ((Dispatcher.mk hs true).deliver "dc1" a {}).2.marks =
          events.map (entry (names hs) "dc1" "down") ∧
        ((Dispatcher.mk hs false).deliver "dc1" a {}).2.marks =
          [.start "slow", .finish "slow" "dc1" "down", .start "quick",
            .finish "quick" "dc1" "down"] := by
  intro slow quick hs a result
  let rs : List (Except Fault Outcome) :=
    [.ok ⟨"slow", true, 1, [], []⟩, .error ⟨"TimeoutError", []⟩]
  have hind : Independent (fun _ _ => ()) (hs.map (·.deliver "dc1" a)) (rs.map (·.mapError .fault))
      {} := StandIn.independent [slow, quick] "dc1" a {}
  have hshows : ∀ h ∈ hs, (h.deliver "dc1" a).Shows h.name "dc1" a.message := by
    intro h hh
    simp only [hs, List.mem_cons, List.not_mem_nil, or_false] at hh
    rcases hh with rfl | rfl
    · exact slow.shows_deliver
    · exact quick.shows_deliver
  obtain ⟨hc, hq, events, -, -, hperm, hmarks⟩ := concurrent_agrees_with_sequential hind
  exact ⟨hc, hq, events, hperm, (hmarks hshows).1, (hmarks hshows).2⟩

end AlertRelay.Dispatcher
