import AlertRelay.Proofs.Dispatch.Deliveries
import AlertRelay.Proofs.Schedule.Breaks
import AlertRelay.Proofs.StandIn

/-!
# Panics among handlers that run side by side

A handler that panics ends the delivery for all, but none is left on its way: before the panic gets
out, each handler that was started has finished or is cancelled (`EndsInPanic`). They are cancelled
in order, unless some wait for no time twice in a row: such a handler may be about to go on when the
panic is told, and is then cancelled before those that are not.

* `panic_leaves_none_on_its_way` — so it is in every run in which a handler panics and none stops
  the process;
* `failed_of_independent`, `exists_panic_of_independent` — when handlers do not depend on each
  other, what they come to tells beforehand whether a run is one of these, and which panics can end
  it.
-/

namespace AlertRelay.Dispatcher

open TaskEvent

variable {σ : Type} {hs : List Handler} {datacenter : Text} {a : Alert} {w : World}
  {events : List TaskEvent} {out : Except Failure (List Outcome) × World}

/-! ## What fails is a panic or a stop -/

/-- What happens in deliveries side by side of an alert by handlers. -/
abbrev DeliveryHistory (hs : List Handler) (datacenter : Text) (a : Alert) (w : World) :
    List TaskEvent → Except Failure (List Outcome) × World → Prop :=
  History ((Dispatcher.mk hs true).deliveries datacenter a)
    ((Dispatcher.mk hs true).received datacenter a w)

/-- No delivery fails with a fault. -/
theorem not_fault_of_failed (history : DeliveryHistory hs datacenter a w events out) {i : Nat}
    {f : Failure} (hf : .failed i f ∈ events) (g : Fault) : f ≠ .fault g := by
  have hapart : (Schedule.ofPrograms ((Dispatcher.mk hs true).deliveries datacenter a)
      ((Dispatcher.mk hs true).received datacenter a w)).Apart (fun _ _ => ())
      (fun _ x => ∀ g, x ≠ .error (.fault g)) := by
    refine ⟨fun i stand hi => ?_, fun i j stand hj _ => ?_⟩
    · obtain ⟨p, hp, rfl⟩ := Schedule.exists_unstarted_of_stands hi
      rw [deliveries, List.getElem?_map] at hp
      obtain ⟨h, -, rfl⟩ := Option.map_eq_some_iff.mp hp
      exact settled_deliverThrough_not_fault h datacenter a
    · obtain ⟨p, -, rfl⟩ := Schedule.exists_unstarted_of_stands hj
      exact p.keeps_of_unit
  have hsettled : ∀ g, (.error f : Except Failure Outcome) ≠ .error (.fault g) :=
    history.settled hapart hf
  exact fun hg => hsettled g (congrArg Except.error hg)

/-- What fails when none stops the process is a panic. -/
theorem panic_of_failed (history : DeliveryHistory hs datacenter a w events out)
    (hstop : ∀ i code, .failed i (.stop code) ∉ events) {i : Nat} {f : Failure}
    (hf : .failed i f ∈ events) : ∃ text, f = .panic text := by
  cases f with
  | fault g => exact absurd rfl (not_fault_of_failed history hf g)
  | panic text => exact ⟨text, rfl⟩
  | stop code => exact absurd hf (hstop i code)

/-! ## What handlers that do not depend on each other come to -/

section Independent

variable {part : Nat → World → σ} {rs : List (Except Failure Outcome)}

/-- A delivery that fails does so with what its handler comes to. -/
theorem failed_of_independent (hind : Independent part (hs.map (·.deliver datacenter a)) rs w)
    (history : DeliveryHistory hs datacenter a w events out) {i : Nat} {f : Failure}
    (hf : .failed i f ∈ events) : rs[i]? = some (.error f) := by
  have hsettled : (List.zipWith resultOf hs rs)[i]? = some (.error f) :=
    history.settled ((independent_deliveries hind).see _).apart hf
  obtain ⟨h, r, -, hr, heq⟩ := List.getElem?_zipWith_eq_some.mp hsettled
  rw [eq_of_resultOf_eq_error heq] at hr
  exact hr

/-- When a handler comes to a panic and none to a stop, a handler panics in the run. -/
theorem exists_panic_of_independent
    (hind : Independent part (hs.map (·.deliver datacenter a)) rs w)
    (history : DeliveryHistory hs datacenter a w events out)
    (hpanic : ∃ text, .error (.panic text) ∈ rs) (hstop : ∀ code, .error (.stop code) ∉ rs) :
    ∃ i text, .failed i (.panic text) ∈ events := by
  by_contra hnone
  -- Then no handler fails at all, and each comes to an outcome or a fault.
  have hfails : ∀ i f, .failed i f ∉ events := by
    intro i f hf
    cases f with
    | fault g => exact not_fault_of_failed history hf g rfl
    | panic text => exact hnone ⟨i, text, hf⟩
    | stop code =>
      exact hstop code (List.mem_of_getElem? (failed_of_independent hind history hf))
  obtain ⟨text, hmem⟩ := hpanic
  obtain ⟨k, hk⟩ := List.getElem?_of_mem hmem
  have hlt : k < (hs.map (deliverThrough · datacenter a)).length := by
    have hlength := hind.length_eq
    rw [List.length_map] at hlength ⊢
    exact hlength ▸ (List.getElem?_eq_some_iff.mp hk).1
  have hended : .ended k ∈ about events k := by
    rw [history.ended hfails hlt]
    simp
  obtain ⟨outcome, houtcome⟩ : ∃ o, (List.zipWith resultOf hs rs)[k]? = some (.ok o) :=
    history.settled ((independent_deliveries hind).see _).apart (List.mem_of_mem_filter hended)
  obtain ⟨h, r, -, hr, heq⟩ := List.getElem?_zipWith_eq_some.mp houtcome
  obtain rfl := Option.some.inj (hk.symm.trans hr)
  cases heq

end Independent

/-! ## The end of a delivery -/

/-- A delivery through handlers ends in a panic and leaves none of them on its way. -/
structure EndsInPanic (hs : List Handler) (datacenter : Text) (a : Alert)
    (events : List TaskEvent) (result : Except Failure DispatchResult) : Prop where
  /-- The result is the panic of the handler that panicked first. -/
  first : ∃ i text, events.find? isFailure = some (.failed i (.panic text)) ∧
    result = .error (.panic text)
  /-- Each handler is started once, and then it ends, panics or is cancelled. -/
  once : ∀ i < hs.length, about events i = [.started i, .ended i] ∨
    (∃ text, about events i = [.started i, .failed i (.panic text)]) ∨
      about events i = [.started i, .cancelled i]
  /-- Nothing happens to others. -/
  task_lt : ∀ e ∈ events, e.task < hs.length
  /-- What is cancelled is so after all else, and in the order of the handlers, except that those
  that wait for no time twice in a row may come first. -/
  cancelled_last : ∃ (before : List TaskEvent) (ready waiting : List Nat),
    events = before ++ (ready ++ waiting).map .cancelled ∧ (∀ i, .cancelled i ∉ before) ∧
      (∀ i ∈ ready, ∃ h, hs[i]? = some h ∧ ¬ (h.deliver datacenter a).Steady) ∧
        waiting.Pairwise (· < ·)
  /-- If no handler does that, all are cancelled in their order. -/
  in_order : (∀ h ∈ hs, (h.deliver datacenter a).Steady) →
    ∃ (before : List TaskEvent) (cancelled : List Nat),
      events = before ++ cancelled.map .cancelled ∧ (∀ i, .cancelled i ∉ before) ∧
        cancelled.Pairwise (· < ·)

/-- A delivery through the dispatcher is as steady as that of the handler. -/
theorem steady_deliverThrough {h : Handler} (hsteady : (h.deliver datacenter a).Steady) :
    (deliverThrough h datacenter a).Steady := by
  rw [deliverThrough_eq]
  exact Program.steadyAfter_bind (Program.steadyAfter_attempt hsteady) quiet_afterDelivery

/-- When a handler panics in a run and none stops the process, the run ends in a panic. -/
theorem endsInPanic (history : DeliveryHistory hs datacenter a w events out)
    (hpanics : ∃ i text, .failed i (.panic text) ∈ events)
    (hstop : ∀ i code, .failed i (.stop code) ∉ events) {result : Except Failure DispatchResult}
    (hresult : ∀ f, out.1 = .error f → result = .error f) :
    EndsInPanic hs datacenter a events result := by
  have hlength : ((Dispatcher.mk hs true).deliveries datacenter a).length = hs.length :=
    List.length_map _
  obtain ⟨k, text, hk⟩ := hpanics
  obtain ⟨⟨i, f, hfind, hout⟩, honce, before, ready, waiting, hevents, hbefore, hready, hwaiting⟩ :=
    history.broken ⟨k, _, hk⟩ hstop
  obtain ⟨text, rfl⟩ := panic_of_failed history hstop (List.mem_of_find?_eq_some hfind)
  have hyielding : ∀ i ∈ ready, ∃ h, hs[i]? = some h ∧ ¬ (h.deliver datacenter a).Steady := by
    intro i hi
    have hcancelled : .cancelled i ∈ events := by
      rw [hevents]
      exact List.mem_append_right _ (List.mem_map_of_mem (List.mem_append_left _ hi))
    have hlt : i < hs.length := hlength ▸ history.task_lt _ hcancelled
    refine ⟨hs[i], List.getElem?_eq_getElem hlt, fun hsteady => ?_⟩
    refine hready i hi (deliverThrough hs[i] datacenter a) ?_ (steady_deliverThrough hsteady)
    rw [deliveries, List.getElem?_map, List.getElem?_eq_getElem hlt]
    rfl
  refine ⟨⟨i, text, hfind, hresult _ hout⟩, fun j hj => ?_, hlength ▸ history.task_lt,
    ⟨before, ready, waiting, hevents, hbefore, hyielding, hwaiting⟩, fun hsteady => ?_⟩
  · rcases honce j (hlength ▸ hj) with hended | ⟨f, hfailed⟩ | hcancelled
    · exact .inl hended
    · have hmem : .failed j f ∈ about events j := by simp [hfailed]
      obtain ⟨text, rfl⟩ := panic_of_failed history hstop (List.mem_of_mem_filter hmem)
      exact .inr (.inl ⟨text, hfailed⟩)
    · exact .inr (.inr hcancelled)
  · have hnone : ready = [] := by
      refine List.eq_nil_iff_forall_not_mem.mpr fun i hi => ?_
      obtain ⟨h, hh, hnot⟩ := hyielding i hi
      exact hnot (hsteady h (List.mem_of_getElem? hh))
    subst hnone
    exact ⟨before, waiting, hevents, hbefore, hwaiting⟩

/-- **A panic leaves no handler on its way.** In every delivery side by side in which a handler
panics and none stops the process, the panic that happened first gets out, after each handler was
started once and has finished or is cancelled; the cancellations come last, and in order if no
handler waits for no time twice in a row, which those that wait but once never do. Handlers that
show what they do leave the marks of just that. And when handlers do not depend on each other, one
of which comes to a panic and none to a stop, every delivery is of this kind. -/
theorem panic_leaves_none_on_its_way (hs : List Handler) (datacenter : Text) (a : Alert)
    (w : World) :
    let d : Dispatcher := ⟨hs, true⟩
    ∃ events,
      DeliveryHistory hs datacenter a w events
        (runTogether (d.deliveries datacenter a) (d.received datacenter a w)) ∧
      ((∃ i text, .failed i (.panic text) ∈ events) →
        (∀ i code, .failed i (.stop code) ∉ events) →
        EndsInPanic hs datacenter a events (d.deliver datacenter a w).1) ∧
      (∀ s : StandIn, (s.handler.deliver datacenter a).Steady) ∧
      ((∀ h ∈ hs, (h.deliver datacenter a).Shows h.name datacenter a.message) →
        (d.deliver datacenter a w).2.marks =
          w.marks ++ events.map (entry (names hs) datacenter a.message)) ∧
      ∀ (σ : Type) (part : Nat → World → σ) (rs : List (Except Failure Outcome)),
        Independent part (hs.map (·.deliver datacenter a)) rs w →
        (∃ text, .error (.panic text) ∈ rs) → (∀ code, .error (.stop code) ∉ rs) →
        EndsInPanic hs datacenter a events (d.deliver datacenter a w).1 ∧
          ∀ i f, .failed i f ∈ events → rs[i]? = some (.error f) := by
  intro d
  obtain ⟨events, history⟩ :=
    exists_history (d.deliveries datacenter a) (d.received datacenter a w)
  have hends : (∃ i text, .failed i (.panic text) ∈ events) →
      (∀ i code, .failed i (.stop code) ∉ events) →
      EndsInPanic hs datacenter a events (d.deliver datacenter a w).1 := by
    refine fun hpanics hstop => endsInPanic history hpanics hstop fun f hout => ?_
    have hrun : d.runAll (d.deliveries datacenter a) (d.received datacenter a w) =
        (.error f, _) := Prod.ext hout rfl
    rw [deliver_of_error hrun]
  refine ⟨events, history, hends, StandIn.steady_deliver, fun hshows => ?_,
    fun σ part rs hind hpanic hstop => ?_⟩
  · rw [marks_deliver, ← marks_received d datacenter a w]
    exact history.marks (shows_deliveries hshows)
  · refine ⟨hends (exists_panic_of_independent hind history hpanic hstop) ?_, ?_⟩
    · exact fun i code hf =>
        hstop code (List.mem_of_getElem? (failed_of_independent hind history hf))
    · exact fun i f hf => failed_of_independent hind history hf

/-- A panic while one stand-in waits and another has failed. -/
theorem panic_leaves_none_on_its_way_three :
    let calm : StandIn :=
      { name := "calm", delay := some (.whole 3), result := .ok ⟨"calm", true, 1, [], []⟩ }
    let alarm : StandIn :=
      { name := "alarm", delay := some (.whole 1), result := .error (.panic "halt") }
    let broken : StandIn :=
      { name := "broken", result := .error (.fault ⟨"OSError", "no route"⟩) }
    let d : Dispatcher := ⟨[calm.handler, alarm.handler, broken.handler], true⟩
    let a : Alert := ⟨"node1", "web", "v2", .critical, "down", ""⟩
    ∃ (events before : List TaskEvent) (cancelled : List Nat),
      EndsInPanic d.handlers "dc1" a events (d.deliver "dc1" a {}).1 ∧
      (d.deliver "dc1" a {}).1 = .error (.panic "halt") ∧
      (d.deliver "dc1" a {}).2.marks = events.map (entry (names d.handlers) "dc1" "down") ∧
      events = before ++ cancelled.map .cancelled ∧ (∀ i, .cancelled i ∉ before) ∧
      cancelled.Pairwise (· < ·) := by
  intro calm alarm broken d a
  let rs : List (Except Failure Outcome) := [calm.result, alarm.result, broken.result]
  have hind : Independent (fun _ _ => ()) (d.handlers.map (·.deliver "dc1" a)) rs {} :=
    StandIn.independent [calm, alarm, broken] "dc1" a {}
  have hstandIn : ∀ h ∈ d.handlers, ∃ s : StandIn, h = s.handler := by
    intro h hh
    obtain ⟨s, -, rfl⟩ := List.mem_map.mp (show h ∈ [calm, alarm, broken].map (·.handler) from hh)
    exact ⟨s, rfl⟩
  have hshows : ∀ h ∈ d.handlers, (h.deliver "dc1" a).Shows h.name "dc1" a.message := by
    intro h hh
    obtain ⟨s, rfl⟩ := hstandIn h hh
    exact s.shows_deliver
  obtain ⟨events, -, -, honce, hmarks, hindependent⟩ :=
    panic_leaves_none_on_its_way d.handlers "dc1" a {}
  have hsteady : ∀ h ∈ d.handlers, (h.deliver "dc1" a).Steady := by
    intro h hh
    obtain ⟨s, rfl⟩ := hstandIn h hh
    exact honce s
  obtain ⟨hends, hfailed⟩ := hindependent Unit _ rs hind ⟨"halt", by simp [rs, alarm]⟩
    (by simp [rs, calm, alarm, broken])
  obtain ⟨i, text, hfind, hresult⟩ := hends.first
  -- Only one of the stand-ins panics, and it does so with its text.
  have htext : text = "halt" := by
    have hi := hfailed i _ (List.mem_of_find?_eq_some hfind)
    match i with
    | 0 => cases hi
    | 1 =>
      cases hi
      rfl
    | 2 => cases hi
    | i + 3 => cases hi
  obtain ⟨before, cancelled, horder⟩ := hends.in_order hsteady
  exact ⟨events, before, cancelled, hends, htext ▸ hresult, hmarks hshows, horder⟩

end AlertRelay.Dispatcher
