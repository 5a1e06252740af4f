import AlertRelay.Proofs.Schedule.Independence
import AlertRelay.Proofs.Schedule.Marks

/-!
# Deliveries through the dispatcher

What the dispatcher makes of the delivery of a handler: a fault becomes a failed outcome and a call
of the log, everything else stays as it is. So a delivery through the dispatcher never ends in a
fault (`settled_deliverThrough_not_fault`), it depends on no more than that of the handler
(`independent_deliveries`) and shows what that shows (`shows_deliverThrough`).
-/

namespace AlertRelay.Dispatcher

open Program

variable {σ : Type} {h : Handler} {datacenter : Text} {a : Alert}

/-- The outcome of a delivery that came to an outcome or a fault. A fault is told by its text, or by
its kind when there is no text. -/
def outcomeOf (h : Handler) : Except Fault Outcome → Outcome
  | .ok outcome => outcome
  | .error f => ⟨h.name, false, 0, [if f.text.isEmpty then f.kind else f.text], []⟩

/-- The call of the log for a fault that a handler lets through. -/
def faultEntry (h : Handler) (a : Alert) (f : Fault) : Entry :=
  .log ⟨.error, .dispatcher, "handler_dispatch_error",
    [("handler", .text h.name), ("handler_type", .text h.kind), ("message", .text a.message)],
    some (.fault f)⟩

/-- What follows once a delivery has been tried. -/
def afterDelivery (h : Handler) (a : Alert) : Except Fault Outcome → Program Outcome
  | .ok outcome => pure outcome
  | .error f => do
    note (faultEntry h a f)
    pure (outcomeOf h (.error f))

theorem deliverThrough_eq (h : Handler) (datacenter : Text) (a : Alert) :
    deliverThrough h datacenter a = (h.deliver datacenter a).attempt >>= afterDelivery h a := by
  unfold deliverThrough
  refine congrArg (_ >>= ·) (funext fun x => ?_)
  cases x <;> rfl

theorem settled_afterDelivery {part : World → σ} {R : Except Failure Outcome → Prop}
    {x : Except Fault Outcome} (hR : R (.ok (outcomeOf h x))) (s : σ) :
    (afterDelivery h a x).Settled part R s := by
  cases x with
  | ok outcome => exact hR
  | error f => exact fun _ _ => hR

theorem keeps_afterDelivery {part : World → σ} (hsee : ∀ w e, part (w.see e) = part w)
    (x : Except Fault Outcome) : (afterDelivery h a x).Keeps part := by
  cases x with
  | ok outcome => trivial
  | error f => exact keeps_bind (keeps_note hsee _) fun _ => trivial

theorem quiet_afterDelivery (x : Except Fault Outcome) : (afterDelivery h a x).Quiet := by
  cases x with
  | ok outcome => trivial
  | error f => exact ⟨rfl, fun _ => trivial⟩

/-- What the dispatcher makes of what a handler comes to: a fault becomes a failed outcome. -/
def resultOf (h : Handler) : Except Failure Outcome → Except Failure Outcome
  | .error (.fault f) => .ok (outcomeOf h (.error f))
  | r => r

/-- An outcome or a fault always becomes an outcome. -/
theorem resultOf_mapError (h : Handler) (r : Except Fault Outcome) :
    resultOf h (r.mapError .fault) = .ok (outcomeOf h r) := by
  cases r <;> rfl

/-- Nothing but a panic or a stop passes through the dispatcher. -/
theorem eq_of_resultOf_eq_error {r : Except Failure Outcome} {f : Failure}
    (h : resultOf h r = .error f) : r = .error f := by
  rcases r with (_ | _ | _) | _ <;> first | exact h | cases h

/-- What settles what a handler comes to settles what the dispatcher makes of it. -/
theorem settled_deliverThrough {part : World → σ} {s : σ} {r : Except Failure Outcome}
    (hsettled : (h.deliver datacenter a).Settled part (· = r) s) :
    (deliverThrough h datacenter a).Settled part (· = resultOf h r) s := by
  rw [deliverThrough_eq]
  refine settled_bind (settled_attempt hsettled) ?_ ?_
  · rintro x s ⟨y, hy, hx⟩
    have hr : .ok (outcomeOf h x) = resultOf h r := by
      rw [← hy]
      rcases y with (_ | _ | _) | _ <;> cases hx <;> rfl
    exact settled_afterDelivery (R := (· = resultOf h r)) hr s
  · rintro f ⟨y, hy, hf⟩
    rw [← hy]
    rcases y with (_ | _ | _) | _ <;> cases hf <;> rfl

/-- No delivery through the dispatcher ends in a fault. -/
theorem settled_deliverThrough_not_fault (h : Handler) (datacenter : Text) (a : Alert) :
    (deliverThrough h datacenter a).Settled (fun _ => ()) (∀ f, · ≠ .error (.fault f)) () := by
  rw [deliverThrough_eq]
  refine settled_bind (settled_attempt (settled_of_forall (fun _ => trivial) _ _)) ?_ ?_
  · intro x s _
    exact settled_afterDelivery (fun _ => nofun) s
  · rintro x ⟨y, -, hx⟩ f hf
    rcases y with (_ | _ | _) | _ <;> cases hf <;> cases hx

/-- A delivery through the dispatcher changes no more of the world than that of the handler and the
log do. -/
theorem keeps_deliverThrough {part : World → σ} (hsee : ∀ w e, part (w.see e) = part w)
    (hkeeps : (h.deliver datacenter a).Keeps part) :
    (deliverThrough h datacenter a).Keeps part := by
  rw [deliverThrough_eq]
  exact keeps_bind (keeps_attempt hkeeps) (keeps_afterDelivery hsee)

/-- A delivery through the dispatcher shows what that of the handler shows. -/
theorem shows_deliverThrough {name message : Text}
    (hshows : (h.deliver datacenter a).Shows name datacenter message) :
    (deliverThrough h datacenter a).Shows name datacenter message := by
  rw [deliverThrough_eq]
  obtain ⟨next, hnext, hfinishing⟩ := hshows
  rw [hnext]
  exact ⟨_, rfl, finishing_bind (finishing_attempt hfinishing) quiet_afterDelivery⟩

/-- Deliveries that do not depend on each other do not do so through the dispatcher either. -/
theorem independent_deliveries {part : Nat → World → σ} {hs : List Handler}
    {rs : List (Except Failure Outcome)} {w : World}
    (hind : Independent part (hs.map (·.deliver datacenter a)) rs w) :
    Independent part (hs.map (deliverThrough · datacenter a)) (List.zipWith resultOf hs rs) w where
  length_eq := by
    have hlength := hind.length_eq
    simp only [List.length_map] at hlength
    simp [hlength]
  settled i p r hp hr := by
    obtain ⟨h, hh, rfl⟩ := Option.map_eq_some_iff.mp (List.getElem?_map.symm.trans hp)
    obtain ⟨h', x, hh', hx, rfl⟩ := List.getElem?_zipWith_eq_some.mp hr
    obtain rfl := Option.some.inj (hh.symm.trans hh')
    exact settled_deliverThrough (hind.settled i _ _ (by rw [List.getElem?_map, hh]; rfl) hx)
  keeps i j p hp hij := by
    obtain ⟨h, hh, rfl⟩ := Option.map_eq_some_iff.mp (List.getElem?_map.symm.trans hp)
    exact keeps_deliverThrough (hind.unseen i)
      (hind.keeps i j _ (by rw [List.getElem?_map, hh]; rfl) hij)
  unseen := hind.unseen

/-- Outcomes and faults all become outcomes. -/
theorem zipWith_resultOf_mapError (hs : List Handler) (rs : List (Except Fault Outcome)) :
    List.zipWith resultOf hs (rs.map (·.mapError .fault)) =
      (List.zipWith outcomeOf hs rs).map .ok := by
  rw [List.zipWith_map_right, List.map_zipWith]
  congr
  funext h r
  exact resultOf_mapError h r

/-! ## What the dispatcher adds -/

section Deliver

variable {d : Dispatcher} {w w' : World}

def names (hs : List Handler) (i : Nat) : Text := (hs.map (·.name)).getD i []

/-- The world in which the deliveries of an alert begin. -/
def received (d : Dispatcher) (datacenter : Text) (a : Alert) (w : World) : World :=
  w.see (.log (d.logReceived datacenter a))

/-- When all deliveries come to outcomes, those are the result. -/
theorem deliver_of_ok {outcomes : List Outcome}
    (hrun : d.runAll (d.deliveries datacenter a) (d.received datacenter a w) =
      (.ok outcomes, w')) :
    (d.deliver datacenter a w).1 = .ok ⟨datacenter, outcomes⟩ ∧
      (d.deliver datacenter a w).2.marks = w'.marks := by
  rw [received] at hrun
  rw [deliver, hrun]
  refine ⟨rfl, ?_⟩
  show (if _ then w' else _).marks = _
  split
  · rfl
  · exact World.marks_see_of_not_mark rfl w'

/-- When a failure breaks the deliveries off, it gets out and nothing more is logged. -/
theorem deliver_of_error {f : Failure}
    (hrun : d.runAll (d.deliveries datacenter a) (d.received datacenter a w) =
      (.error f, w')) : d.deliver datacenter a w = (.error f, w') := by
  rw [received] at hrun
  rw [deliver, hrun]

/-- The dispatcher leaves the marks of the deliveries and no others. -/
theorem marks_deliver (d : Dispatcher) (datacenter : Text) (a : Alert) (w : World) :
    (d.deliver datacenter a w).2.marks =
      (d.runAll (d.deliveries datacenter a) (d.received datacenter a w)).2.marks := by
  match hrun : d.runAll (d.deliveries datacenter a) (d.received datacenter a w) with
  | (.ok outcomes, w') => exact (deliver_of_ok hrun).2
  | (.error f, w') => rw [deliver_of_error hrun]

theorem marks_received (d : Dispatcher) (datacenter : Text) (a : Alert) (w : World) :
    (d.received datacenter a w).marks = w.marks :=
  World.marks_see_of_not_mark rfl w

theorem shows_deliveries {hs : List Handler}
    (hshows : ∀ h ∈ hs, (h.deliver datacenter a).Shows h.name datacenter a.message) (i : Nat)
    (p : Program Outcome) (hp : (hs.map (deliverThrough · datacenter a))[i]? = some p) :
    p.Shows (names hs i) datacenter a.message := by
  obtain ⟨h, hh, rfl⟩ := Option.map_eq_some_iff.mp (List.getElem?_map.symm.trans hp)
  have hname : names hs i = h.name := by simp [names, List.getD_eq_getElem?_getD, hh]
  rw [hname]
  exact shows_deliverThrough (hshows h (List.mem_of_getElem? hh))

end Deliver

end AlertRelay.Dispatcher
