import AlertRelay.Handler
import AlertRelay.Proofs.Run

/-!
# The life of a handler

A handler lives through steps: it delivers alerts, it is closed, and its sessions may end from
outside. `Handler.life` records what each step came to and what was seen during it. A step that
fails is followed by the next one, unless the process stops with it.
-/

namespace AlertRelay

inductive HandlerStep where
  | deliver (datacenter : Text) (a : Alert)
  | close
  /-- Every session ends from outside. -/
  | expire

/-- What a step in the life of a handler came to, and what was seen during it. Only a delivery has
an outcome. -/
structure StepRecord where
  step : HandlerStep
  result : Except Failure (Option Outcome)
  seen : List Entry

def StepRecord.stops (r : StepRecord) : Bool :=
  match r.result with
  | .error (.stop _) => true
  | _ => false

namespace Handler

def perform (h : Handler) (w : World) : HandlerStep → StepRecord × World
  | .deliver datacenter a =>
    let p := h.deliver datacenter a
    (⟨.deliver datacenter a, (p.run w).1.map some, p.seen w⟩, (p.run w).2)
  | .close => (⟨.close, (h.close.run w).1.map fun _ => none, h.close.seen w⟩, (h.close.run w).2)
  | .expire => (⟨.expire, .ok none, []⟩, w.expire)

def life (h : Handler) : List HandlerStep → World → List StepRecord
  | [], _ => []
  | s :: steps, w =>
    let (record, w) := h.perform w s
    record :: if record.stops then [] else h.life steps w

theorem life_cons (h : Handler) (s : HandlerStep) (steps : List HandlerStep) (w : World) :
    h.life (s :: steps) w =
      (h.perform w s).1 ::
        if (h.perform w s).1.stops then [] else h.life steps (h.perform w s).2 := rfl

/-- A record belongs to a step that was carried out in some world. -/
theorem exists_perform_of_mem_life {h : Handler} {steps : List HandlerStep} {w : World}
    {r : StepRecord} (hr : r ∈ h.life steps w) : ∃ w' s, r = (h.perform w' s).1 := by
  induction steps generalizing w with
  | nil => cases hr
  | cons s steps ih =>
    rw [life_cons] at hr
    rcases List.mem_cons.mp hr with rfl | hr
    · exact ⟨w, s, rfl⟩
    · by_cases hs : (h.perform w s).1.stops = true
      · simp [hs] at hr
      · rw [if_neg hs] at hr
        exact ih hr

/-- What is seen during a delivery is what its program shows in some world. -/
theorem exists_seen_of_mem_life {h : Handler} {steps : List HandlerStep} {w : World}
    {r : StepRecord} (hr : r ∈ h.life steps w) {datacenter : Text} {a : Alert}
    (hstep : r.step = .deliver datacenter a) :
    ∃ w', r.seen = (h.deliver datacenter a).seen w' := by
  obtain ⟨w', s, rfl⟩ := exists_perform_of_mem_life hr
  cases s <;> simp only [perform, reduceCtorEq, HandlerStep.deliver.injEq] at hstep
  obtain ⟨rfl, rfl⟩ := hstep
  exact ⟨w', rfl⟩

end Handler

end AlertRelay
