import AlertRelay.StandIn
import AlertRelay.Proofs.Schedule.Breaks
import AlertRelay.Proofs.Schedule.Independence

/-!
# Stand-ins among other handlers

A stand-in comes to what it was told whatever the world is (`StandIn.settled_deliver`), so stand-ins
never depend on each other, and it shows all that it does (`StandIn.shows_deliver`). It waits no
more than once (`StandIn.steady_deliver`).
-/

namespace AlertRelay.StandIn

variable {datacenter : Text} {a : Alert}

/-- A stand-in comes to what it was told, whatever the world is. -/
theorem settled_deliver (s : StandIn) :
    (s.handler.deliver datacenter a).Settled (fun _ => ()) (· = s.result) () := by
  have hresult : (Program.ofExcept s.result).Settled (fun _ => ()) (· = s.result) () := by
    cases s.result <;> rfl
  show (s.deliver datacenter a).Settled _ _ _
  unfold deliver
  cases s.delay with
  | none => exact fun _ _ _ _ => hresult
  | some length => exact fun _ _ _ _ _ _ => hresult

/-- Stand-ins do not depend on each other, whatever they are told to come to. -/
theorem independent (ss : List StandIn) (datacenter : Text) (a : Alert) (w : World) :
    Independent (fun _ _ => ()) (ss.map (·.handler.deliver datacenter a)) (ss.map (·.result))
      w where
  length_eq := by simp
  settled i p r hp hr := by
    obtain ⟨s, hs, rfl⟩ := Option.map_eq_some_iff.mp (List.getElem?_map.symm.trans hp)
    obtain ⟨s', hs', rfl⟩ := Option.map_eq_some_iff.mp (List.getElem?_map.symm.trans hr)
    obtain rfl := Option.some.inj (hs.symm.trans hs')
    exact s.settled_deliver
  keeps _ _ p _ _ := p.keeps_of_unit
  unseen _ _ _ := rfl

/-- A stand-in shows that it starts and that it finishes or is cancelled. -/
theorem shows_deliver (s : StandIn) :
    (s.handler.deliver datacenter a).Shows s.handler.name datacenter a.message := by
  have hresult : (Program.ofExcept s.result).Quiet := by
    cases s.result <;> trivial
  show (s.deliver datacenter a).Shows s.name datacenter a.message
  unfold deliver
  cases s.delay with
  | none => exact ⟨_, rfl, .inl ⟨rfl, hresult⟩⟩
  | some length => exact ⟨_, rfl, rfl, .inl ⟨rfl, hresult⟩⟩

/-- A stand-in waits at most once. -/
theorem steady_deliver (s : StandIn) : (s.handler.deliver datacenter a).Steady := by
  have hresult (yielded : Bool) : (Program.ofExcept s.result).SteadyAfter yielded := by
    cases s.result <;> trivial
  show (s.deliver datacenter a).Steady
  unfold deliver
  cases s.delay with
  | none => exact fun _ _ => hresult _
  | some length => exact fun _ => ⟨nofun, fun _ => hresult _⟩

end AlertRelay.StandIn
