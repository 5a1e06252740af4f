import AlertRelay.Command.Run
import AlertRelay.Proofs.Sessions.Slots

/-!
# The command leaves no session open

Whatever ends the delivery of the alert, the command closes the handlers before it ends itself. The
deliveries leave open only sessions that slots of channels hold, and closing the handlers releases
these slots one after another; so every session of a run was closed, once, and after its last post
(`run_closes_sessions`).
-/

namespace AlertRelay

open Program SessionEvent

/-! ## Closing handlers -/

namespace Dispatcher

theorem run_closeHandler {h : Handler} {w w' : World} (hclose : h.close.run w = (.ok (), w')) :
    (closeHandler h).run w = (.ok (), w') := by
  rw [closeHandler, run_bind_ok (run_attempt_ok hclose)]
  rfl

variable {k : Nat} {past : List SessionEvent} {start : List Entry} {delay : Seconds}

/-- Closing the handler of a channel releases its slot. -/
theorem run_closeHandler_of_channel {c : ChannelConfig} {cs : List ChannelConfig} {slot : Nat}
    {h : Handler} (hc : c.handler delay slot = .ok h) {w : World}
    (hk : (sessionSlots slot (c :: cs)).length ≤ k)
    (hw : w.Follows k (sessionSlots slot (c :: cs)) past start) :
    ∃ w', (closeHandler h).run w = (.ok (), w') ∧
      w'.Follows k (sessionSlots (slot + 1) cs) past start := by
  have hclose := c.close_handler hc
  rw [sessionSlots] at hw hk
  cases hsession : c.hasSession with
  | false =>
    rw [hsession] at hclose hw
    refine ⟨w, run_closeHandler ?_, hw⟩
    rw [hclose]
    rfl
  | true =>
    rw [hsession] at hclose hw hk
    refine ⟨_, run_closeHandler ?_, hw.release (Nat.le_of_succ_le hk)⟩
    rw [hclose]
    rfl

/-- Closing the handlers of channels returns and releases all of their slots. -/
theorem run_closeAll {cs : List ChannelConfig} {slot : Nat} {hs : List Handler}
    (hhs : handlersOf delay slot cs = .ok hs) {w : World}
    (hk : (sessionSlots slot cs).length ≤ k)
    (hw : w.Follows k (sessionSlots slot cs) past start) :
    ∃ w', (closeAll hs).run w = (.ok (), w') ∧ w'.Follows k [] past start := by
  induction cs generalizing slot hs w with
  | nil =>
    obtain rfl := Except.ok.inj hhs
    exact ⟨w, rfl, hw⟩
  | cons c cs ih =>
    obtain ⟨h, hh, hhs⟩ := exists_of_bind_eq_ok hhs
    obtain ⟨rest, hrest, hhs⟩ := exists_of_bind_eq_ok hhs
    obtain rfl := Except.ok.inj hhs
    obtain ⟨w', hrun, hw'⟩ := run_closeHandler_of_channel hh hk hw
    have hk' : (sessionSlots (slot + 1) cs).length ≤ k := by
      rw [sessionSlots] at hk
      split at hk
      · exact Nat.le_of_succ_le hk
      · exact hk
    obtain ⟨w'', hrun', hw''⟩ := ih hrest hk' hw'
    refine ⟨w'', ?_, hw''⟩
    rw [closeAll, run_bind_ok hrun]
    exact hrun'

end Dispatcher

/-! ## Runs of the command -/

namespace Command

variable {files : Config.Files} {network : Network} {o : Options} {d : Dispatcher}
  {datacenter : Text} {a : Alert} {w w' : World}

/-- The world in which the delivery of the command begins. -/
def noticed (d : Dispatcher) (o : Options) (w : World) : World :=
  if d.handlers.isEmpty then w.see (.log (noHandlers o)) else w

/-- The command ends as the delivery of the alert does, once the handlers are closed. -/
theorem deliver_of_close
    (hclose : d.close (d.deliver datacenter a (noticed d o w)).2 = (.ok (), w')) :
    deliver d o datacenter a w =
      match (d.deliver datacenter a (noticed d o w)).1 with
      | .error f => (.ofFailure f, w')
      | .ok result =>
        (.exit (.int (if result.allSucceeded then 0 else 1)),
          result.outcomes.foldl (fun w outcome => w.see (.log (handlerOutcome outcome))) w') := by
  rcases hdeliver : d.deliver datacenter a (noticed d o w) with ⟨result, w₁⟩
  rw [hdeliver] at hclose
  rw [noticed] at hdeliver
  simp only [deliver, hdeliver, hclose]
  cases result <;> rfl

/-- A run of the command delivers an alert through the handlers of some settings, or it ends before
anything is seen. -/
theorem world_run_cases (files : Config.Files) (network : Network) (o : Options) :
    (run files network o).world = { network := network } ∨
      ∃ (settings : Settings) (d : Dispatcher) (a : Alert), settings.dispatcher = .ok d ∧
        (run files network o).world =
          (deliver d o (o.datacenterOr settings) a { network := network }).2 := by
  unfold run
  split
  · exact .inl rfl
  · next loaded _ _ =>
    dsimp only
    split
    · exact .inl rfl
    · split
      · exact .inl rfl
      · exact .inl rfl
      · next a d _ hd => exact .inr ⟨loaded.settings, d, a, hd, rfl⟩

/-! ## Every way out -/

/-- The deliveries of a dispatcher and the closing of its handlers make of the sessions what they
show, and leave none open. -/
theorem exists_close_after_deliver {settings : Settings} (hd : settings.dispatcher = .ok d)
    (datacenter : Text) (a : Alert) (o : Options) (network : Network) :
    ∃ k w, d.close (d.deliver datacenter a (noticed d o { network := network })).2 = (.ok (), w) ∧
      w.Follows k [] [] [] := by
  obtain ⟨hs, hhs, hd⟩ := exists_of_bind_eq_ok hd
  obtain rfl := Except.ok.inj hd
  let slots := sessionSlots 0 settings.handlers.channels
  have hI : DeliveryInvariant (World.Follows slots.length slots [] []) (fun _ => True)
      (· ∈ slots) := World.deliveryInvariant_follows (Nat.le_refl _)
  have hnoticed : (noticed ⟨hs, settings.dispatch.concurrent⟩ o
      { network := network }).Follows slots.length slots [] [] := by
    unfold noticed
    split
    · exact hI.log _ _ trivial (World.follows_fresh network)
    · exact World.follows_fresh network
  have hdeliveries : ∀ h ∈ hs, (h.deliver datacenter a).Respects
      (World.Follows slots.length slots [] []) := by
    intro h hh
    obtain ⟨c, -, slot, hc, hslot⟩ := exists_channel_of_mem_handlersOf hhs hh
    exact c.respects_deliver hI trivial hslot hc datacenter a
  have hdelivered := Dispatcher.upheld_deliver (d := ⟨hs, settings.dispatch.concurrent⟩) hnoticed
    (fun w call _ => hI.log w call trivial) hdeliveries
  exact ⟨slots.length, Dispatcher.run_closeAll hhs (Nat.le_refl _) hdelivered⟩

/-- Logging outcomes does nothing to sessions. -/
theorem follows_foldl_handlerOutcome {k : Nat} {slots : List Nat} {past : List SessionEvent}
    {start : List Entry} (outcomes : List Outcome) (h : w.Follows k slots past start) :
    (outcomes.foldl (fun w outcome => w.see (.log (handlerOutcome outcome))) w).Follows
      k slots past start := by
  induction outcomes generalizing w with
  | nil => exact h
  | cons outcome outcomes ih => exact ih (h.see rfl)

/-- In the end the sessions are what a run shows of them, and no slot holds an open one. -/
theorem follow_run (files : Config.Files) (network : Network) (o : Options) :
    (run files network o).world.sessions.Follow []
      (sessionEvents (run files network o).world.trace) := by
  rcases world_run_cases files network o with hworld | ⟨settings, d, a, hd, hworld⟩
  · rw [hworld]
    exact Sessions.Follow.nil []
  · obtain ⟨k, w, hclose, hw⟩ :=
      exists_close_after_deliver hd (o.datacenterOr settings) a o network
    have hend : (run files network o).world.Follows k [] [] [] := by
      rw [hworld, deliver_of_close hclose]
      split
      · exact hw
      · exact follows_foldl_handlerOutcome _ hw
    obtain ⟨es, hes, hfollow, -⟩ := hend
    rw [hes]
    exact hfollow

/-- **No way out of the command leaks a session.** Whatever the settings, the options and the
network are, and however the run ends: its sessions are opened, posted on and closed in order, none
is open in the end, and every session that was opened was closed exactly once and after its last
post. -/
theorem run_closes_sessions (files : Config.Files) (network : Network) (o : Options) :
    let w := (run files network o).world
    let events := sessionEvents w.trace
    Orderly events ∧ w.sessions.live = [] ∧
      ∀ n, .opened n ∈ events → ∃ before after, events = before ++ .closed n :: after ∧
        .opened n ∈ before ∧ .closed n ∉ before ∧ .closed n ∉ after ∧ .posted n ∉ after := by
  intro w events
  have hfollow : w.sessions.Follow [] events := follow_run files network o
  refine ⟨hfollow.orderly, hfollow.live_eq_nil, fun n hopened => ?_⟩
  have hopen : openAfter events = [] := hfollow.live.symm.trans hfollow.live_eq_nil
  obtain ⟨before, after, hsplit⟩ :=
    Orderly.exists_close hopen (not_expired_mem_sessionEvents _) hopened
  have horderly := hfollow.orderly
  rw [hsplit] at horderly
  obtain ⟨hopened, hbefore, hafter, hposted, -⟩ := horderly.after_close
  exact ⟨before, after, hsplit, hopened, hbefore, hafter, hposted⟩

end Command

end AlertRelay
