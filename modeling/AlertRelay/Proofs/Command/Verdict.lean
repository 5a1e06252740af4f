import AlertRelay.Proofs.Command.Options
import AlertRelay.Proofs.Command.Sessions
import AlertRelay.Proofs.Config.Cache
import AlertRelay.Proofs.Dispatch.Outcomes

/-!
# The verdict of the command

Once the settings are loaded, the log is set up and the alert is built, a run of the command goes
through to its end unless a console channel is asked to break it: it delivers the alert through the
handler of every configured channel, logs each outcome once and in order, and its exit code says
whether all of them succeeded (`run_verdict`).
-/

namespace AlertRelay

open Program

/-! ## The calls of the command -/

def commandCalls (es : List Entry) : List LogCall :=
  es.filterMap fun
    | .log call => if call.logger = .command then some call else none
    | _ => none

@[simp] theorem commandCalls_append (es fs : List Entry) :
    commandCalls (es ++ fs) = commandCalls es ++ commandCalls fs :=
  List.filterMap_append

/-- An effect that is no call of the log makes none for the command. -/
theorem commandCalls_perform (w : World) (e : Effect) (he : ∀ call, e ≠ .note (.log call)) :
    commandCalls (w.perform e).2.trace = commandCalls w.trace := by
  have hshown : commandCalls (w.shown e) = [] := by
    -- Only a note can be a call of the log; what an effect on sessions shows depends on the slot.
    cases e with
    | note entry => cases entry <;> first | exact absurd rfl (he _) | rfl
    | acquire slot timeout =>
      cases h : w.sessions.current? slot <;> simp [World.shown, h, commandCalls]
    | release slot => cases h : w.sessions.current? slot <;> simp [World.shown, h, commandCalls]
    | _ => rfl
  rw [World.trace_perform, commandCalls_append, hshown, List.append_nil]

/-- Deliveries make no calls for the command. -/
theorem deliveryInvariant_commandCalls (calls : List LogCall) :
    DeliveryInvariant (fun w => commandCalls w.trace = calls) (· ≠ .command) (fun _ => True) where
  log w call hlogger h := by
    rw [World.trace_see, commandCalls_append, h]
    simp [commandCalls, hlogger]
  aside w e he h := by
    refine (commandCalls_perform w e ?_).trans h
    rintro call rfl
    exact he
  exchange w slot timeout url payload _ h := by
    have htaken := commandCalls_perform w (.acquire slot timeout) nofun
    have hposted := commandCalls_perform (w.take slot timeout).2
      (.post (w.take slot timeout).1 url payload) nofun
    exact hposted.trans (htaken.trans h)

/-! ## Channels that return -/

namespace ChannelConfig

/-- Whether a channel is a console that is asked to break the delivery for all channels. -/
def Breaks : ChannelConfig → Prop
  | .console _ c =>
    Console.Level.ofName? (Console.levelName c) = some .panic ∨
      Console.Level.ofName? (Console.levelName c) = some .fatal
  | _ => False

/-- On a network that raises only faults, the deliveries of a channel that is not asked to break
return an outcome under its name. -/
theorem returns_deliver {n : Network} (hn : n.OnlyFaults) {c : ChannelConfig} {delay : Seconds}
    {slot : Nat} {h : Handler} (hc : c.handler delay slot = .ok h) (hbreaks : ¬ c.Breaks)
    (datacenter : Text) (a : Alert) :
    (h.deliver datacenter a).Returns n (Outcome.Accountable h.name) := by
  obtain ⟨retry, rfl⟩ := exists_handlerWith hc
  cases c with
  | console name c =>
    have hending : Console.ending c a = none := by
      simp only [Breaks, not_or] at hbreaks
      unfold Console.ending
      split <;> simp_all
    have hsettled := Console.settled_deliver (n := n) c name .channels datacenter a
    rwa [hending] at hsettled
  | email name c =>
    exact Email.returns_deliver hn (Email.neverBreaks_lookupServer hn) name datacenter a
  | pagerduty name c => exact PagerDuty.returns_deliver hn _ name datacenter a
  | slack name c => exact Slack.Webhook.returns_deliver hn _ name datacenter a

end ChannelConfig

/-- The handlers of channels bear their names, in order. -/
theorem names_handlersOf {delay : Seconds} {slot : Nat} {cs : List ChannelConfig}
    {hs : List Handler} (h : handlersOf delay slot cs = .ok hs) :
    hs.map (·.name) = cs.map (·.name) := by
  induction cs generalizing slot hs with
  | nil =>
    obtain rfl := Except.ok.inj h
    rfl
  | cons c cs ih =>
    obtain ⟨first, hfirst, h⟩ := exists_of_bind_eq_ok h
    obtain ⟨rest, hrest, h⟩ := exists_of_bind_eq_ok h
    obtain rfl := Except.ok.inj h
    obtain ⟨retry, rfl⟩ := ChannelConfig.exists_handlerWith hfirst
    rw [List.map_cons, List.map_cons, ih hrest, ChannelConfig.name_handlerWith]

/-- Channels come kind by kind: consoles, mail, PagerDuty, Slack. -/
theorem HandlersConfig.names_channels (c : HandlersConfig) :
    c.channels.map (·.name) =
      c.stdout.map (·.1) ++ c.email.map (·.1) ++ c.pagerduty.map (·.1) ++ c.slack.map (·.1) := by
  simp [channels, ChannelConfig.name, Function.comp_def]

/-- Only consoles break deliveries. -/
theorem HandlersConfig.forall_not_breaks {c : HandlersConfig}
    (h : ∀ entry ∈ c.stdout,
      Console.Level.ofName? (Console.levelName entry.2) ≠ some .panic ∧
        Console.Level.ofName? (Console.levelName entry.2) ≠ some .fatal) :
    ∀ channel ∈ c.channels, ¬ channel.Breaks := by
  intro channel hchannel
  cases channel with
  | console name console =>
    have hentry : (name, console) ∈ c.stdout := by simpa [channels] using hchannel
    exact not_or.mpr (h _ hentry)
  | _ => exact id

/-- On a network that raises only faults, the delivery through channels none of which is asked to
break it returns an outcome of each, in order. -/
theorem Settings.deliver_of_channels {settings : Settings} {d : Dispatcher}
    (hd : settings.dispatcher = .ok d) (hbreaks : ∀ c ∈ settings.handlers.channels, ¬ c.Breaks)
    {n : Network} (hn : n.OnlyFaults) {w : World} (hw : w.network = n) (datacenter : Text)
    (a : Alert) :
    ∃ outcomes, (d.deliver datacenter a w).1 = .ok ⟨datacenter, outcomes⟩ ∧
      outcomes.map (·.channel) = settings.handlers.channels.map (·.name) ∧
      List.Forall₂ (fun h outcome => outcome.channel = h.name ∧
        (h.deliver datacenter a).CanEnd n (.ok outcome)) d.handlers outcomes := by
  subst hw
  obtain ⟨hs, hhs, hd⟩ := exists_of_bind_eq_ok hd
  obtain rfl := Except.ok.inj hd
  have hreturns : ∀ h ∈ hs, (h.deliver datacenter a).Returns w.network fun outcome =>
      outcome.channel = h.name ∧ (h.deliver datacenter a).CanEnd w.network (.ok outcome) := by
    intro h hh
    obtain ⟨c, hc, slot, hhandler, -⟩ := exists_channel_of_mem_handlersOf hhs hh
    have hdeliver := c.returns_deliver hn hhandler (hbreaks c hc) datacenter a
    refine settled_mono hdeliver.canEnd ?_
    rintro (f | outcome) hend
    · exact hend
    · exact ⟨hend.1.channel, hend.2⟩
  obtain ⟨outcomes, hdeliver, heach⟩ :=
    Dispatcher.deliver_of_returns (d := ⟨hs, settings.dispatch.concurrent⟩) hreturns
  refine ⟨outcomes, hdeliver, ?_, heach⟩
  have hnames : List.Forall₂ (· = ·) (outcomes.map (·.channel)) (hs.map (·.name)) := by
    rw [List.forall₂_map_left_iff, List.forall₂_map_right_iff]
    exact heach.flip.imp fun outcome h hend => hend.1
  rw [← names_handlersOf hhs]
  exact List.forall₂_eq_eq_eq ▸ hnames

namespace Command

variable {files : Config.Files} {network : Network} {o : Options} {settings : Settings} {a : Alert}
  {d : Dispatcher}

/-! ## The verdict -/

/-- The call for an outcome: its channel, whether it is a success, its attempts and its errors. -/
def outcomeCall (outcome : Outcome) : LogCall :=
  ⟨.info, .command, "handler_outcome",
    [("handler", .text outcome.channel), ("succeeded", .bool outcome.succeeded),
      ("attempts", .int outcome.attempts), ("errors", .list (outcome.errors.map .text))], none⟩

/-- The calls for a dispatcher without handlers: one with the path of the settings, if it was
given. -/
def emptyCalls (d : Dispatcher) (o : Options) : List LogCall :=
  match d.handlers, o.config with
  | [], some path =>
    [⟨.warning, .command, "no_handlers_configured", [("config", .text path)], none⟩]
  | [], none => [⟨.warning, .command, "no_handlers_configured", [("config", .null)], none⟩]
  | _ :: _, _ => []

/-- What a run of the command tells of the delivery of an alert. -/
structure Verdict (network : Network) (o : Options) (settings : Settings) (a : Alert)
    (report : Report) (d : Dispatcher) (outcomes : List Outcome) : Prop where
  /-- The alert goes through the handlers of the settings. -/
  dispatcher : settings.dispatcher = .ok d
  /-- Its datacenter is that of the options, unless that is missing or empty. -/
  datacenter : o.datacenterOr settings =
    match o.datacenter with
    | some name => if name = "" then settings.datacenter else Text.ofString name
    | none => settings.datacenter
  /-- In its details a line feed stands for every pair of a backslash and an n, of which the parts
  in between have none. -/
  details : ∃ part parts, (∀ p ∈ part :: parts, ¬ ['\\', 'n'] <:+: p) ∧
    o.details.toList = List.intercalate ['\\', 'n'] (part :: parts) ∧
    a.details = Text.ofChars (List.intercalate ['\n'] (part :: parts))
  /-- The delivery returns. -/
  delivered : (d.deliver (o.datacenterOr settings) a (noticed d o { network := network })).1 =
    .ok ⟨o.datacenterOr settings, outcomes⟩
  /-- So does the closing of the handlers after it, and then the run shows nothing but the
  outcomes. -/
  closed : ∃ w,
    d.close (d.deliver (o.datacenterOr settings) a (noticed d o { network := network })).2 =
        (.ok (), w) ∧
      report.world.trace = w.trace ++ outcomes.map fun outcome => .log (outcomeCall outcome)
  /-- The outcomes are what the handlers come to, in their order. -/
  each : List.Forall₂ (fun h outcome => outcome.channel = h.name ∧
    (h.deliver (o.datacenterOr settings) a).CanEnd network (.ok outcome)) d.handlers outcomes
  /-- There is one for every configured channel: first those of consoles, then those of email,
  PagerDuty and Slack, each in the order in which they are configured. -/
  channels : outcomes.map (·.channel) =
    settings.handlers.stdout.map (·.1) ++ settings.handlers.email.map (·.1) ++
      settings.handlers.pagerduty.map (·.1) ++ settings.handlers.slack.map (·.1)
  /-- The command logs each of them once, and besides only that there is no handler. -/
  calls : commandCalls report.world.trace = emptyCalls d o ++ outcomes.map outcomeCall
  /-- The exit code says whether all of them are successes. -/
  ending : report.ending =
    .exit (.int (if ∀ outcome ∈ outcomes, outcome.succeeded = true then 0 else 1))

theorem emptyCalls_eq (d : Dispatcher) (o : Options) :
    emptyCalls d o = if d.handlers.isEmpty then [noHandlers o] else [] := by
  unfold emptyCalls noHandlers
  cases d.handlers <;> cases o.config <;> rfl

/-- A run delivers the alert once everything that it needs has been built. -/
theorem run_eq_deliver (network : Network)
    (hload : Config.loadSettings files o.config = .ok settings)
    (hlog : (({} : Log.Root).setUp settings.logging (o.logLevel.map Text.ofString) none).1 = .ok ())
    (halert : o.alert = .ok a) (hd : settings.dispatcher = .ok d) :
    (run files network o).ending =
        (deliver d o (o.datacenterOr settings) a { network := network }).1 ∧
      (run files network o).world =
        (deliver d o (o.datacenterOr settings) a { network := network }).2 := by
  have hloaded := Config.Cache.load_of_ok hload {}
  rcases hsetUp : ({} : Log.Root).setUp settings.logging (o.logLevel.map Text.ofString) none with
    ⟨result, log⟩
  rw [hsetUp] at hlog
  obtain rfl : result = .ok () := hlog
  unfold run
  simp only [hloaded, hsetUp, halert, hd, and_self]

theorem network_noticed (d : Dispatcher) (o : Options) (w : World) :
    (noticed d o w).network = w.network := by
  unfold noticed
  split <;> rfl

theorem trace_foldl_handlerOutcome (outcomes : List Outcome) (w : World) :
    (outcomes.foldl (fun w outcome => w.see (.log (handlerOutcome outcome))) w).trace =
      w.trace ++ outcomes.map fun outcome => .log (handlerOutcome outcome) := by
  rw [← World.trace_foldl_see, List.foldl_map]

/-- The calls about outcomes are all of the command's own. -/
theorem commandCalls_outcomes (outcomes : List Outcome) :
    commandCalls (outcomes.map fun outcome => .log (handlerOutcome outcome)) =
      outcomes.map handlerOutcome := by
  induction outcomes with
  | nil => rfl
  | cons outcome outcomes ih =>
    rw [List.map_cons, List.map_cons, ← ih]
    rfl

/-- Up to the end of the delivery and of the closing of the handlers, the command logs only that
there is no handler: what handlers log they log under other names. -/
theorem commandCalls_of_close (hd : settings.dispatcher = .ok d) {datacenter : Text} {w : World}
    (hclose : d.close (d.deliver datacenter a (noticed d o { network := network })).2 =
      (.ok (), w)) :
    commandCalls w.trace = if d.handlers.isEmpty then [noHandlers o] else [] := by
  obtain ⟨hs, hhs, hd⟩ := exists_of_bind_eq_ok hd
  obtain rfl := Except.ok.inj hd
  -- The notice comes before the delivery, so it is a part of what the delivery keeps up.
  let calls := if hs.isEmpty then [noHandlers o] else []
  let I : World → Prop := fun w => commandCalls w.trace = calls
  have hI : DeliveryInvariant I (· ≠ .command) fun _ => True := deliveryInvariant_commandCalls calls
  have hlog : ∀ (w : World) (call : LogCall), call.logger = .dispatcher → I w →
      I (w.see (.log call)) :=
    fun w call hcall => hI.log w call (by simp [hcall])
  have hnoticed : I (noticed ⟨hs, settings.dispatch.concurrent⟩ o { network := network }) := by
    unfold noticed
    split <;> simp_all [I, calls, commandCalls, World.see, noHandlers]
  have hdeliveries : ∀ h ∈ hs, (h.deliver datacenter a).Respects I := by
    intro h hh
    obtain ⟨c, -, slot, hc, -⟩ := exists_channel_of_mem_handlersOf hhs hh
    exact c.respects_deliver hI (by decide) (fun _ => trivial) hc datacenter a
  have hcloses : ∀ h ∈ hs, h.close.Respects I := by
    intro h hh
    obtain ⟨c, -, slot, hc, -⟩ := exists_channel_of_mem_handlersOf hhs hh
    rw [c.close_handler hc]
    split
    · exact fun w hw => (commandCalls_perform w (.release slot) (by simp)).trans hw
    · exact respects_pure ()
  have hdelivered := Dispatcher.upheld_deliver (d := ⟨hs, settings.dispatch.concurrent⟩) hnoticed
    hlog hdeliveries
  have hclosed := (Dispatcher.respects_closeAll hlog hcloses _ hdelivered).run
  rw [Dispatcher.close] at hclose
  rwa [hclose] at hclosed

/-- **Without channels that break it, a run of the command tells of every channel.** Once settings
are loaded, the log is set up and the alert is built, and on a network that raises only faults, the
run ends with a verdict on the outcomes of all configured channels. -/
theorem run_verdict (hload : Config.loadSettings files o.config = .ok settings)
    (hlog : (({} : Log.Root).setUp settings.logging (o.logLevel.map Text.ofString) none).1 = .ok ())
    (halert : o.alert = .ok a)
    (hlevels : ∀ entry ∈ settings.handlers.stdout,
      Console.Level.ofName? (Console.levelName entry.2) ≠ some .panic ∧
        Console.Level.ofName? (Console.levelName entry.2) ≠ some .fatal)
    (hn : network.OnlyFaults) :
    ∃ d outcomes, Verdict network o settings a (run files network o) d outcomes := by
  obtain ⟨d, hd⟩ := Settings.exists_dispatcher hload
  let datacenter := o.datacenterOr settings
  have hnetwork : (noticed d o { network := network }).network = network := network_noticed d o _
  obtain ⟨outcomes, hdeliver, hnames, heach⟩ := Settings.deliver_of_channels hd
    (HandlersConfig.forall_not_breaks hlevels) hn hnetwork datacenter a
  obtain ⟨_, w, hclose, -⟩ := exists_close_after_deliver hd datacenter a o network
  obtain ⟨hending, hworld⟩ := run_eq_deliver network hload hlog halert hd
  -- From here on the run is its delivery, the closing of its handlers and the outcomes.
  rw [deliver_of_close hclose, hdeliver] at hending hworld
  have htrace : (run files network o).world.trace =
      w.trace ++ outcomes.map fun outcome => .log (handlerOutcome outcome) :=
    (congrArg World.trace hworld).trans (trace_foldl_handlerOutcome outcomes w)
  refine ⟨d, outcomes, ?_⟩
  constructor
  case dispatcher => exact hd
  case datacenter => exact datacenterOr_eq o settings
  case details =>
    obtain ⟨part, parts, hfree, hdetails, hunescaped⟩ := exists_unescapeLines o.details.toList
    exact ⟨part, parts, hfree, hdetails, (details_of_alert halert).trans (congrArg _ hunescaped)⟩
  case delivered => exact hdeliver
  case closed => exact ⟨w, hclose, htrace⟩
  case each => exact heach
  case channels => exact hnames.trans settings.handlers.names_channels
  case calls =>
    rw [htrace, commandCalls_append, commandCalls_of_close hd hclose, commandCalls_outcomes,
      emptyCalls_eq]
    rfl
  case ending =>
    rw [hending]
    simp [DispatchResult.allSucceeded]

/-- A run with a Slack channel and a console tells of the console first. -/
theorem run_verdict_of_slack_and_console :
    let files := Config.Files.ofPaths [("config/settings.yaml", some
      "handlers:\n slack:\n  team:\n   api_token: key\n stdout:\n  local:\n   log_level: warn\n")]
    let o : Options := { node := "node-1", message := "down", details := "one\\ntwo" }
    let a : Alert := ⟨"node-1", "", "", .critical, "down", "one\ntwo"⟩
    ∃ settings, Config.loadSettings files o.config = .ok settings ∧
      (({} : Log.Root).setUp settings.logging (o.logLevel.map Text.ofString) none).1 = .ok () ∧
      o.alert = .ok a ∧
      (∀ entry ∈ settings.handlers.stdout,
        Console.Level.ofName? (Console.levelName entry.2) ≠ some .panic ∧
          Console.Level.ofName? (Console.levelName entry.2) ≠ some .fatal) ∧
      ({} : Network).OnlyFaults ∧
      settings.handlers.channels.map (·.name) = ["local", "team"] ∧
      ∃ d outcomes, Verdict {} o settings a (run files {} o) d outcomes := by
  intro files o a
  have hchecked : ∃ settings, (Config.loadSettings files o.config).toOption = some settings ∧
      (({} : Log.Root).setUp settings.logging (o.logLevel.map Text.ofString) none).1 = .ok () ∧
      (∀ entry ∈ settings.handlers.stdout,
        Console.Level.ofName? (Console.levelName entry.2) ≠ some .panic ∧
          Console.Level.ofName? (Console.levelName entry.2) ≠ some .fatal) ∧
      settings.handlers.channels.map (·.name) = ["local", "team"] := by
    decide +kernel
  obtain ⟨settings, hloaded, hlog, hlevels, hnames⟩ := hchecked
  have hload : Config.loadSettings files o.config = .ok settings := by
    cases hresult : Config.loadSettings files o.config with
    | ok loaded =>
      rw [hresult] at hloaded
      exact congrArg Except.ok (Option.some.inj hloaded)
    | error e =>
      rw [hresult] at hloaded
      cases hloaded
  have halert : o.alert = .ok a := by decide +kernel
  have hfaults : ({} : Network).OnlyFaults := ⟨nofun, nofun, nofun, nofun⟩
  exact ⟨settings, hload, hlog, halert, hlevels, hfaults, hnames,
    run_verdict hload hlog halert hlevels hfaults⟩

end Command

end AlertRelay
