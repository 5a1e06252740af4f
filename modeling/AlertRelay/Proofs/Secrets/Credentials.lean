import AlertRelay.Channel.Slack
import AlertRelay.Config.View
import AlertRelay.Proofs.Network
import AlertRelay.Proofs.PagerDuty.Correlation
import AlertRelay.Proofs.Secrets.Lockstep

/-!
# Credentials

The service key of a PagerDuty channel and the token of a Slack channel are seen in posts and
nowhere else. Two channels that differ in such a secret are in lockstep, under the disguise that
puts the one secret in the place of the other, and their written forms tell no more of it than
whether there is one (`credentials_stay_in_posts`).
-/

namespace AlertRelay

open Program

/-! ## The PagerDuty channel -/

namespace PagerDuty

variable {key key' : Text}

def withKey (key' : Text) (e : IncidentEvent) : IncidentEvent := { e with serviceKey := key' }

/-- The disguise of one service key as another: the key in the body of a post. -/
def keyDisguise (key key' : Text) : Disguise where
  key := key
  key' := key'
  address url := url
  payload
    | .event e => .event (withKey key' e)
    | p => p

namespace Client

/-- A client with another service key. -/
def withKey (c : Client) (key' : Text) : Client := { c with serviceKey := key' }

theorem inStep_postOnce (c : Client) {e : IncidentEvent} (he : e.serviceKey = key) :
    (c.postOnce e).InStep (keyDisguise key key')
      ((c.withKey key').postOnce (PagerDuty.withKey key' e)) := by
  refine (inStep_acquire c.slot c.timeout).bind fun session => ?_
  have hpost : (post session c.url (.event e)).InStep (keyDisguise key key')
      (post session c.url (.event (PagerDuty.withKey key' e))) := inStep_post session he rfl
  exact hpost.bind fun reply => inStep_ofExcept (readReply reply)

/-- Clients that differ in their keys post alike but for the key. -/
theorem inStep_postEvent (c : Client) {e : IncidentEvent} (he : e.serviceKey = key) :
    (c.postEvent e).InStep (keyDisguise key key')
      ((c.withKey key').postEvent (PagerDuty.withKey key' e)) := by
  -- The entries of the retries name the event by its kind and its incident, which stay.
  refine (c.retry.inStep_run (c.retryLog e) fun _ => c.inStep_postOnce he).bind fun r => ?_
  cases r.value with
  | some response => exact inStep_pure _
  | none => exact inStep_pure _

end Client

theorem inStep_logErrors {d : Disguise} (logger : Logger) (a : Alert) (key : Text)
    (errors : List Text) :
    (logErrors logger a key errors).InStep d (logErrors logger a key errors) := by
  induction errors with
  | nil => exact inStep_pure ()
  | cons e rest ih => exact (inStep_log _ _ _ _).bind fun _ => ih

theorem inStep_report {d : Disguise} (c : Client) (name datacenter : Text) (a : Alert)
    (response : Response) :
    (report c name datacenter a response).InStep d (report c name datacenter a response) := by
  refine (inStep_logErrors _ _ _ _).bind fun _ => ?_
  by_cases hok : response.ok = true
  · simp only [hok, if_true]
    exact (inStep_log _ _ _ _).bind fun _ => inStep_pure _
  · simp only [hok]
    exact inStep_pure _

/-- Two clients that differ in their service key are in lockstep. -/
theorem inStep_handler (c : Client) (key' name : Text) :
    (handler c name).InStep (keyDisguise c.serviceKey key') (handler (c.withKey key') name) where
  deliver datacenter a := by
    show (deliver c name datacenter a).InStep _ (deliver (c.withKey key') name datacenter a)
    rw [deliver_eq, deliver_eq]
    exact (c.inStep_postEvent (e := alertEvent c datacenter a) rfl).bind fun response =>
      inStep_report c name datacenter a response
  close := inStep_release c.slot

end PagerDuty

/-! ## The Slack channel -/

namespace Slack.Webhook

def withUrl (hook : Webhook) (url' : Text) : Webhook := { hook with url := url' }

/-- The disguise of one webhook as another: the address of a post. -/
def urlDisguise (url url' : Text) : Disguise where
  key := url
  key' := url'
  address _ := url'
  payload p := p

theorem inStep_postOnce (hook : Webhook) (url' text : Text) :
    (hook.postOnce text).InStep (urlDisguise hook.url url')
      ((hook.withUrl url').postOnce text) := by
  refine inStep_readClock.bind fun (now : Seconds) => ?_
  cases now.truncate? with
  | none => exact inStep_fail _
  | some timestamp =>
    refine (inStep_acquire hook.slot hook.timeout).bind fun session => ?_
    have hpost : (post session hook.url (.attachment ⟨text, timestamp⟩)).InStep
        (urlDisguise hook.url url') (post session url' (.attachment ⟨text, timestamp⟩)) :=
      inStep_post session rfl rfl
    exact hpost.bind fun reply => inStep_ofExcept (readReply reply)

/-- Two webhooks that differ in their address are in lockstep. -/
theorem inStep_handler (hook : Webhook) (url' name : Text) :
    (hook.handler name).InStep (urlDisguise hook.url url') ((hook.withUrl url').handler name) where
  deliver datacenter a := by
    refine (hook.retry.inStep_run _ fun _ => hook.inStep_postOnce url' (noteText a)).bind
      fun r => ?_
    by_cases hsent : r.succeeded = true
    · simp only [hsent, if_true]
      exact (inStep_log _ _ _ _).bind fun _ => inStep_pure _
    · simp only [hsent]
      exact inStep_pure _
  close := inStep_release hook.slot

end Slack.Webhook

/-! ## Configurations and their written forms -/

/-- Whether two configurations differ at most in a service key that both have or neither has. -/
structure PagerDutyConfig.SameButSecret (c c' : PagerDutyConfig) : Prop where
  secret : c'.serviceKey.isEmpty = c.serviceKey.isEmpty
  maxRetries : c'.maxRetries = c.maxRetries

/-- Whether two configurations differ at most in a token that both have or neither has. -/
structure SlackConfig.SameButSecret (c c' : SlackConfig) : Prop where
  secret : c'.apiToken.isEmpty = c.apiToken.isEmpty
  channelName : c'.channelName = c.channelName
  maxRetries : c'.maxRetries = c.maxRetries

/-- Whether two settings differ at most in secrets of channels, which have the same names. -/
structure Settings.SameButSecrets (s s' : Settings) : Prop where
  datacenter : s'.datacenter = s.datacenter
  stdout : s'.handlers.stdout = s.handlers.stdout
  email : s'.handlers.email = s.handlers.email
  pagerduty : List.Forall₂ (fun e e' => e'.1 = e.1 ∧ e.2.SameButSecret e'.2) s.handlers.pagerduty
    s'.handlers.pagerduty
  slack : List.Forall₂ (fun e e' => e'.1 = e.1 ∧ e.2.SameButSecret e'.2) s.handlers.slack
    s'.handlers.slack
  dispatch : s'.dispatch = s.dispatch
  logging : s'.logging = s.logging

namespace View

@[simp] theorem written_secret (s : Text) : (secret s).written = writtenSecret s := rfl

@[simp] theorem written_entries (es : List (Text × View)) :
    (entries es).written = "\x7b" ++ commaSeparated (writtenEntries es) ++ "\x7d" := rfl

@[simp] theorem written_record (name : String) (fixed : Bool) (fields : List (String × View)) :
    (record name fixed fields).written =
      name ++ "(" ++ commaSeparated (writtenFields fields) ++ ")" := rfl

@[simp] theorem writtenEntries_cons (k : Text) (v : View) (es : List (Text × View)) :
    writtenEntries ((k, v) :: es) = (Text.quoted k ++ ": " ++ v.written) :: writtenEntries es := rfl

@[simp] theorem writtenFields_cons (k : String) (v : View) (es : List (String × View)) :
    writtenFields ((k, v) :: es) =
      if isHidden k then writtenFields es else (k ++ "=" ++ v.written) :: writtenFields es := rfl

/-- The written form of a secret tells only whether there is one. -/
theorem writtenSecret_congr {key key' : Text} (h : key'.isEmpty = key.isEmpty) :
    writtenSecret key' = writtenSecret key := by
  rw [writtenSecret, writtenSecret, h]

/-- Entries of the same names are written alike if their values are. -/
theorem writtenEntries_congr {α : Type} {R : α → α → Prop} {view : α → View}
    (hR : ∀ x x', R x x' → (view x').written = (view x).written) {es es' : List (Text × α)}
    (h : List.Forall₂ (fun e e' => e'.1 = e.1 ∧ R e.2 e'.2) es es') :
    writtenEntries (es'.map fun (n, x) => (n, view x)) =
      writtenEntries (es.map fun (n, x) => (n, view x)) := by
  induction h with
  | nil => rfl
  | cons hfirst _ ih =>
    obtain ⟨hname, hvalue⟩ := hfirst
    rw [List.map_cons, List.map_cons, writtenEntries_cons, writtenEntries_cons, hname,
      hR _ _ hvalue, ih]

end View

theorem PagerDutyConfig.SameButSecret.written_view {c c' : PagerDutyConfig}
    (h : c.SameButSecret c') : c'.view.written = c.view.written := by
  simp only [view, View.written_record, View.writtenFields_cons, View.written_secret,
    View.writtenSecret_congr h.secret, h.maxRetries]

theorem SlackConfig.SameButSecret.written_view {c c' : SlackConfig} (h : c.SameButSecret c') :
    c'.view.written = c.view.written := by
  simp only [view, View.written_record, View.writtenFields_cons, View.written_secret,
    View.writtenSecret_congr h.secret, h.channelName, h.maxRetries]

/-- What is shown of settings does not tell their secrets apart. -/
theorem Settings.SameButSecrets.written_view {s s' : Settings} (h : s.SameButSecrets s') :
    s'.view.written = s.view.written := by
  have hpagerduty := View.writtenEntries_congr (R := PagerDutyConfig.SameButSecret)
    (fun _ _ hc => hc.written_view) h.pagerduty
  have hslack := View.writtenEntries_congr (R := SlackConfig.SameButSecret)
    (fun _ _ hc => hc.written_view) h.slack
  simp only [view, HandlersConfig.view, View.written_record, View.writtenFields_cons,
    View.written_entries, hpagerduty, hslack, h.datacenter, h.stdout, h.email, h.dispatch,
    h.logging]

/-! ## Both channels -/

/-- The client of a configuration with another secret is the client with the other key. -/
theorem PagerDuty.Client.ofConfig_sameButSecret {c c' : PagerDutyConfig} (h : c.SameButSecret c')
    (delay : Seconds) (logger : Logger) (slot : Nat) :
    ofConfig c' delay logger slot =
      (ofConfig c delay logger slot).map (·.withKey c'.serviceKey) := by
  rw [ofConfig, ofConfig, h.maxRetries]
  cases RetryPolicy.ofNumbers c.maxRetries delay <;> rfl

theorem PagerDuty.Client.serviceKey_ofConfig {c : PagerDutyConfig} {delay : Seconds}
    {logger : Logger} {slot : Nat} {client : Client}
    (h : ofConfig c delay logger slot = .ok client) : client.serviceKey = c.serviceKey := by
  rw [ofConfig] at h
  cases hretry : RetryPolicy.ofNumbers c.maxRetries delay with
  | error f =>
    rw [hretry] at h
    cases h
  | ok retry =>
    rw [hretry] at h
    rw [← Except.ok.inj h]

/-- The webhook of a configuration with another secret is the webhook with the other address. -/
theorem Slack.Webhook.ofConfig_sameButSecret {c c' : SlackConfig} (h : c.SameButSecret c')
    (delay timeout : Seconds) (logger : Logger) (slot : Nat) :
    ofConfig c' delay timeout logger slot =
      (ofConfig c delay timeout logger slot).map (·.withUrl (webhookUrl c'.apiToken)) := by
  rw [ofConfig, ofConfig, h.maxRetries, h.channelName]
  cases RetryPolicy.ofNumbers c.maxRetries delay <;> rfl

theorem Slack.Webhook.url_ofConfig {c : SlackConfig} {delay timeout : Seconds} {logger : Logger}
    {slot : Nat} {hook : Webhook} (h : ofConfig c delay timeout logger slot = .ok hook) :
    hook.url = webhookUrl c.apiToken := by
  rw [ofConfig] at h
  cases hretry : RetryPolicy.ofNumbers c.maxRetries delay with
  | error f =>
    rw [hretry] at h
    cases h
  | ok retry =>
    rw [hretry] at h
    rw [← Except.ok.inj h]

/-- **Credentials stay in posts.** Two configurations of a PagerDuty or a Slack channel that differ
in a secret which both have are written alike, and so are all settings that contain them. Their
channels fail to be set up alike, or live alike: in worlds that answer their posts with the same
replies, every step comes to the same outcome, and the same is seen of it, except that the posts
have the other service key in their body, or go to the other address. -/
theorem credentials_stay_in_posts :
    (∀ c c' : PagerDutyConfig, c.SameButSecret c' →
      let d := PagerDuty.keyDisguise c.serviceKey c'.serviceKey
      c'.view.written = c.view.written ∧
      ∀ (delay : Seconds) (logger : Logger) (slot : Nat),
        (∀ f, PagerDuty.Client.ofConfig c delay logger slot = .error f →
          PagerDuty.Client.ofConfig c' delay logger slot = .error f) ∧
        ∀ client, PagerDuty.Client.ofConfig c delay logger slot = .ok client →
          ∃ client', PagerDuty.Client.ofConfig c' delay logger slot = .ok client' ∧
            ∀ (name : Text) (steps : List HandlerStep) (w w' : World), d.Alike w w' →
              (PagerDuty.handler client' name).written = (PagerDuty.handler client name).written ∧
              (PagerDuty.handler client' name).life steps w' =
                ((PagerDuty.handler client name).life steps w).map (·.disguised d)) ∧
    (∀ c c' : SlackConfig, c.SameButSecret c' →
      let d := Slack.Webhook.urlDisguise (Slack.webhookUrl c.apiToken)
        (Slack.webhookUrl c'.apiToken)
      c'.view.written = c.view.written ∧
      ∀ (delay timeout : Seconds) (logger : Logger) (slot : Nat),
        (∀ f, Slack.Webhook.ofConfig c delay timeout logger slot = .error f →
          Slack.Webhook.ofConfig c' delay timeout logger slot = .error f) ∧
        ∀ hook, Slack.Webhook.ofConfig c delay timeout logger slot = .ok hook →
          ∃ hook', Slack.Webhook.ofConfig c' delay timeout logger slot = .ok hook' ∧
            ∀ (name : Text) (steps : List HandlerStep) (w w' : World), d.Alike w w' →
              (hook'.handler name).written = (hook.handler name).written ∧
              (hook'.handler name).life steps w' =
                ((hook.handler name).life steps w).map (·.disguised d)) ∧
    ∀ s s' : Settings, s.SameButSecrets s' → s'.view.written = s.view.written := by
  refine ⟨fun c c' hc => ⟨hc.written_view, fun delay logger slot => ?_⟩,
    fun c c' hc => ⟨hc.written_view, fun delay timeout logger slot => ?_⟩,
    fun s s' hs => hs.written_view⟩
  · rw [PagerDuty.Client.ofConfig_sameButSecret hc]
    refine ⟨fun f hf => by rw [hf]; rfl, fun client hclient => ?_⟩
    refine ⟨client.withKey c'.serviceKey, by rw [hclient]; rfl, fun name steps w w' hw => ?_⟩
    rw [← PagerDuty.Client.serviceKey_ofConfig hclient] at hw ⊢
    exact ⟨rfl, (PagerDuty.inStep_handler client c'.serviceKey name).life_eq steps hw⟩
  · rw [Slack.Webhook.ofConfig_sameButSecret hc]
    refine ⟨fun f hf => by rw [hf]; rfl, fun hook hhook => ?_⟩
    refine ⟨hook.withUrl (Slack.webhookUrl c'.apiToken), by rw [hhook]; rfl,
      fun name steps w w' hw => ?_⟩
    rw [← Slack.Webhook.url_ofConfig hhook] at hw ⊢
    exact ⟨rfl, (hook.inStep_handler (Slack.webhookUrl c'.apiToken) name).life_eq steps hw⟩

/-- Worlds that answer by one script, each under its own key, are alike. -/
theorem Disguise.alike_ofPosts (d : Disguise) (script : List (Delayed HttpReply)) :
    d.Alike { network := .ofPosts d.key script } { network := .ofPosts d.key' script } where
  sessions := rfl
  clock := rfl
  clockReads := rfl
  replies i := by
    simp [World.replyTo, Network.ofPosts, countOf]

theorem credentials_stay_in_posts_unavailable :
    let pager (key : Text) : PagerDutyConfig := { serviceKey := key, maxRetries := 1 }
    let room (token : Text) : SlackConfig := { apiToken := token, channelName := "ops" }
    let settings (key token : Text) : Settings :=
      { handlers := { pagerduty := [("pager", pager key)], slack := [("room", room token)] } }
    let script : List (Delayed HttpReply) := [⟨none, .ok ⟨503, "down", none, 100⟩⟩]
    let steps : List HandlerStep :=
      [.deliver "dc1" ⟨"node1", "web", "v2", .critical, "down", ""⟩, .close]
    let keys := PagerDuty.keyDisguise "s3cret" "other"
    let urls := Slack.Webhook.urlDisguise (Slack.webhookUrl "T0/B0/x") (Slack.webhookUrl "T0/B0/y")
    let world (key : Text) : World := { network := .ofPosts key script }
    (pager "s3cret").SameButSecret (pager "other") ∧
      (room "T0/B0/x").SameButSecret (room "T0/B0/y") ∧
      (settings "s3cret" "T0/B0/x").SameButSecrets (settings "other" "T0/B0/y") ∧
      keys.Alike (world keys.key) (world keys.key') ∧
      urls.Alike (world urls.key) (world urls.key') ∧
      (∃ client client',
        PagerDuty.Client.ofConfig (pager "s3cret") (.whole 5) .channels 0 = .ok client ∧
        PagerDuty.Client.ofConfig (pager "other") (.whole 5) .channels 0 = .ok client' ∧
        (PagerDuty.handler client' "pager").life steps (world keys.key') =
          ((PagerDuty.handler client "pager").life steps (world keys.key)).map (·.disguised keys)) ∧
      (∃ hook hook',
        Slack.Webhook.ofConfig (room "T0/B0/x") (.whole 5) (.whole 10) .channels 0 = .ok hook ∧
        Slack.Webhook.ofConfig (room "T0/B0/y") (.whole 5) (.whole 10) .channels 0 = .ok hook' ∧
        (hook'.handler "room").life steps (world urls.key') =
          ((hook.handler "room").life steps (world urls.key)).map (·.disguised urls)) ∧
      (settings "other" "T0/B0/y").view.written = (settings "s3cret" "T0/B0/x").view.written := by
  intro pager room settings script steps keys urls world
  have hpager : (pager "s3cret").SameButSecret (pager "other") := ⟨by decide, rfl⟩
  have hroom : (room "T0/B0/x").SameButSecret (room "T0/B0/y") := ⟨by decide, rfl, rfl⟩
  have hsettings : (settings "s3cret" "T0/B0/x").SameButSecrets (settings "other" "T0/B0/y") :=
    ⟨rfl, rfl, rfl, .cons ⟨rfl, hpager⟩ .nil, .cons ⟨rfl, hroom⟩ .nil, rfl, rfl⟩
  have hkeys : keys.Alike (world keys.key) (world keys.key') := keys.alike_ofPosts script
  have hurls : urls.Alike (world urls.key) (world urls.key') := urls.alike_ofPosts script
  obtain ⟨hclients, hhooks, hwritten⟩ := credentials_stay_in_posts
  refine ⟨hpager, hroom, hsettings, hkeys, hurls, ?_, ?_, hwritten _ _ hsettings⟩
  · obtain ⟨client', hclient', hlives⟩ :=
      ((hclients _ _ hpager).2 (.whole 5) .channels 0).2 _ rfl
    exact ⟨_, client', rfl, hclient', (hlives "pager" steps _ _ hkeys).2⟩
  · obtain ⟨hook', hhook', hlives⟩ :=
      ((hhooks _ _ hroom).2 (.whole 5) (.whole 10) .channels 0).2 _ rfl
    exact ⟨_, hook', rfl, hhook', (hlives "room" steps _ _ hurls).2⟩

end AlertRelay
