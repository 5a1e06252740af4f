import AlertRelay.Command.Options
import AlertRelay.Config.Load
import AlertRelay.Proofs.HandlerContract
import AlertRelay.Proofs.Upkeep.Channels

/-!
# What is accepted

A check of a record that accepts a value has accepted each of its fields, or taken the default of
one that was not given. So settings that were loaded have a delay that is not below zero, and with
such a delay every configured channel has its handler: building the dispatcher of loaded settings
cannot fail (`Settings.exists_dispatcher`).
-/

namespace AlertRelay

/-! ## Checks -/

namespace Config

variable {α β : Type}

namespace Checked

theorem exists_of_map_eq_accepted {f : α → β} {x : Checked α} {b : β}
    (h : f <$> x = .accepted b) : ∃ a, x = .accepted a ∧ f a = b := by
  cases x with
  | accepted a => exact ⟨a, rfl, accepted.inj h⟩
  | rejected issues => cases h

theorem exists_of_seq_eq_accepted {f : Checked (α → β)} {x : Checked α} {b : β}
    (h : f <*> x = .accepted b) : ∃ g a, f = .accepted g ∧ x = .accepted a ∧ g a = b := by
  cases f with
  | accepted g =>
    cases x with
    | accepted a => exact ⟨g, a, rfl, rfl, accepted.inj h⟩
    | rejected issues => cases h
  | rejected issues => cases x <;> cases h

/-- What is accepted one step further in is accepted. -/
theorem eq_accepted_of_under {place : Place} {x : Checked α} {a : α}
    (h : x.under place = .accepted a) : x = .accepted a := by
  cases x with
  | accepted b => exact congrArg accepted (accepted.inj h)
  | rejected issues => cases h

theorem eq_accepted_of_toExcept {record : String} {x : Checked α} {a : α}
    (h : x.toExcept record = .ok a) : x = .accepted a := by
  cases x with
  | accepted b => exact congrArg accepted (Except.ok.inj h)
  | rejected issues => cases h

theorem of_ensure_eq_accepted {p : α → Bool} {problem : Problem} {x : Checked α} {a : α}
    (h : x.ensure p problem = .accepted a) : p a = true := by
  cases x with
  | accepted b =>
    rw [ensure] at h
    split at h
    · next hb => exact accepted.inj h ▸ hb
    · cases h
  | rejected issues => cases h

end Checked

/-- An optional field is its default, or else what its check accepts. -/
theorem of_optional_eq_accepted {entries : List (Value × Value)} {name : String} {default a : α}
    {check : Value → Checked α} (h : optional entries name default check = .accepted a) :
    a = default ∨ ∃ v, check v = .accepted a := by
  unfold optional at h
  split at h
  · next v _ => exact .inr ⟨v, Checked.eq_accepted_of_under h⟩
  · exact .inl (Checked.accepted.inj h).symm

theorem optional_of_text {entries : List (Value × Value)} {name : String} {default t : Text}
    (h : Value.lookup? entries name = some (.text t)) :
    optional entries name default asText = .accepted t := by
  rw [optional, h]
  rfl

/-- Only a map is accepted as a record. -/
theorem exists_of_asRecord_eq_accepted {record : String}
    {fields : List (Value × Value) → Checked α} {v : Value} {a : α}
    (h : asRecord record fields v = .accepted a) : ∃ entries, fields entries = .accepted a := by
  cases v <;> first | exact ⟨_, h⟩ | cases h

/-! ## The delay between attempts -/

theorem not_isBelowZero_of_asDuration {v : Value} {x : Float} (h : asDuration v = .accepted x) :
    Decimal.isBelowZero x = false := by
  have hx := Checked.of_ensure_eq_accepted h
  simp only [Bool.and_eq_true, Bool.not_eq_true'] at hx
  exact hx.2

end Config

open Config

/-- The default of the delay passes its check. -/
theorem DispatchConfig.not_isBelowZero_default :
    Decimal.isBelowZero ({} : DispatchConfig).retryDelaySecs = false := by
  decide

theorem DispatchConfig.not_isBelowZero_of_check {es : List (Value × Value)} {c : DispatchConfig}
    (h : DispatchConfig.check es = .accepted c) : Decimal.isBelowZero c.retryDelaySecs = false := by
  obtain ⟨_, delay, hconcurrent, hdelay, rfl⟩ := Checked.exists_of_seq_eq_accepted h
  obtain ⟨concurrent, -, rfl⟩ := Checked.exists_of_map_eq_accepted hconcurrent
  rcases of_optional_eq_accepted hdelay with rfl | ⟨v, hv⟩
  · exact not_isBelowZero_default
  · exact not_isBelowZero_of_asDuration hv

/-- No settings that are accepted have a delay below zero. -/
theorem Settings.not_isBelowZero_of_check {es : List (Value × Value)} {s : Settings}
    (h : Settings.check es = .accepted s) :
    Decimal.isBelowZero s.dispatch.retryDelaySecs = false := by
  obtain ⟨_, logging, hthree, -, rfl⟩ := Checked.exists_of_seq_eq_accepted h
  obtain ⟨_, dispatch, htwo, hdispatch, rfl⟩ := Checked.exists_of_seq_eq_accepted hthree
  obtain ⟨_, handlers, hone, -, rfl⟩ := Checked.exists_of_seq_eq_accepted htwo
  obtain ⟨datacenter, -, rfl⟩ := Checked.exists_of_map_eq_accepted hone
  rcases of_optional_eq_accepted hdispatch with rfl | ⟨v, hv⟩
  · exact DispatchConfig.not_isBelowZero_default
  · obtain ⟨entries, hentries⟩ := exists_of_asRecord_eq_accepted hv
    exact DispatchConfig.not_isBelowZero_of_check hentries

/-- Settings that were loaded have a delay that is not below zero. -/
theorem Config.not_isBelowZero_of_loadSettings {files : Files} {path : Option String}
    {s : Settings} (h : loadSettings files path = .ok s) :
    Decimal.isBelowZero s.dispatch.retryDelaySecs = false := by
  unfold loadSettings at h
  dsimp only at h
  split at h
  · -- Without the file the delay is the default.
    obtain rfl := Except.ok.inj h
    exact DispatchConfig.not_isBelowZero_default
  · cases h
  · cases h
  · next text _ =>
    unfold settingsOfText at h
    split at h
    · cases h
    · cases h
    · next v _ =>
      cases hentries : settingEntries v with
      | error e =>
        rw [hentries] at h
        cases h
      | ok es =>
        rw [hentries] at h
        cases hcheck : Settings.check es with
        | accepted t =>
          have ht : (Settings.ofEntries es).mapError LoadError.rejected = .ok t := by
            rw [Settings.ofEntries, hcheck]
            rfl
          obtain rfl := Except.ok.inj (ht.symm.trans h)
          exact Settings.not_isBelowZero_of_check hcheck
        | rejected issues =>
          have ht : (Settings.ofEntries es).mapError LoadError.rejected =
              .error (.rejected ⟨"Settings", issues⟩) := by
            rw [Settings.ofEntries, hcheck]
            rfl
          cases ht.symm.trans h

/-! ## The handlers of channels -/

/-- A policy of a number and a delay that are not negative is never refused. -/
theorem RetryPolicy.ofNumbers_nat {delay : Seconds} (hdelay : delay.isNegative = false) (n : Nat) :
    ofNumbers n delay = .ok ⟨n, delay⟩ := by
  have hn : ¬ (n : Int) < 0 := by omega
  simp [ofNumbers, hn, hdelay]

/-- A policy has the numbers that it was made of. -/
theorem RetryPolicy.eq_of_ofNumbers {delay : Seconds} {n : Nat} {p : RetryPolicy}
    (h : ofNumbers n delay = .ok p) : p = ⟨n, delay⟩ := by
  unfold ofNumbers at h
  split at h
  · cases h
  · split at h
    · cases h
    · exact (Except.ok.inj h).symm

/-- How often a channel tries again. -/
def ChannelConfig.maxRetries : ChannelConfig → Nat
  | .console _ _ => 0
  | .email _ c => c.maxRetries
  | .pagerduty _ c => c.maxRetries
  | .slack _ c => c.maxRetries

/-- With a delay that is not below zero, every channel has its handler. -/
theorem ChannelConfig.handler_eq {delay : Seconds} (hdelay : delay.isNegative = false)
    (slot : Nat) (c : ChannelConfig) :
    c.handler delay slot = .ok (c.handlerWith ⟨c.maxRetries, delay⟩ slot) := by
  cases c with
  | console name c => rfl
  | email name c =>
    have hretry := RetryPolicy.ofNumbers_nat hdelay c.maxRetries
    simp only [handler, Email.Mailer.ofConfig, hretry]
    rfl
  | pagerduty name c =>
    have hretry := RetryPolicy.ofNumbers_nat hdelay c.maxRetries
    simp only [handler, PagerDuty.Client.ofConfig, hretry]
    rfl
  | slack name c =>
    have hretry := RetryPolicy.ofNumbers_nat hdelay c.maxRetries
    simp only [handler, Slack.Webhook.ofConfig, hretry]
    rfl

/-- So have all channels of a list, in order, each with its own slot. -/
theorem handlersOf_eq {delay : Seconds} (hdelay : delay.isNegative = false) (slot : Nat)
    (cs : List ChannelConfig) :
    handlersOf delay slot cs =
      .ok (cs.mapIdx fun i c => c.handlerWith ⟨c.maxRetries, delay⟩ (slot + i)) := by
  induction cs generalizing slot with
  | nil => rfl
  | cons c cs ih =>
    have hslots : ∀ i, slot + 1 + i = slot + (i + 1) := by
      intro i
      omega
    rw [List.mapIdx_cons]
    simp only [handlersOf, c.handler_eq hdelay, ih (slot + 1), hslots]
    rfl

/-- Loaded settings have a dispatcher. -/
theorem Settings.exists_dispatcher {files : Files} {path : Option String} {s : Settings}
    (h : loadSettings files path = .ok s) : ∃ d, s.dispatcher = .ok d := by
  have hdelay : (Seconds.fraction s.dispatch.retryDelaySecs).isNegative = false :=
    not_isBelowZero_of_loadSettings h
  have hhandlers := handlersOf_eq hdelay 0 s.handlers.channels
  exact ⟨⟨_, s.dispatch.concurrent⟩, by rw [dispatcher, handlerList, hhandlers]; rfl⟩

end AlertRelay
