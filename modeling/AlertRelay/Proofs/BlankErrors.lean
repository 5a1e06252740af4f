import AlertRelay.Proofs.ObservedErrors
import AlertRelay.Proofs.Dispatch.Outcomes

/-!
# Blank errors

What is recorded for a fault is its reason, which is never blank as long as kinds have names. So it
is with retries and with the dispatcher. The email channel records the bare text of a fault when a
mail server is not found and when a mail cannot be composed. What keeps a mail from being composed
always has a text (`text_ne_nil_of_compose`), but a look-up may fail without one, and that is the
only way for an error to be blank (`blank_errors_come_from_lookups`, `lookup_records_blank`).
-/

namespace AlertRelay

open Program

variable {α : Type} {w w' : World}

/-! ## Reasons -/

/-- Whether neither a text nor a kind tells what a fault is. -/
def Fault.Nameless (f : Fault) : Prop := f.text = [] ∧ f.kind = ""

/-- Nothing is recorded for a fault only if it has neither a text nor a kind. -/
theorem Fault.reason_eq_nil_iff {f : Fault} : f.reason = [] ↔ f.Nameless := by
  constructor
  · intro h
    have hkind : f.kind = "" := by
      by_contra hkind
      exact Fault.reason_ne_empty hkind h
    refine ⟨?_, hkind⟩
    by_contra htext
    rw [reason, if_neg (by simpa using htext)] at h
    exact htext h
  · rintro ⟨htext, hkind⟩
    rw [reason, htext, hkind]
    rfl

/-- The reason of a fault with a text is the text. -/
theorem Fault.reason_of_text {f : Fault} (h : f.text ≠ []) : f.reason = f.text :=
  if_neg (by simpa using h)

theorem nil_mem_map_reason_iff {fs : List Fault} :
    [] ∈ fs.map Fault.reason ↔ ∃ f ∈ fs, f.Nameless := by
  simp only [List.mem_map, Fault.reason_eq_nil_iff]

/-- A computation ends in a fault with its beginning or after it. -/
theorem bind_eq_error {β ε : Type} {x : Except ε α} {f : α → Except ε β} {e : ε}
    (h : x >>= f = .error e) : x = .error e ∨ ∃ v, x = .ok v ∧ f v = .error e := by
  cases x with
  | error e' => exact .inl (congrArg Except.error (Except.error.inj h))
  | ok v => exact .inr ⟨v, rfl, h⟩

namespace RetryPolicy

def Attempt.fault? (a : Attempt α) : Option Fault :=
  match a.result with
  | .error (.fault f) => some f
  | _ => none

def faults (as : List (Attempt α)) : List Fault := as.filterMap Attempt.fault?

/-- Of every attempt that failed the reason is recorded. -/
theorem failures_eq_map_reason (as : List (Attempt α)) :
    failures as = (faults as).map Fault.reason := by
  rw [failures, faults, List.map_filterMap]
  refine List.filterMap_congr fun a _ => ?_
  rcases a with ⟨_, (f | _ | _) | _, _⟩ <;> rfl

end RetryPolicy

/-! ## The email channel -/

namespace Email

variable {m : Mailer} {a : Alert} {recipient : Text}

def Mailing.faults : Mailing → List Fault
  | unaddressed (.fault f) => [f]
  | unaddressed _ => []
  | unwritten f => [f]
  | sent sends => RetryPolicy.faults sends

/-- Whether a mailing ended with the look-up of the server, in a fault without a text. -/
def Mailing.Silent (x : Mailing) : Prop := ∃ f, x = .unaddressed (.fault f) ∧ f.text = []

/-! ### Faults of composition -/

theorem text_unwritable_ne_nil (t : Text) (place more : Nat) :
    (Mail.unwritable t place more).text ≠ [] := by
  intro h
  obtain ⟨-, hend⟩ := List.append_eq_nil_iff.mp h
  simp at hend

theorem text_fault_ne_nil (x : Mail.AddressFault) : x.fault.text ≠ [] := by
  rcases x with _ | _ | _ | _ | _ | _ | _ | _ | _ | (_ | _) <;> decide

/-- A text that cannot stand in a header is refused with a reason. -/
theorem text_ne_nil_of_headerValue {t : Text} {f : Fault} (h : Mail.headerValue t = .error f) :
    f.text ≠ [] := by
  unfold Mail.headerValue at h
  split at h
  · cases h
  · split at h
    · cases h
    · obtain rfl := Except.error.inj h
      exact text_unwritable_ne_nil _ _ _

/-- So is one that cannot stand in a body. -/
theorem text_ne_nil_of_writtenChars {t : Text} {f : Fault} (h : Mail.writtenChars t = .error f) :
    f.text ≠ [] := by
  unfold Mail.writtenChars at h
  split at h
  · cases h
  · obtain rfl := Except.error.inj h
    exact text_unwritable_ne_nil _ _ _

/-- What keeps a mail from being composed has a text. -/
theorem text_ne_nil_of_compose {f : Fault} (h : Mail.compose m.nesting recipient a = .error f) :
    f.text ≠ [] := by
  rcases bind_eq_error h with haddress | ⟨address, -, h⟩
  · rcases bind_eq_error haddress with hplain | ⟨plain, -, hvalue⟩
    · cases hread : Mail.plainAddresses m.nesting recipient with
      | error x =>
        rw [hread] at hplain
        obtain rfl := Except.error.inj hplain
        exact text_fault_ne_nil x
      | ok plain =>
        rw [hread] at hplain
        cases hplain
    · exact text_ne_nil_of_headerValue hvalue
  · rcases bind_eq_error h with hsubject | ⟨subject, -, h⟩
    · exact text_ne_nil_of_headerValue hsubject
    · rcases bind_eq_error h with hdetails | ⟨details, -, h⟩
      · exact text_ne_nil_of_writtenChars hdetails
      · cases h

/-! ### What is recorded -/

/-- Of a mailing that is not silent the reasons are recorded. -/
theorem failures_mailing (hsilent : ¬ (mailing m a recipient w).Silent) :
    (mailing m a recipient w).failures = (mailing m a recipient w).faults.map Fault.reason := by
  match hserver : (findServer m recipient).run w with
  | (.error (.panic text), w') => rw [mailing_of_unaddressed hserver]; rfl
  | (.error (.stop code), w') => rw [mailing_of_unaddressed hserver]; rfl
  | (.error (.fault f), w') =>
    rw [mailing_of_unaddressed hserver] at hsilent ⊢
    have htext : f.text ≠ [] := fun htext => hsilent ⟨f, rfl, htext⟩
    exact congrArg (fun t => [t]) (Fault.reason_of_text htext).symm
  | (.ok host, w') =>
    cases hmessage : Mail.compose m.nesting recipient a with
    | error f =>
      rw [mailing_of_unwritten hserver hmessage]
      exact congrArg (fun t => [t]) (Fault.reason_of_text (text_ne_nil_of_compose hmessage)).symm
    | ok message =>
      rw [mailing_of_sent hserver hmessage]
      exact RetryPolicy.failures_eq_map_reason _

/-- Of a silent mailing a blank error is recorded. -/
theorem Mailing.Silent.failures {x : Mailing} (h : x.Silent) : x.failures = [[]] := by
  obtain ⟨f, rfl, htext⟩ := h
  exact congrArg (fun t => [t]) htext

/-- An error of mailings is blank exactly if one of them is silent or had a fault without a name. -/
theorem nil_mem_failures_iff {recipients : List Text} :
    [] ∈ (mailings m a recipients w).flatMap (·.2.failures) ↔
      ∃ x ∈ mailings m a recipients w, x.2.Silent ∨ ∃ f ∈ x.2.faults, f.Nameless := by
  rw [List.mem_flatMap]
  refine exists_congr fun x => and_congr_right fun hx => ?_
  obtain ⟨w', hmailing⟩ := exists_mailing_of_mem hx
  by_cases hsilent : x.2.Silent
  · simp [hsilent.failures, hsilent]
  · have hreasons : x.2.failures = x.2.faults.map Fault.reason := by
      rw [hmailing] at hsilent ⊢
      exact failures_mailing hsilent
    rw [hreasons, nil_mem_map_reason_iff, or_iff_right hsilent]

end Email

/-! ## The dispatcher -/

namespace Dispatcher

variable {n : Network} {h : Handler} {datacenter : Text} {a : Alert}

/-- Whether an outcome is one that a handler returns on a network, or that of a fault that it raises
there. -/
def Answers (n : Network) (datacenter : Text) (a : Alert) (h : Handler) (o : Outcome) : Prop :=
  (h.deliver datacenter a).CanEnd n (.ok o) ∨
    ∃ f, (h.deliver datacenter a).CanEnd n (.error (.fault f)) ∧
      o = ⟨h.name, false, 0, [f.reason], []⟩

/-- What a handler that never breaks comes to is its own outcome, or a failed one in its name. -/
theorem deliverThrough_answers
    (hbreaks : (h.deliver datacenter a).NeverBreaks n fun _ => True) :
    (deliverThrough h datacenter a).Returns n (Answers n datacenter a h) := by
  have htried := settled_attempt (settled_and hbreaks (settled_canEnd (h.deliver datacenter a)))
  rw [deliverThrough_eq]
  -- What is tried comes to an outcome or to a fault, as anything else would break the handler.
  refine settled_network_bind htried ?_ ?_
  · rintro x ⟨y, ⟨-, hend⟩, hx⟩
    refine settled_afterDelivery ?_ _
    rcases y with (f | text | code) | o <;> cases hx
    · exact .inr ⟨f, hend, rfl⟩
    · exact .inl hend
  · rintro x ⟨y, ⟨hunbroken, -⟩, hx⟩
    rcases y with (f | text | code) | o <;> cases hx
    · exact hunbroken (Failure.breaks_panic text)
    · exact hunbroken (Failure.breaks_stop code)

end Dispatcher

/-! ## The console channel -/

/-- The only error of the console channel is that of an unknown level, and it has a text. -/
theorem Console.nil_not_mem_errors {c : ConsoleConfig} {name datacenter : Text}
    {logger : Logger} {a : Alert} {o : Outcome}
    (h : ((Console.deliver c name logger datacenter a).run w).1 = .ok o) : [] ∉ o.errors := by
  unfold Console.deliver at h
  cases hlevel : Level.ofName? (Console.levelName c) with
  | none =>
    rw [hlevel] at h
    obtain rfl := Except.ok.inj h
    intro hmem
    obtain ⟨hunknown, -⟩ := List.append_eq_nil_iff.mp (List.mem_singleton.mp hmem).symm
    simp at hunknown
  | some level =>
    rw [hlevel] at h
    obtain ⟨_, w', -, h⟩ := exists_of_run_bind_eq_ok h
    cases level with
    | panic => cases h
    | fatal => cases h
    | _ =>
      obtain rfl := Except.ok.inj h
      exact List.not_mem_nil

/-! ## All channels -/

/-- **Where blank errors come from.** A reason is blank for a fault without text and kind alone. On
a network and with a look-up of mail servers that raise only faults, a delivery by email records the
reasons of the faults of every mailing, except for a silent one, of which it records a blank error:
so an error is blank exactly if a look-up failed without a text or a fault had no name at all. No
composition fails without a text. No error of the console channel is blank; the Slack channel
records the reasons of the faults of its attempts, and so does the PagerDuty channel if none came to
a reply. The dispatcher, which may call the handlers one after another or side by side, records the
reason of a fault that a handler lets through. -/
theorem blank_errors_come_from_lookups (w : World) (hn : w.network.OnlyFaults)
    (name datacenter : Text) (a : Alert) (m : Email.Mailer)
    (hlookup : ∀ domain, (m.lookup domain).NeverBreaks w.network fun _ => True)
    (hook : Slack.Webhook) (c : PagerDuty.Client) (console : ConsoleConfig) (logger : Logger)
    (d : Dispatcher)
    (hd : ∀ h ∈ d.handlers, (h.deliver datacenter a).NeverBreaks w.network fun _ => True) :
    (∀ f : Fault, f.reason = [] ↔ f.Nameless) ∧
    (let xs := Email.mailings m a m.recipients w
     ∃ o w', (Email.deliver m name datacenter a).run w = (.ok o, w') ∧
      o.errors = xs.flatMap (·.2.failures) ∧
      (∀ x ∈ xs, ¬ x.2.Silent → x.2.failures = x.2.faults.map Fault.reason) ∧
      (∀ x ∈ xs, x.2.Silent → x.2.failures = [[]]) ∧
      ([] ∈ o.errors ↔ ∃ x ∈ xs, x.2.Silent ∨ ∃ f ∈ x.2.faults, f.Nameless)) ∧
    (∀ recipient f, Mail.compose m.nesting recipient a = .error f → f.text ≠ []) ∧
    (∀ o, ((Console.deliver console name logger datacenter a).run w).1 = .ok o →
      [] ∉ o.errors) ∧
    (∃ o w', (hook.deliver name datacenter a).run w = (.ok o, w') ∧
      o.errors = (RetryPolicy.faults (hook.attempts a w)).map Fault.reason) ∧
    (let tries := c.attempts (PagerDuty.alertEvent c datacenter a) w
     ∃ o w', (PagerDuty.deliver c name datacenter a).run w = (.ok o, w') ∧
      (RetryPolicy.valueOf tries = none →
        o.errors = (RetryPolicy.faults tries).map Fault.reason)) ∧
    ∃ outcomes, (d.deliver datacenter a w).1 = .ok ⟨datacenter, outcomes⟩ ∧
      List.Forall₂ (Dispatcher.Answers w.network datacenter a) d.handlers outcomes := by
  refine ⟨fun _ => Fault.reason_eq_nil_iff, ?_, fun _ _ => Email.text_ne_nil_of_compose,
    fun _ => Console.nil_not_mem_errors, ?_, ?_, ?_⟩
  · intro xs
    obtain ⟨w', hrun⟩ := Email.exists_run_deliver hn hlookup name datacenter a
    refine ⟨_, w', hrun, rfl, fun x hx hsilent => ?_, fun x _ => Email.Mailing.Silent.failures,
      Email.nil_mem_failures_iff⟩
    obtain ⟨w₁, hmailing⟩ := Email.exists_mailing_of_mem hx
    rw [hmailing] at hsilent ⊢
    exact Email.failures_mailing hsilent
  · obtain ⟨o, w', hrun, -⟩ :=
      (Slack.Webhook.returns_deliver hn hook name datacenter a).exists_run
    refine ⟨o, w', hrun, ?_⟩
    rw [Slack.Webhook.errors_of_deliver_eq_ok (congrArg Prod.fst hrun),
      RetryPolicy.failures_eq_map_reason]
  · intro tries
    obtain ⟨o, w', hrun, -⟩ := (PagerDuty.returns_deliver hn c name datacenter a).exists_run
    refine ⟨o, w', hrun, fun hnone => ?_⟩
    have ho := PagerDuty.errors_of_deliver_eq_ok (congrArg Prod.fst hrun)
    rw [ho, hnone]
    exact RetryPolicy.failures_eq_map_reason _
  · exact Dispatcher.deliver_of_through_returns fun h hh =>
      Dispatcher.deliverThrough_answers (hd h hh)

/-! ## A look-up without a text -/

namespace Email

/-- A fault with a kind and no text. -/
def speechless : Fault := ⟨"RuntimeError", []⟩

/-- A network that finds no mail server of a domain, and does not say why. -/
def silentResolver (domain : Text) : Network :=
  { resolver := [(domain, .error (.fault speechless))] }

theorem onlyFaults_silentResolver (domain : Text) : (silentResolver domain).OnlyFaults where
  http := nofun
  mx := nofun
  smtp := nofun
  resolver entry hentry := by
    obtain rfl := List.mem_singleton.mp hentry
    exact Failure.not_breaks_fault speechless

/-- A channel with one recipient whose mail server the configured resolver knows. -/
def resolving (recipient : Text) : Mailer := ⟨[recipient], {}, .channels, resolve, {}⟩

theorem mailing_silentResolver {domain : Text} (hdomain : recipientDomain recipient = .ok domain) :
    mailing (resolving recipient) a recipient { network := silentResolver domain } =
      .unaddressed (.fault speechless) := by
  have hfind : findServer (resolving recipient) recipient = resolve domain := by
    rw [findServer, hdomain]
    rfl
  have hanswer : ((silentResolver domain).resolver.lookup domain).getD (.ok ("mx." ++ domain)) =
      .error (.fault speechless) := by
    rw [silentResolver, List.lookup_cons_self]
    rfl
  let w : World := { network := silentResolver domain }
  have hrun : (resolve domain).run w = (.error (.fault speechless), w.see (.resolverCall domain)) :=
    (run_ofExcept _ _).trans (congrArg (·, w.see (.resolverCall domain)) hanswer)
  exact mailing_of_unaddressed (hfind ▸ hrun)

/-- What the email channel records for a fault is not always its reason: for a look-up without a
text it is blank. -/
theorem lookup_records_blank :
    ¬ ∀ (m : Mailer) (name datacenter : Text) (a : Alert) (w : World) (o : Outcome),
      w.network.OnlyFaults →
      (∀ domain, (m.lookup domain).NeverBreaks w.network fun _ => True) →
      ((deliver m name datacenter a).run w).1 = .ok o →
      o.errors = (mailings m a m.recipients w).flatMap (·.2.faults.map Fault.reason) := by
  intro h
  let m := resolving "ops@example.org"
  let w : World := { network := silentResolver "example.org" }
  have hn : w.network.OnlyFaults := onlyFaults_silentResolver "example.org"
  have hlookup : ∀ domain, (m.lookup domain).NeverBreaks w.network fun _ => True :=
    neverBreaks_resolve hn
  have hdomain : recipientDomain "ops@example.org" = .ok "example.org" := by cbv
  have hmailings : mailings m outage m.recipients w =
      [(Text.ofString "ops@example.org", .unaddressed (.fault speechless))] :=
    congrArg (fun x => [(Text.ofString "ops@example.org", x)]) (mailing_silentResolver hdomain)
  obtain ⟨w', hrun⟩ := exists_run_deliver hn hlookup "email" "dc1" outage
  have herrors := h m "email" "dc1" outage w _ hn hlookup (congrArg Prod.fst hrun)
  rw [hmailings] at herrors
  -- The one text is blank, and the other is the name of the kind.
  obtain ⟨hblank, -⟩ := List.cons.inj (herrors : [speechless.text] = [speechless.reason])
  exact Fault.reason_ne_empty (f := speechless) (by decide) hblank.symm

end Email

theorem blank_errors_come_from_lookups_silentResolver :
    let w : World := { network := Email.silentResolver "example.org" }
    let m := Email.resolving "ops@example.org"
    let d : Dispatcher := ⟨[Email.handler m "email"], true⟩
    w.network.OnlyFaults ∧
      (∀ domain, (m.lookup domain).NeverBreaks w.network fun _ => True) ∧
      (∀ h ∈ d.handlers,
        (h.deliver "dc1" Email.outage).NeverBreaks w.network fun _ => True) ∧
      (∃ o w', (Email.deliver m "email" "dc1" Email.outage).run w = (.ok o, w') ∧
        ([] ∈ o.errors ↔ ∃ x ∈ Email.mailings m Email.outage m.recipients w,
          x.2.Silent ∨ ∃ f ∈ x.2.faults, f.Nameless)) ∧
      ∃ outcomes, (d.deliver "dc1" Email.outage w).1 = .ok ⟨"dc1", outcomes⟩ ∧
        List.Forall₂ (Dispatcher.Answers w.network "dc1" Email.outage) d.handlers outcomes := by
  intro w m d
  have hn : w.network.OnlyFaults := Email.onlyFaults_silentResolver "example.org"
  have hlookup : ∀ domain, (m.lookup domain).NeverBreaks w.network fun _ => True :=
    neverBreaks_resolve hn
  have hd : ∀ h ∈ d.handlers,
      (h.deliver "dc1" Email.outage).NeverBreaks w.network fun _ => True := by
    intro h hh
    obtain rfl := List.mem_singleton.mp hh
    refine settled_mono (Email.returns_deliver hn hlookup "email" "dc1" Email.outage) ?_
    rintro (x | o) hx
    · exact hx.elim
    · trivial
  obtain ⟨-, ⟨o, w', hrun, -, -, -, hblank⟩, -, -, -, -, hall⟩ :=
    blank_errors_come_from_lookups w hn "email" "dc1" Email.outage m hlookup
      { url := Slack.webhookUrl "T0/B0/x", room := "alerts", retry := {} }
      { serviceKey := "key", retry := {} } {} .channels d hd
  exact ⟨hn, hlookup, hd, ⟨o, w', hrun, hblank⟩, hall⟩

end AlertRelay
