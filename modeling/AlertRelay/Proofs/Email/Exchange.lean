import Mathlib
import AlertRelay.Proofs.Email.Lookup
import AlertRelay.Proofs.Email.Parts

/-!
# Mail exchanges

What is seen of a delivery falls into the parts of the recipients that it reached
(`exists_reached`). A part shows one question about the domain of its recipient, and every mail on
its way to the server that was found (`exchanges_deliverTo`).
-/

namespace AlertRelay

/-- The domain whose mail servers an entry asks for. -/
def Entry.mxQuery? : Entry → Option Text
  | .mxQuery domain => some domain
  | _ => none

/-- The domains whose mail servers are asked for among entries, in order. -/
def mxQueriesIn (es : List Entry) : List Text := es.filterMap Entry.mxQuery?

namespace Email

open Program

/-! ## What is seen of one recipient -/

def invalidAddressEntry (logger : Logger) (recipient : Text) : Entry :=
  .log ⟨.error, logger, "email_server_lookup_failed",
    [("recipient", .text recipient), ("error", .text (invalidAddress recipient).text)], none⟩

/-- Whether the entries about a recipient show that the mail server was asked for once, under the
domain, and that every mail went to port 25 of the preferred host; or, if there is no domain, that
this was reported and nothing else. -/
structure Exchanges (logger : Logger) (n : Network) (recipient : Text) (part : List Entry) :
    Prop where
  asks : ∀ domain, HasDomain recipient domain → mxQueriesIn part = [domain]
  refuses : (∀ domain, ¬ HasDomain recipient domain) →
    part = [invalidAddressEntry logger recipient]
  sends : ∀ x ∈ submissionsIn part, x.port = 25 ∧ ∃ domain records s,
    HasDomain recipient domain ∧ answerAt n domain = .ok (.records records) ∧
      IsPreferred records s ∧ x.host = s.host

variable {m : Mailer} {a : Alert} {recipient host : Text}

/-- Servers are asked for only while the server of the recipient is found. -/
theorem mxQueriesIn_deliverTo (m : Mailer) (a : Alert) (recipient : Text) (w : World) :
    mxQueriesIn ((deliverTo m a recipient).seen w) =
      mxQueriesIn ((findServer m recipient).seen w) := by
  have hsend : ∀ host message, (sendTo host message).ShowsNone Entry.mxQuery? := by
    intro host message w
    rw [seen_sendTo]
    rfl
  rw [mxQueriesIn, deliverTo, filterMap_seen_bind, seen_attempt]
  · rfl
  · intro x
    cases x with
    | error f => exact showsNone_notMailed (fun _ => rfl) _ _ _
    | ok host =>
      dsimp only
      split
      · exact showsNone_notMailed (fun _ => rfl) _ _ _
      · next message _ =>
        intro w
        refine (filterMap_seen_mailTo (fun _ => rfl) m recipient host message w).trans ?_
        exact RetryPolicy.showsNone_runFrom (fun _ => hsend host message) (fun _ _ => rfl) rfl rfl
          rfl _ _ _ w

/-- Every mail is on its way to the server that was found. -/
theorem exists_host_of_mem_sends {s : RetryPolicy.Attempt Unit}
    (hs : s ∈ (mailing m a recipient w).sends) :
    ∃ host message, ((findServer m recipient).run w).1 = .ok host ∧
      s.shown = [.send (submission host message)] := by
  cases hserver : (findServer m recipient).run w with
  | mk result w' =>
    cases result with
    | error x =>
      rw [mailing_of_unaddressed hserver] at hs
      cases hs
    | ok host =>
      cases hmessage : Mail.compose m.nesting recipient a with
      | error f =>
        rw [mailing_of_unwritten hserver hmessage] at hs
        cases hs
      | ok message =>
        rw [mailing_of_sent hserver hmessage] at hs
        obtain ⟨_, -, hshown⟩ := RetryPolicy.exists_of_mem_attempts hs
        exact ⟨host, message, rfl, by rw [hshown, seen_sendTo]⟩

section Lookup

variable (hm : m.lookup = lookupServer)

include hm

theorem run_findServer_of_hasDomain (h : HasDomain recipient domain) (w : World) :
    (findServer m recipient).run w =
        (hostAt domain (answerAt w.network domain), w.see (.mxQuery domain)) ∧
      (findServer m recipient).seen w = [.mxQuery domain] := by
  have hfind : findServer m recipient = lookupServer domain := by
    rw [findServer, recipientDomain_eq_ok_iff.mpr h, hm]
    rfl
  rw [hfind, run_lookupServer, seen_lookupServer]
  exact ⟨rfl, rfl⟩

omit hm in
/-- Without a domain nobody is asked. -/
theorem run_findServer_of_none (h : ∀ domain, ¬ HasDomain recipient domain) (w : World) :
    (findServer m recipient).run w = (.error (.fault (invalidAddress recipient)), w) := by
  rw [findServer, recipientDomain_of_none h]
  rfl

/-- A part of a delivery finds the mail exchange of its recipient. -/
theorem exchanges_deliverTo (a : Alert) (recipient : Text) (w : World) :
    Exchanges m.logger w.network recipient ((deliverTo m a recipient).seen w) where
  asks domain hdomain := by
    rw [mxQueriesIn_deliverTo, (run_findServer_of_hasDomain hm hdomain w).2]
    rfl
  refuses hnone := by
    have hrun := run_findServer_of_none (m := m) hnone w
    have hseen : (findServer m recipient).seen w = [] := by
      rw [findServer, recipientDomain_of_none hnone]
      rfl
    have hattempt : (findServer m recipient).attempt.seen w = [] := by rw [seen_attempt, hseen]
    refine (seen_bind_ok (run_attempt_fault hrun) _).trans ?_
    rw [hattempt]
    rfl
  sends x hx := by
    have hquiet : ∀ domain, (m.lookup domain).ShowsNone Entry.submission? := by
      rw [hm]
      exact showsNone_lookupServer fun _ => rfl
    rw [submissionsIn_deliverTo hquiet] at hx
    obtain ⟨s, hs, hx⟩ := List.mem_flatMap.mp hx
    obtain ⟨host, message, hserver, hshown⟩ := exists_host_of_mem_sends hs
    rw [hshown] at hx
    obtain rfl := List.mem_singleton.mp hx
    refine ⟨rfl, ?_⟩
    by_cases hdomain : ∃ domain, HasDomain recipient domain
    · obtain ⟨domain, hdomain⟩ := hdomain
      rw [(run_findServer_of_hasDomain hm hdomain w).1] at hserver
      obtain ⟨records, record, hanswer, hpreferred, -, -, rfl⟩ := hostAt_eq_ok_iff.mp hserver
      exact ⟨domain, records, record, hdomain, hanswer, hpreferred, rfl⟩
    · rw [run_findServer_of_none (not_exists.mp hdomain)] at hserver
      cases hserver

end Lookup

/-! ## Whole deliveries -/

/-- What is seen of a delivery falls into the parts of the recipients that were reached, and all of
them are reached if it returns. -/
theorem exists_reached (m : Mailer) (a : Alert) (recipients : List Text) (p : Progress)
    (w : World) :
    ∃ reached shown, reached <+: recipients ∧
      (deliverAll m a p recipients).seen w = shown.flatten ∧
      List.Forall₂ (fun recipient part =>
        ∃ w', w'.network = w.network ∧ part = (deliverTo m a recipient).seen w') reached shown ∧
      ∀ q, ((deliverAll m a p recipients).run w).1 = .ok q → reached = recipients := by
  induction recipients generalizing p w with
  | nil => exact ⟨[], [], List.prefix_rfl, rfl, .nil, fun _ _ => rfl⟩
  | cons recipient rest ih =>
    match hrun : (deliverTo m a recipient).run w with
    | (.error x, w') =>
      -- The delivery ends with this recipient.
      refine ⟨[recipient], [(deliverTo m a recipient).seen w], ⟨rest, rfl⟩, ?_,
        .cons ⟨w, rfl, rfl⟩ .nil, fun q hq => ?_⟩
      · rw [deliverAll, seen_bind_error hrun]
        simp
      · rw [deliverAll, run_bind_error hrun] at hq
        cases hq
    | (.ok r, w') =>
      have hnetwork : w'.network = w.network := by
        rw [← network_run (deliverTo m a recipient) w, hrun]
      obtain ⟨reached, shown, hreached, hseen, hparts, hall⟩ :=
        ih (p.add recipient r.attempts r.errors r.succeeded) w'
      rw [hnetwork] at hparts
      refine ⟨recipient :: reached, (deliverTo m a recipient).seen w :: shown,
        (List.prefix_cons_inj recipient).mpr hreached, ?_, .cons ⟨w, rfl, rfl⟩ hparts,
        fun q hq => ?_⟩
      · rw [deliverAll, seen_bind_ok hrun, hseen]
        rfl
      · rw [deliverAll, run_bind_ok hrun] at hq
        rw [hall q hq]

/-- A recipient without a domain is among the failures of every delivery that returns. -/
theorem recorded_of_no_domain {name datacenter : Text} {o : Outcome}
    (ho : ((deliver m name datacenter a).run w).1 = .ok o) (hr : recipient ∈ m.recipients)
    (hnone : ∀ domain, ¬ HasDomain recipient domain) :
    (recipient, false) ∈ o.targets ∧ (invalidAddress recipient).text ∈ o.errors := by
  have hmailing : ∀ x ∈ mailings m a m.recipients w, x.1 = recipient →
      x.2 = .unaddressed (.fault (invalidAddress recipient)) := by
    rintro x hx rfl
    obtain ⟨w', hx⟩ := exists_mailing_of_mem hx
    rw [hx]
    exact mailing_of_unaddressed (run_findServer_of_none hnone w')
  rw [← map_recipient_mailings m a m.recipients w] at hr
  rw [eq_of_deliver_eq_ok ho]
  constructor
  · have hresult : recipient ∈ (results (mailings m a m.recipients w)).map (·.1) := by
      rw [results, List.map_map]
      exact hr
    obtain ⟨e, he, rfl⟩ := Config.exists_lastOf hresult
    obtain ⟨x, hx, rfl⟩ := List.mem_map.mp he.mem
    have hfails : (x.1, x.2.attempted.succeeded) = (x.1, false) := by
      rw [hmailing x hx rfl]
      rfl
    rw [hfails] at he
    exact Config.mem_enterAll_iff.mpr he
  · obtain ⟨x, hx, hname⟩ := List.mem_map.mp hr
    refine List.mem_flatMap.mpr ⟨x, hx, ?_⟩
    rw [hmailing x hx hname]
    exact List.mem_singleton_self _

/-- With the look-up by records, a delivery asks for the mail servers of the domain of each
recipient it reaches, and sends every mail to port 25 of the preferred one; a recipient without a
domain is recorded as a failure. A look-up comes to the host of the preferred record, raises a fault
of its own exactly if the domain is unresolvable, and passes on every other failure. Records with
different preferences may stand in any order. -/
theorem mail_goes_to_preferred_servers (m : Mailer) (hm : m.lookup = lookupServer)
    (name datacenter : Text) (a : Alert) (w : World) :
    (∃ reached shown, reached <+: m.recipients ∧
      (deliver m name datacenter a).seen w = shown.flatten ∧
      List.Forall₂ (Exchanges m.logger w.network) reached shown ∧
      ∀ o, ((deliver m name datacenter a).run w).1 = .ok o →
        reached = m.recipients ∧
        ∀ recipient ∈ m.recipients, (∀ domain, ¬ HasDomain recipient domain) →
          (recipient, false) ∈ o.targets ∧ (invalidAddress recipient).text ∈ o.errors) ∧
    (∀ recipient, (∀ domain, ¬ HasDomain recipient domain) ↔
      .char '@' ∉ recipient ∨ ∃ before, recipient = before ++ [.char '@']) ∧
    (∀ domain,
      let answer := answerAt w.network domain
      let result := ((lookupServer domain).run w).1
      (∀ host, result = .ok host ↔ ∃ records s, answer = .ok (.records records) ∧
        IsPreferred records s ∧ s.host ≠ [] ∧ s.host ≠ "." ∧ host = s.host) ∧
      ((∃ f, result = .error (.fault f) ∧ f.kind = "ResolutionError" ∧
        answer ≠ .error (.fault f)) ↔ Unresolvable answer) ∧
      ∀ x, result = .error x → ¬ Unresolvable answer → answer = .error x) ∧
    ∀ domain (w' : World) records records', answerAt w.network domain = .ok (.records records) →
      answerAt w'.network domain = .ok (.records records') → records.Perm records' →
      (records.map (·.preference)).Nodup →
      ((lookupServer domain).run w).1 = ((lookupServer domain).run w').1 := by
  refine ⟨?_, fun recipient => not_hasDomain_iff, fun domain => ?_, ?_⟩
  · obtain ⟨reached, shown, hreached, hseen, hparts, hall⟩ :=
      exists_reached m a m.recipients {} w
    refine ⟨reached, shown, hreached, ?_, hparts.imp ?_, fun o ho => ⟨?_, ?_⟩⟩
    · rw [← hseen]
      exact seen_bind_pure _ _ w
    · rintro recipient part ⟨w', hnetwork, rfl⟩
      rw [← hnetwork]
      exact exchanges_deliverTo hm a recipient w'
    · obtain ⟨p, w', hrun, -⟩ := exists_of_run_bind_eq_ok ho
      exact hall p (congrArg Prod.fst hrun)
    · intro recipient hr hnone
      exact recorded_of_no_domain ho hr hnone
  · intro answer result
    have hresult : result = hostAt domain answer := congrArg Prod.fst (run_lookupServer domain w)
    rw [hresult]
    exact ⟨fun host => hostAt_eq_ok_iff, raises_iff, fun x => eq_of_hostAt_eq_error⟩
  · intro domain w' records records' hanswer hanswer' hperm hdistinct
    rw [run_lookupServer, run_lookupServer, hanswer, hanswer']
    show hostAt domain (.ok (.records records)) = hostAt domain (.ok (.records records'))
    rw [hostAt, hostAt, hostOf, hostOf, preferred?_of_perm hperm hdistinct]

/-- The second of two records is preferred, and a name service that gives no answer in time makes
the look-up raise a fault of its own. -/
theorem mail_goes_to_preferred_servers_second_record :
    let m : Mailer :=
      ⟨["ops@example.org", "nobody"], { maxRetries := 1 }, .channels, lookupServer, {}⟩
    let silent : Fault := ⟨"LifetimeTimeout", "The resolution lifetime expired."⟩
    let w : World := { network := { mx :=
      [("example.org", ⟨none, .ok (.records [⟨20, "backup.example.org"⟩, ⟨5, "mx1.example.org"⟩])⟩),
        ("example.net", ⟨none, .ok (.refused silent)⟩)] } }
    let a : Alert := ⟨"node1", "web", "v2", .critical, "down", ""⟩
    m.lookup = lookupServer ∧
      ((lookupServer "example.org").run w).1 = .ok "mx1.example.org" ∧
      (∃ f, ((lookupServer "example.net").run w).1 = .error (.fault f) ∧
        f.kind = "ResolutionError") ∧
      ∃ reached shown, reached <+: m.recipients ∧
        (deliver m "email" "dc1" a).seen w = shown.flatten ∧
        List.Forall₂ (Exchanges m.logger w.network) reached shown := by
  intro m silent w a
  obtain ⟨⟨reached, shown, hreached, hseen, hparts, -⟩, -, hlookup, -⟩ :=
    mail_goes_to_preferred_servers m rfl "email" "dc1" a w
  have hpreferred : IsPreferred [⟨20, "backup.example.org"⟩, ⟨5, "mx1.example.org"⟩]
      ⟨5, "mx1.example.org"⟩ :=
    ⟨[_], [], rfl, by simp, List.forall_mem_nil _⟩
  obtain ⟨hfound, -⟩ := hlookup "example.org"
  obtain ⟨-, hraises, -⟩ := hlookup "example.net"
  obtain ⟨f, hf, hkind, -⟩ := hraises.mpr (.refused silent)
  refine ⟨rfl, ?_, ⟨f, hf, hkind⟩, reached, shown, hreached, hseen, hparts⟩
  exact (hfound _).mpr ⟨_, _, rfl, hpreferred, by decide, by decide, rfl⟩

end Email

end AlertRelay
