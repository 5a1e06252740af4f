import AlertRelay.Proofs.Excerpts
import AlertRelay.Proofs.HandlerContract
import AlertRelay.Proofs.Email.Mailings

/-!
# What is seen of mailings

What is seen of a delivery falls into parts, one for each position in the list of recipients
(`seen_deliver`). A part shows the sends of its mailing and one delay between each two of them, so
over a whole delivery the sends outnumber the delays by the parts in which anything is sent
(`exists_delaysIn_parts`).
-/

namespace AlertRelay.Email

open Program

variable {γ : Type} {pick : Entry → Option γ} {m : Mailer} {a : Alert} {w : World}

/-! ## Looking up mail servers -/

/-- Whether looking up mail servers raises only faults on a network, and neither sends a mail nor
waits in view of the observer. -/
structure Mailer.LooksUpOnly (m : Mailer) (n : Network) : Prop where
  neverBreaks : ∀ domain, (m.lookup domain).NeverBreaks n fun _ => True
  sendsNone : ∀ domain, (m.lookup domain).ShowsNone Entry.submission?
  delaysNone : ∀ domain, (m.lookup domain).ShowsNone Entry.delay?

theorem showsNone_ofResult {α : Type} (x : Except Fault α) : (ofResult x).ShowsNone pick := by
  cases x with
  | ok a => exact showsNone_pure a
  | error f => exact showsNone_fail _

theorem showsNone_lookupServer (h : ∀ domain, pick (.mxQuery domain) = none) (domain : Text) :
    (lookupServer domain).ShowsNone pick := by
  have hask : (effect (.queryMx domain)).ShowsNone pick := by
    intro w
    rw [seen_effect]
    simp [World.shown, h]
  unfold lookupServer
  exact (hask.bind fun reply => showsNone_await reply).bind fun _ => showsNone_ofResult _

theorem showsNone_resolve (h : ∀ domain, pick (.resolverCall domain) = none) (domain : Text) :
    (resolve domain).ShowsNone pick := by
  have hask : (effect (.resolve domain)).ShowsNone pick := by
    intro w
    rw [seen_effect]
    simp [World.shown, h]
  exact hask.bind fun answer => showsNone_ofExcept answer

/-- Mail servers are looked up by their records or by the configured resolver. -/
theorem Mailer.looksUpOnly {n : Network} (hn : n.OnlyFaults)
    (hm : m.lookup = lookupServer ∨ m.lookup = resolve) : m.LooksUpOnly n := by
  rcases hm with hm | hm
  · refine ⟨fun domain => ?_, fun domain => ?_, fun domain => ?_⟩ <;> rw [hm]
    · exact neverBreaks_lookupServer hn domain
    · exact showsNone_lookupServer (fun _ => rfl) domain
    · exact showsNone_lookupServer (fun _ => rfl) domain
  · refine ⟨fun domain => ?_, fun domain => ?_, fun domain => ?_⟩ <;> rw [hm]
    · exact neverBreaks_resolve hn domain
    · exact showsNone_resolve (fun _ => rfl) domain
    · exact showsNone_resolve (fun _ => rfl) domain

/-! ## One part -/

section Part

variable {recipient : Text}

theorem showsNone_notMailed (hlog : ∀ c, pick (.log c) = none) (event : String) (recipient : Text)
    (f : Fault) : (notMailed m event recipient f).ShowsNone pick :=
  (showsNone_note (hlog _)).bind fun _ => showsNone_pure _

/-- Apart from the log, mailing shows what the run of retries shows. -/
theorem filterMap_seen_mailTo (hlog : ∀ c, pick (.log c) = none) (m : Mailer)
    (recipient host : Text) (message : Mail.Message) (w : World) :
    ((mailTo m recipient host message).seen w).filterMap pick =
      ((m.retry.run (sendLog m recipient host) fun _ => sendTo host message).seen w).filterMap
        pick := by
  refine filterMap_seen_bind (fun result => ?_) w
  dsimp only
  split
  · exact (showsNone_note (hlog _)).bind fun _ => showsNone_pure _
  · exact showsNone_pure _

/-- Apart from the log and the look-up of the server, nothing is seen of a recipient without sends,
and of any other what the run of retries shows. -/
theorem filterMap_seen_deliverTo (hlog : ∀ c, pick (.log c) = none)
    (hlookup : ∀ domain, (m.lookup domain).ShowsNone pick) (a : Alert) (recipient : Text)
    (w : World) :
    ((mailing m a recipient w).sends = [] ∧
        ((deliverTo m a recipient).seen w).filterMap pick = []) ∨
      ∃ host message w',
        (mailing m a recipient w).sends =
          m.retry.attempts (sendLog m recipient host) (fun _ => sendTo host message)
            m.retry.maxRetries 1 w' ∧
        ((deliverTo m a recipient).seen w).filterMap pick =
          ((m.retry.run (sendLog m recipient host) fun _ => sendTo host message).seen w').filterMap
            pick := by
  have hserver : (findServer m recipient).attempt.ShowsNone pick :=
    ((showsNone_ofResult _).bind hlookup).attempt
  have hbroken : ∀ x w', (findServer m recipient).run w = (.error x, w') → x.Breaks →
      (mailing m a recipient w).sends = [] ∧
        ((deliverTo m a recipient).seen w).filterMap pick = [] := by
    intro x w' hfind hx
    have hseen : (deliverTo m a recipient).seen w = (findServer m recipient).attempt.seen w :=
      seen_bind_error (run_attempt_error hfind hx) _
    rw [mailing_of_unaddressed hfind, hseen]
    exact ⟨rfl, hserver w⟩
  match hfind : (findServer m recipient).run w with
  | (.error (.panic text), w') => exact .inl (hbroken _ w' hfind (Failure.breaks_panic text))
  | (.error (.stop code), w') => exact .inl (hbroken _ w' hfind (Failure.breaks_stop code))
  | (.error (.fault f), w') =>
    left
    rw [mailing_of_unaddressed hfind]
    refine ⟨rfl, (hserver.filterMap_seen_bind (run_attempt_fault hfind)).trans ?_⟩
    exact showsNone_notMailed hlog _ recipient f w'
  | (.ok host, w') =>
    cases hmessage : Mail.compose m.nesting recipient a with
    | error f =>
      left
      rw [mailing_of_unwritten hfind hmessage]
      refine ⟨rfl, (hserver.filterMap_seen_bind (run_attempt_ok hfind)).trans ?_⟩
      simp only [hmessage]
      exact showsNone_notMailed hlog _ recipient f w'
    | ok message =>
      right
      rw [mailing_of_sent hfind hmessage]
      refine ⟨host, message, w', rfl, (hserver.filterMap_seen_bind (run_attempt_ok hfind)).trans ?_⟩
      simp only [hmessage]
      exact filterMap_seen_mailTo hlog m recipient host message w'

/-- The mails that a part shows are those of its sends. -/
theorem submissionsIn_deliverTo (hsends : ∀ domain, (m.lookup domain).ShowsNone Entry.submission?)
    (a : Alert) (recipient : Text) (w : World) :
    submissionsIn ((deliverTo m a recipient).seen w) =
      (mailing m a recipient w).sends.flatMap (submissionsIn ·.shown) := by
  rcases filterMap_seen_deliverTo (fun _ => rfl) hsends a recipient w with
    ⟨hnone, hseen⟩ | ⟨host, message, w', hsent, hseen⟩
  · rw [hnone]
    exact hseen
  · rw [hsent]
    exact hseen.trans (RetryPolicy.filterMap_seen_runFrom (fun _ => rfl) (fun _ => rfl) _ _ w' [])

/-- A part shows one mail for each send, composed for its recipient. -/
theorem Mails.submissionsIn_shown {s : RetryPolicy.Attempt Unit} (hs : Mails m a recipient s) :
    ∃ x, submissionsIn s.shown = [x] ∧ Mail.compose m.nesting recipient a = .ok x.message := by
  obtain ⟨host, message, hmessage, hshown, -⟩ := hs
  exact ⟨submission host message, by rw [hshown]; rfl, hmessage⟩

theorem length_submissionsIn_deliverTo
    (hsends : ∀ domain, (m.lookup domain).ShowsNone Entry.submission?) (a : Alert)
    (recipient : Text) (w : World) :
    (submissionsIn ((deliverTo m a recipient).seen w)).length =
      (mailing m a recipient w).sends.length := by
  have hone : ∀ s ∈ (mailing m a recipient w).sends, (submissionsIn s.shown).length = 1 := by
    intro s hs
    obtain ⟨x, hx, -⟩ := (mails_of_mem_sends hs).submissionsIn_shown
    rw [hx]
    rfl
  rw [submissionsIn_deliverTo hsends, List.length_flatMap, List.map_congr_left hone,
    List.map_const', List.sum_replicate_nat, Nat.mul_one]

/-- Whatever is sent to a recipient is the mail composed for it. -/
theorem compose_of_mem_submissionsIn
    (hsends : ∀ domain, (m.lookup domain).ShowsNone Entry.submission?) {x : Submission}
    (hx : x ∈ submissionsIn ((deliverTo m a recipient).seen w)) :
    Mail.compose m.nesting recipient a = .ok x.message := by
  rw [submissionsIn_deliverTo hsends] at hx
  obtain ⟨s, hs, hx⟩ := List.mem_flatMap.mp hx
  obtain ⟨y, hy, hmessage⟩ := (mails_of_mem_sends hs).submissionsIn_shown
  rw [hy] at hx
  rw [List.mem_singleton.mp hx, hmessage]

/-- A part shows one delay between each two sends, and there is no other. -/
theorem delaysIn_deliverTo (hdelays : ∀ domain, (m.lookup domain).ShowsNone Entry.delay?)
    (a : Alert) (recipient : Text) (w : World) :
    delaysIn ((deliverTo m a recipient).seen w) =
      List.replicate ((mailing m a recipient w).sends.length - 1) m.retry.delay := by
  rcases filterMap_seen_deliverTo (fun _ => rfl) hdelays a recipient w with
    ⟨hnone, hseen⟩ | ⟨host, message, w', hsent, hseen⟩
  · rw [hnone]
    exact hseen
  · have hsend : (sendTo host message).ShowsNone Entry.delay? := by
      intro w
      rw [seen_sendTo]
      rfl
    rw [hsent]
    exact hseen.trans (RetryPolicy.delaysIn_runFrom (fun _ => hsend) _ _ w' [])

end Part

/-! ## All parts -/

/-- What is seen of each recipient in turn. -/
def parts (m : Mailer) (a : Alert) : List Text → World → List (List Entry)
  | [], _ => []
  | recipient :: rest, w =>
    (deliverTo m a recipient).seen w :: parts m a rest ((deliverTo m a recipient).run w).2

/-- Whether a mail is sent among entries. -/
def Mailed (es : List Entry) : Bool := !(submissionsIn es).isEmpty

/-- What a delivery shows is what its parts show, one after another. -/
theorem seen_deliverAll {p q : Progress} {recipients : List Text}
    (h : ((deliverAll m a p recipients).run w).1 = .ok q) :
    (deliverAll m a p recipients).seen w = (parts m a recipients w).flatten := by
  induction recipients generalizing p w with
  | nil => rfl
  | cons recipient rest ih =>
    obtain ⟨r, w', hrun, h⟩ := exists_of_run_bind_eq_ok h
    have hw : ((deliverTo m a recipient).run w).2 = w' := congrArg Prod.snd hrun
    rw [parts, List.flatten_cons, hw, ← ih h]
    exact seen_bind_ok hrun _

/-- What is seen of a delivery that returns are its parts. -/
theorem seen_deliver {name datacenter : Text} {o : Outcome}
    (h : ((deliver m name datacenter a).run w).1 = .ok o) :
    (deliver m name datacenter a).seen w = (parts m a m.recipients w).flatten := by
  obtain ⟨p, w', hrun, -⟩ := exists_of_run_bind_eq_ok h
  rw [← seen_deliverAll (congrArg Prod.fst hrun)]
  refine (seen_bind_ok hrun _).trans ?_
  exact List.append_nil _

/-- Every mail of a part is the one that was composed for the recipient in its position. -/
theorem forall₂_parts (hsends : ∀ domain, (m.lookup domain).ShowsNone Entry.submission?)
    (a : Alert) (recipients : List Text) (w : World) :
    List.Forall₂
      (fun recipient part =>
        ∀ x ∈ submissionsIn part, Mail.compose m.nesting recipient a = .ok x.message)
      recipients (parts m a recipients w) := by
  induction recipients generalizing w with
  | nil => exact .nil
  | cons recipient rest ih =>
    exact .cons (fun x hx => compose_of_mem_submissionsIn hsends hx) (ih _)

theorem length_sends_mailings_cons (m : Mailer) (a : Alert) (recipient : Text)
    (rest : List Text) (w : World) :
    ((mailings m a (recipient :: rest) w).flatMap (·.2.sends)).length =
      (mailing m a recipient w).sends.length +
        ((mailings m a rest ((deliverTo m a recipient).run w).2).flatMap (·.2.sends)).length := by
  rw [mailings, List.flatMap_cons, List.length_append]

/-- All parts together show one mail for each send. -/
theorem length_submissionsIn_parts
    (hsends : ∀ domain, (m.lookup domain).ShowsNone Entry.submission?) (a : Alert)
    (recipients : List Text) (w : World) :
    (submissionsIn (parts m a recipients w).flatten).length =
      ((mailings m a recipients w).flatMap (·.2.sends)).length := by
  induction recipients generalizing w with
  | nil => rfl
  | cons recipient rest ih =>
    rw [parts, List.flatten_cons, submissionsIn_append, List.length_append,
      length_submissionsIn_deliverTo hsends, ih, length_sends_mailings_cons]

theorem length_sends_mailings_le (m : Mailer) (a : Alert) (recipients : List Text) (w : World) :
    ((mailings m a recipients w).flatMap (·.2.sends)).length ≤
      m.retry.maxAttempts * recipients.length := by
  induction recipients generalizing w with
  | nil => exact Nat.zero_le _
  | cons recipient rest ih =>
    have hfirst := length_sends_le m a recipient w
    have hrest := ih ((deliverTo m a recipient).run w).2
    rw [length_sends_mailings_cons, List.length_cons, Nat.mul_succ]
    omega

/-- The delays are as long as configured, and there is one for each send but the first of every part
in which a mail is sent. -/
theorem exists_delaysIn_parts (hsends : ∀ domain, (m.lookup domain).ShowsNone Entry.submission?)
    (hdelays : ∀ domain, (m.lookup domain).ShowsNone Entry.delay?) (a : Alert)
    (recipients : List Text) (w : World) :
    ∃ k, delaysIn (parts m a recipients w).flatten = List.replicate k m.retry.delay ∧
      ((mailings m a recipients w).flatMap (·.2.sends)).length =
        k + (parts m a recipients w).countP Mailed := by
  induction recipients generalizing w with
  | nil => exact ⟨0, rfl, rfl⟩
  | cons recipient rest ih =>
    obtain ⟨k, hk, hcount⟩ := ih ((deliverTo m a recipient).run w).2
    have hlength := length_submissionsIn_deliverTo hsends a recipient w
    -- A part with a send has one delay less than sends; one without has neither.
    have hfirst : (mailing m a recipient w).sends.length =
        ((mailing m a recipient w).sends.length - 1) +
          if Mailed ((deliverTo m a recipient).seen w) then 1 else 0 := by
      by_cases hnone : (mailing m a recipient w).sends.length = 0
      · have hmailed : Mailed ((deliverTo m a recipient).seen w) = false := by
          rw [hnone] at hlength
          simp [Mailed, List.length_eq_zero_iff.mp hlength]
        simp [hmailed, hnone]
      · have hmailed : Mailed ((deliverTo m a recipient).seen w) = true := by
          have hne : submissionsIn ((deliverTo m a recipient).seen w) ≠ [] := by
            intro hnil
            rw [hnil] at hlength
            exact hnone hlength.symm
          simp [Mailed, hne]
        rw [hmailed, if_pos rfl]
        omega
    refine ⟨((mailing m a recipient w).sends.length - 1) + k, ?_, ?_⟩
    · rw [parts, List.flatten_cons, delaysIn_append, delaysIn_deliverTo hdelays, hk,
        List.replicate_append_replicate]
    · rw [length_sends_mailings_cons, hcount, parts, List.countP_cons]
      omega

end AlertRelay.Email
