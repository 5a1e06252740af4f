import Mathlib
import AlertRelay.Dispatch
import AlertRelay.Proofs.Email.Parts
import AlertRelay.Proofs.Email.Verdict
import AlertRelay.Proofs.Likeness

/-!
# Recipients do not affect each other

A delivery to distinct recipients is the deliveries to one of them each, performed one after another
(`deliver_eq_inTurn`). Where looking up and sending for one recipient do not depend on what is sent
to the others (`LooksUpApart`, `SendsApart`), each of these comes to what it comes to alone: it runs
the same in all worlds that answer its recipient alike (`blind_deliverTo`), and the mailings of
the others leave such a world (`answersAlike_deliverTo`).
-/

namespace AlertRelay.Email

open Program

variable {m : Mailer} {a : Alert} {name datacenter recipient : Text} {w w' w'' : World}

/-! ## One recipient each -/

/-- A mail channel that is set up for one recipient alone. -/
def Mailer.only (m : Mailer) (recipient : Text) : Mailer := { m with recipients := [recipient] }

/-- The outcome of a delivery to one recipient alone. -/
def Attempted.outcome (x : Attempted) (name recipient : Text) : Outcome :=
  ⟨name, x.succeeded, x.attempts, x.errors, [(recipient, x.succeeded)]⟩

/-- The outcome of a delivery about which this is known at its end. -/
def Progress.outcome (p : Progress) (name : Text) : Outcome :=
  ⟨name, p.targets.all (·.2), p.attempts, p.errors, p.targets⟩

/-- The one outcome that outcomes make together: the attempts are added, everything else is put one
after another, and it is a success if every result is. -/
def gathered (name : Text) (os : List Outcome) : Outcome :=
  let targets := os.flatMap (·.targets)
  ⟨name, targets.all (·.2), (os.map (·.attempts)).sum, os.flatMap (·.errors), targets⟩

/-- A delivery to one recipient alone is the outcome of the mail to it. -/
theorem deliver_only (m : Mailer) (name datacenter : Text) (a : Alert) (recipient : Text) :
    deliver (m.only recipient) name datacenter a =
      deliverTo m a recipient >>= fun x => pure (x.outcome name recipient) := by
  have hall : deliverAll (m.only recipient) a {} [recipient] =
      deliverTo m a recipient >>= fun x =>
        pure (({} : Progress).add recipient x.attempts x.errors x.succeeded) := rfl
  show deliverAll (m.only recipient) a {} [recipient] >>= _ = _
  rw [hall, LawfulMonad.bind_assoc]
  simp [Progress.add, Config.enterName, Attempted.outcome]

/-- A recipient without a result yet is entered after the others. -/
theorem gathered_add {p : Progress} (hfresh : recipient ∉ p.targets.map (·.1)) (x : Attempted)
    (os : List Outcome) :
    gathered name ((p.add recipient x.attempts x.errors x.succeeded).outcome name :: os) =
      gathered name (p.outcome name :: x.outcome name recipient :: os) := by
  simp only [gathered, Progress.add, Progress.outcome, Attempted.outcome,
    Config.enterName_of_fresh hfresh]
  simp [Int.add_assoc]

/-- A delivery to several recipients is one to each alone, one after another, with the outcomes
gathered. -/
theorem deliverAll_eq_inTurn (m : Mailer) (name datacenter : Text) (a : Alert) (p : Progress)
    {recipients : List Text} (hnodup : recipients.Nodup)
    (hfresh : ∀ r ∈ recipients, r ∉ p.targets.map (·.1)) :
    (deliverAll m a p recipients >>= fun q => pure (q.outcome name)) =
      inTurn (recipients.map fun r => deliver (m.only r) name datacenter a) >>= fun os =>
        pure (gathered name (p.outcome name :: os)) := by
  -- What was known before counts as one more outcome before the others.
  induction recipients generalizing p with
  | nil => simp [deliverAll, inTurn, gathered, Progress.outcome]
  | cons recipient rest ih =>
    obtain ⟨hrecipient, hrest⟩ := List.nodup_cons.mp hnodup
    have hnext : ∀ x : Attempted,
        (deliverAll m a (p.add recipient x.attempts x.errors x.succeeded) rest >>= fun q =>
          pure (q.outcome name)) =
        inTurn (rest.map fun r => deliver (m.only r) name datacenter a) >>= fun os =>
          pure (gathered name (p.outcome name :: x.outcome name recipient :: os)) := by
      intro x
      rw [ih _ hrest]
      · simp only [gathered_add (hfresh recipient List.mem_cons_self)]
      · intro r hr hmem
        have hold := hfresh r (List.mem_cons_of_mem recipient hr)
        rw [Progress.add, Config.enterName_of_fresh (hfresh recipient List.mem_cons_self)] at hmem
        simp only [List.map_append, List.mem_append, List.map_cons, List.map_nil,
          List.mem_singleton] at hmem
        rcases hmem with hmem | rfl
        · exact hold hmem
        · exact hrecipient hr
    rw [deliverAll, LawfulMonad.bind_assoc, List.map_cons, inTurn, deliver_only]
    simp only [hnext, LawfulMonad.bind_assoc, LawfulMonad.pure_bind]

/-- A delivery to distinct recipients is the deliveries to one of them each, one after another. -/
theorem deliver_eq_inTurn (name datacenter : Text) (a : Alert) (hnodup : m.recipients.Nodup) :
    deliver m name datacenter a =
      inTurn (m.recipients.map fun r => deliver (m.only r) name datacenter a) >>= fun os =>
        pure (gathered name os) := by
  refine (deliverAll_eq_inTurn m name datacenter a {} hnodup fun _ _ => List.not_mem_nil).trans ?_
  simp [gathered, Progress.outcome]

/-! ## Answers that do not depend on the others -/

/-- The reply of a network to the mail number `i` to an address, counted from zero. -/
def replyOf (n : Network) (address : Text) (i : Nat) : Delayed Unit :=
  ((n.smtp.lookup address).bind (scripted? · i)).getD ⟨none, .ok ()⟩

/-- The reply that awaits the mail number `i` from now on to an address. -/
def replyTo (w : World) (address : Text) (i : Nat) : Delayed Unit :=
  replyOf w.network address (countOf w.mails address + i)

structure ServersAlike (domain : Text) (w w' : World) : Prop where
  mx : w'.network.mx.lookup domain = w.network.mx.lookup domain
  resolver : w'.network.resolver.lookup domain = w.network.resolver.lookup domain

/-- Whether two worlds answer alike where a recipient is concerned: what they know of its domain,
and how they reply to the mails to its address from now on. -/
structure AnswersAlike (m : Mailer) (a : Alert) (recipient : Text) (w w' : World) : Prop where
  servers : ∀ domain, recipientDomain recipient = .ok domain → ServersAlike domain w w'
  replies : ∀ message, Mail.compose m.nesting recipient a = .ok message →
    ∀ i, replyTo w' message.recipient i = replyTo w message.recipient i

/-- Whether looking up the server of a domain depends on nothing but what is known of the domain,
and sends no mail. -/
structure Mailer.LooksUpApart (m : Mailer) : Prop where
  blind : ∀ domain, (m.lookup domain).Blind (ServersAlike domain)
  keeps : ∀ domain, (m.lookup domain).Keeps World.mails

/-- Whether the replies to the mails to a recipient do not depend on how many mails were sent to
others: where the addresses of two recipients are one, all replies to it are the same. -/
def SendsApart (m : Mailer) (n : Network) (a : Alert) (recipients : List Text) : Prop :=
  ∀ r ∈ recipients, ∀ s ∈ recipients, r ≠ s → ∀ x y, Mail.compose m.nesting r a = .ok x →
    Mail.compose m.nesting s a = .ok y → x.recipient = y.recipient →
      ∀ i j, replyOf n x.recipient i = replyOf n x.recipient j

theorem AnswersAlike.trans (h : AnswersAlike m a recipient w w')
    (h' : AnswersAlike m a recipient w' w'') : AnswersAlike m a recipient w w'' where
  servers domain hdomain :=
    ⟨(h'.servers domain hdomain).mx.trans (h.servers domain hdomain).mx,
      (h'.servers domain hdomain).resolver.trans (h.servers domain hdomain).resolver⟩
  replies message hmessage i := (h'.replies message hmessage i).trans (h.replies message hmessage i)

theorem AnswersAlike.refl (m : Mailer) (a : Alert) (recipient : Text) (w : World) :
    AnswersAlike m a recipient w w :=
  ⟨fun _ _ => ⟨rfl, rfl⟩, fun _ _ _ => rfl⟩

/-- What is seen makes no difference. -/
theorem AnswersAlike.see (w w' : World) (e : Entry) (h : AnswersAlike m a recipient w w') :
    AnswersAlike m a recipient (w.see e) (w'.see e) :=
  ⟨fun domain hdomain => ⟨(h.servers domain hdomain).mx, (h.servers domain hdomain).resolver⟩,
    h.replies⟩

/-! ### Looking up -/

theorem blind_ofResult {α : Type} {R : World → World → Prop} (x : Except Fault α) :
    (ofResult x).Blind R := by
  cases x with
  | ok v => exact blind_pure v
  | error f => exact blind_fail _

theorem keeps_ofResult {α σ : Type} {part : World → σ} (x : Except Fault α) :
    (ofResult x).Keeps part := by
  cases x <;> trivial

theorem blind_lookupServer (domain : Text) :
    (lookupServer domain).Blind (ServersAlike domain) := by
  have hask : (effect (.queryMx domain)).Blind (ServersAlike domain) := by
    intro w w' hw
    refine ⟨?_, rfl, hw.mx, hw.resolver⟩
    show Except.ok ((w'.network.mx.lookup domain).getD _) =
      .ok ((w.network.mx.lookup domain).getD _)
    rw [hw.mx]
  unfold lookupServer
  exact (hask.bind blind_await).bind fun _ => blind_ofResult _

theorem blind_resolve (domain : Text) : (resolve domain).Blind (ServersAlike domain) := by
  have hask : (effect (.resolve domain)).Blind (ServersAlike domain) := by
    intro w w' hw
    refine ⟨?_, rfl, hw.mx, hw.resolver⟩
    show Except.ok ((w'.network.resolver.lookup domain).getD _) =
      .ok ((w.network.resolver.lookup domain).getD _)
    rw [hw.resolver]
  refine hask.bind fun answer => ?_
  cases answer with
  | ok host => exact blind_pure host
  | error x => exact blind_fail x

theorem keeps_lookupServer (domain : Text) : (lookupServer domain).Keeps World.mails := by
  have hask : (effect (.queryMx domain)).Keeps World.mails := fun _ => ⟨rfl, trivial⟩
  unfold lookupServer
  exact keeps_bind (keeps_bind hask keeps_await) fun _ => keeps_ofResult _

theorem keeps_resolve (domain : Text) : (resolve domain).Keeps World.mails := by
  have hask : (effect (.resolve domain)).Keeps World.mails := fun _ => ⟨rfl, trivial⟩
  refine keeps_bind hask fun answer => ?_
  cases answer <;> trivial

/-- Mail servers that are looked up by their records or by the configured resolver are looked up
apart. -/
theorem Mailer.looksUpApart (hm : m.lookup = lookupServer ∨ m.lookup = resolve) :
    m.LooksUpApart := by
  rcases hm with hm | hm
  · constructor <;> rw [hm]
    · exact blind_lookupServer
    · exact keeps_lookupServer
  · constructor <;> rw [hm]
    · exact blind_resolve
    · exact keeps_resolve

/-- After looking up the server of its domain, a recipient is still answered alike. -/
theorem blind_findServer (hlookup : m.LooksUpApart) (a : Alert) (recipient : Text) :
    (findServer m recipient).Blind (AnswersAlike m a recipient) := by
  cases hdomain : recipientDomain recipient with
  | error f =>
    rw [findServer, hdomain]
    exact blind_fail _
  | ok domain =>
    rw [findServer, hdomain]
    show (m.lookup domain).Blind (AnswersAlike m a recipient)
    intro w w' hw
    obtain ⟨hresult, hseen, hservers⟩ := hlookup.blind domain w w' (hw.servers domain hdomain)
    refine ⟨hresult, hseen, fun d hd => ?_, fun message hmessage i => ?_⟩
    · obtain rfl := Except.ok.inj (hdomain.symm.trans hd)
      exact hservers
    · have hreplies := hw.replies message hmessage i
      rw [replyTo, replyTo] at hreplies ⊢
      rw [keeps_run (hlookup.keeps domain), keeps_run (hlookup.keeps domain), network_run,
        network_run]
      exact hreplies

/-! ### Sending -/

/-- A send uses up one reply to its recipient. -/
theorem replyTo_afterSend (w : World) (x : Submission) (i : Nat) :
    replyTo (w.perform (.send x)).2 x.message.recipient i =
      replyTo w x.message.recipient (i + 1) := by
  have hcount : countOf (countUp w.mails x.message.recipient) x.message.recipient + i =
      countOf w.mails x.message.recipient + (i + 1) := by
    rw [countOf_countUp]
    omega
  show replyOf w.network x.message.recipient
    (countOf (countUp w.mails x.message.recipient) x.message.recipient + i) = _
  rw [hcount]
  rfl

/-- A mail to a recipient takes the reply that awaits it in either world. -/
theorem blind_sendTo (host : Text) {message : Mail.Message}
    (hmessage : Mail.compose m.nesting recipient a = .ok message) :
    (sendTo host message).Blind (AnswersAlike m a recipient) := by
  -- The mail takes the reply number 0, and the reply number `i + 1` becomes the one number `i`.
  have hsend : (effect (.send (submission host message))).Blind (AnswersAlike m a recipient) := by
    intro w w' hw
    refine ⟨?_, rfl, fun d hd => ⟨(hw.servers d hd).mx, (hw.servers d hd).resolver⟩,
      fun x hx i => ?_⟩
    · exact congrArg Except.ok (hw.replies message hmessage 0)
    · obtain rfl := Except.ok.inj (hmessage.symm.trans hx)
      exact (replyTo_afterSend w' (submission host message) i).trans
        ((hw.replies message hmessage (i + 1)).trans
          (replyTo_afterSend w (submission host message) i).symm)
  exact hsend.bind blind_await

theorem blind_notMailed (event : String) (recipient : Text) (f : Fault) :
    (notMailed m event recipient f).Blind (AnswersAlike m a recipient) :=
  (blind_note AnswersAlike.see _).bind fun _ => blind_pure _

/-- Mailing a recipient comes to the same and shows the same in worlds that answer alike where the
recipient is concerned, whatever they answer to others. -/
theorem blind_deliverTo (hlookup : m.LooksUpApart) (a : Alert) (recipient : Text) :
    (deliverTo m a recipient).Blind (AnswersAlike m a recipient) := by
  refine (blind_findServer hlookup a recipient).attempt.bind fun x => ?_
  cases x with
  | error f => exact blind_notMailed _ recipient f
  | ok host =>
    cases hmessage : Mail.compose m.nesting recipient a with
    | error f => exact blind_notMailed _ recipient f
    | ok message =>
      show (mailTo m recipient host message).Blind _
      refine Blind.bind ?_ fun result => ?_
      · exact RetryPolicy.blind_runFrom AnswersAlike.see
          (fun _ => blind_sendTo host hmessage) _ _ _
      · dsimp only
        split
        · exact (blind_note AnswersAlike.see _).bind fun _ => blind_pure _
        · exact blind_pure _

/-- Mailing one recipient does not change how many mails were sent to the address of another. -/
theorem keeps_deliverTo (hlookup : m.LooksUpApart) (a : Alert) (recipient : Text) {address : Text}
    (haddress : ∀ x, Mail.compose m.nesting recipient a = .ok x → x.recipient ≠ address) :
    (deliverTo m a recipient).Keeps fun w => countOf w.mails address := by
  have hsee : ∀ (w : World) (e : Entry),
      countOf (w.see e).mails address = countOf w.mails address := fun _ _ => rfl
  have hserver : (findServer m recipient).Keeps fun w => countOf w.mails address :=
    keeps_bind (keeps_ofResult _) fun domain =>
      keeps_of_keeps (countOf · address) (hlookup.keeps domain)
  refine keeps_bind (keeps_attempt hserver) fun x => ?_
  cases x with
  | error f => exact keeps_bind (keeps_note hsee _) fun _ => trivial
  | ok host =>
    cases hmessage : Mail.compose m.nesting recipient a with
    | error f => exact keeps_bind (keeps_note hsee _) fun _ => trivial
    | ok message =>
      show (mailTo m recipient host message).Keeps _
      have hsend : (sendTo host message).Keeps fun w => countOf w.mails address := by
        have heffect : (effect (.send (submission host message))).Keeps
            fun w => countOf w.mails address :=
          fun w => ⟨countOf_countUp_of_ne (haddress message hmessage) w.mails, trivial⟩
        exact keeps_bind heffect keeps_await
      refine keeps_bind (RetryPolicy.keeps_runFrom hsee (fun _ => hsend) _ _ _) fun result => ?_
      dsimp only
      split
      · exact keeps_bind (keeps_note hsee _) fun _ => trivial
      · trivial

/-- After one recipient is mailed, another is still answered alike. -/
theorem answersAlike_deliverTo (hlookup : m.LooksUpApart) {recipients : List Text}
    (hsends : SendsApart m w.network a recipients) {r s : Text} (hr : r ∈ recipients)
    (hs : s ∈ recipients) (hne : r ≠ s) :
    AnswersAlike m a r w ((deliverTo m a s).run w).2 where
  servers domain _ := by
    constructor <;> rw [network_run]
  replies message hmessage i := by
    rw [replyTo, replyTo, network_run]
    -- Distinct recipients may still be written with one address.
    by_cases hshared : ∃ x, Mail.compose m.nesting s a = .ok x ∧ x.recipient = message.recipient
    · obtain ⟨x, hx, haddress⟩ := hshared
      exact hsends r hr s hs hne message x hmessage hx haddress.symm _ _
    · have hcount : countOf ((deliverTo m a s).run w).2.mails message.recipient =
          countOf w.mails message.recipient :=
        keeps_run (keeps_deliverTo hlookup a s fun x hx h => hshared ⟨x, hx, h⟩) w
      rw [hcount]

/-! ## Deliveries alone -/

/-- What a delivery to one recipient alone comes to and shows, when it begins in a world. -/
def alone (m : Mailer) (name datacenter : Text) (a : Alert) (w : World) (recipient : Text) :
    Except Failure Outcome × List Entry :=
  (((deliver (m.only recipient) name datacenter a).run w).1,
    (deliver (m.only recipient) name datacenter a).seen w)

/-- What deliveries come to and show one after another, from what each of them comes to and shows:
the first that fails ends them. -/
def together : List (Except Failure Outcome × List Entry) →
    Except Failure (List Outcome) × List Entry
  | [] => (.ok [], [])
  | (.error x, es) :: _ => (.error x, es)
  | (.ok o, es) :: rest => ((together rest).1.map (o :: ·), es ++ (together rest).2)

/-- What is seen of a recipient in a delivery to distinct recipients. -/
def partOf (m : Mailer) (a : Alert) (w : World) (recipient : Text) : Option (List Entry) :=
  (m.recipients.zip (parts m a m.recipients w)).lookup recipient

/-- Deliveries that do not fail show everything that each of them shows. -/
theorem forall₂_of_together_eq_ok {xs : List (Except Failure Outcome × List Entry)}
    {os : List Outcome} (h : (together xs).1 = .ok os) :
    List.Forall₂ (fun x o => x.1 = .ok o) xs os ∧ (together xs).2 = xs.flatMap (·.2) := by
  induction xs generalizing os with
  | nil =>
    obtain rfl := Except.ok.inj h
    exact ⟨.nil, rfl⟩
  | cons x rest ih =>
    obtain ⟨x | o, es⟩ := x
    · cases h
    · cases hrest : (together rest).1 with
      | error x =>
        rw [together, hrest] at h
        cases h
      | ok more =>
        obtain ⟨hall, hseen⟩ := ih hrest
        rw [together, hrest] at h
        obtain rfl := Except.ok.inj h
        refine ⟨.cons rfl hall, ?_⟩
        rw [together, hseen, List.flatMap_cons]

theorem world_deliver_only (m : Mailer) (name datacenter : Text) (a : Alert) (recipient : Text)
    (w : World) :
    ((deliver (m.only recipient) name datacenter a).run w).2 =
      ((deliverTo m a recipient).run w).2 := by
  rw [deliver_only, run_bind_pure]

theorem seen_alone (m : Mailer) (name datacenter : Text) (a : Alert) (recipient : Text)
    (w : World) :
    (alone m name datacenter a w recipient).2 = (deliverTo m a recipient).seen w := by
  rw [alone, deliver_only, seen_bind_pure]

/-- A delivery to one recipient that returns has one result, which is whether it is a success. -/
theorem targets_of_alone_eq_ok {o : Outcome}
    (h : (alone m name datacenter a w recipient).1 = .ok o) :
    o.targets = [(recipient, o.succeeded)] := by
  rw [alone, deliver_only] at h
  obtain ⟨x, w', -, ho⟩ := exists_of_run_bind_eq_ok h
  obtain rfl := Except.ok.inj ho
  rfl

/-- A delivery to one recipient comes to the same and shows the same wherever the recipient is
answered alike. -/
theorem alone_congr (hlookup : m.LooksUpApart) (name datacenter : Text)
    (h : AnswersAlike m a recipient w w') :
    alone m name datacenter a w' recipient = alone m name datacenter a w recipient := by
  have hblind : (deliver (m.only recipient) name datacenter a).Blind
      (AnswersAlike m a recipient) := by
    rw [deliver_only]
    exact (blind_deliverTo hlookup a recipient).bind fun _ => blind_pure _
  obtain ⟨hresult, hseen, -⟩ := hblind w w' h
  exact Prod.ext hresult hseen

/-! ## Deliveries to some recipients -/

/-- Whether a world, later than another one, still answers recipients as that one did. -/
structure StillAnswers (m : Mailer) (a : Alert) (w : World) (recipients : List Text)
    (w' : World) : Prop where
  network : w'.network = w.network
  alike : ∀ r ∈ recipients, AnswersAlike m a r w w'

/-- The mailing of the first recipient leaves the answers to the others. -/
theorem StillAnswers.next {rest all : List Text} (h : StillAnswers m a w (recipient :: rest) w')
    (hlookup : m.LooksUpApart) (hsends : SendsApart m w.network a all)
    (hall : ∀ r ∈ recipient :: rest, r ∈ all) (hnodup : (recipient :: rest).Nodup) :
    StillAnswers m a w rest ((deliverTo m a recipient).run w').2 where
  network := (network_run _ _).trans h.network
  alike r hr := by
    have hmem := List.mem_cons_of_mem recipient hr
    have hne : r ≠ recipient := fun heq => (List.nodup_cons.mp hnodup).1 (heq ▸ hr)
    rw [← h.network] at hsends
    exact (h.alike r hmem).trans (answersAlike_deliverTo hlookup hsends (hall r hmem)
      (hall recipient List.mem_cons_self) hne)

section Recipients

variable {recipients all : List Text}

/-- One after another, deliveries to distinct recipients come to what they come to alone. -/
theorem run_inTurn_alone (hlookup : m.LooksUpApart) (hsends : SendsApart m w.network a all)
    (hall : ∀ r ∈ recipients, r ∈ all) (hnodup : recipients.Nodup)
    (h : StillAnswers m a w recipients w') (name datacenter : Text) :
    ((inTurn (recipients.map fun r => deliver (m.only r) name datacenter a)).run w').1 =
        (together (recipients.map (alone m name datacenter a w))).1 ∧
      (inTurn (recipients.map fun r => deliver (m.only r) name datacenter a)).seen w' =
        (together (recipients.map (alone m name datacenter a w))).2 := by
  -- The deliveries alone all begin in `w`; in turn they begin in later worlds, which answer alike.
  induction recipients generalizing w' with
  | nil => exact ⟨rfl, rfl⟩
  | cons recipient rest ih =>
    have hfirst := alone_congr hlookup name datacenter (h.alike recipient List.mem_cons_self)
    have hnext := world_deliver_only m name datacenter a recipient w'
    obtain ⟨hresult, hseen⟩ := ih (fun r hr => hall r (List.mem_cons_of_mem recipient hr))
      (List.nodup_cons.mp hnodup).2 (h.next hlookup hsends hall hnodup)
    rw [List.map_cons, List.map_cons, inTurn, ← hfirst, alone]
    rw [← hnext] at hresult hseen
    rcases hrun : (deliver (m.only recipient) name datacenter a).run w' with ⟨x | o, w₁⟩
    · rw [run_bind_error hrun, seen_bind_error hrun]
      exact ⟨rfl, rfl⟩
    · rw [hrun] at hresult hseen
      rw [run_bind_ok hrun, seen_bind_ok hrun, run_bind_pure, seen_bind_pure, together, hresult,
        hseen]
      exact ⟨rfl, rfl⟩

/-- What is seen of distinct recipients is what is seen of each alone. -/
theorem parts_eq_map (hlookup : m.LooksUpApart) (hsends : SendsApart m w.network a all)
    (hall : ∀ r ∈ recipients, r ∈ all) (hnodup : recipients.Nodup)
    (h : StillAnswers m a w recipients w') (name datacenter : Text) :
    parts m a recipients w' = recipients.map fun r => (alone m name datacenter a w r).2 := by
  induction recipients generalizing w' with
  | nil => rfl
  | cons recipient rest ih =>
    have hfirst := alone_congr hlookup name datacenter (h.alike recipient List.mem_cons_self)
    rw [parts, List.map_cons, ← hfirst, seen_alone,
      ih (fun r hr => hall r (List.mem_cons_of_mem recipient hr)) (List.nodup_cons.mp hnodup).2
        (h.next hlookup hsends hall hnodup)]

end Recipients

theorem partOf_eq_some (hnodup : m.recipients.Nodup) (hlookup : m.LooksUpApart)
    (hsends : SendsApart m w.network a m.recipients) (name datacenter : Text)
    (hr : recipient ∈ m.recipients) :
    partOf m a w recipient = some (alone m name datacenter a w recipient).2 := by
  have hstill : StillAnswers m a w m.recipients w := ⟨rfl, fun r _ => .refl m a r w⟩
  rw [partOf, parts_eq_map hlookup hsends (fun _ hr => hr) hnodup hstill name datacenter,
    ← List.map_prod_left_eq_zip]
  exact List.lookup_graph _ hr

/-- **Recipients do not affect each other.** Let the recipients be distinct, and let looking up and
sending for one of them not depend on what is sent to the others. Then a delivery is the deliveries
to one recipient each, one after another, and each comes to what it comes to alone: the outcome is
theirs put together, and what is seen is what is seen of each, in order. Other recipients beside it,
and other answers to them, change nothing of what is seen of a recipient. -/
theorem recipients_are_isolated (m : Mailer) (name datacenter : Text) (a : Alert) (w : World)
    (hnodup : m.recipients.Nodup) (hlookup : m.LooksUpApart)
    (hsends : SendsApart m w.network a m.recipients) :
    (deliver m name datacenter a =
      inTurn (m.recipients.map fun r => deliver (m.only r) name datacenter a) >>= fun os =>
        pure (gathered name os)) ∧
    (((deliver m name datacenter a).run w).1 =
        (together (m.recipients.map (alone m name datacenter a w))).1.map (gathered name) ∧
      (deliver m name datacenter a).seen w =
        (together (m.recipients.map (alone m name datacenter a w))).2) ∧
    (∀ o, ((deliver m name datacenter a).run w).1 = .ok o → ∃ os,
      List.Forall₂ (fun r x => (alone m name datacenter a w r).1 = .ok x ∧
        x.targets = [(r, x.succeeded)]) m.recipients os ∧
      o = gathered name os ∧
      (deliver m name datacenter a).seen w =
        m.recipients.flatMap fun r => (alone m name datacenter a w r).2) ∧
    ∀ others w', others.Nodup → SendsApart m w'.network a others →
      ∀ r ∈ m.recipients, r ∈ others → AnswersAlike m a r w w' →
        partOf { m with recipients := others } a w' r = partOf m a w r := by
  have hstill : StillAnswers m a w m.recipients w := ⟨rfl, fun r _ => .refl m a r w⟩
  have hturns := deliver_eq_inTurn name datacenter a hnodup
  obtain ⟨hresult, hseen⟩ := run_inTurn_alone hlookup hsends (fun _ hr => hr) hnodup hstill name
    datacenter
  have hrun : ((deliver m name datacenter a).run w).1 =
      (together (m.recipients.map (alone m name datacenter a w))).1.map (gathered name) := by
    rw [hturns, run_bind_pure, hresult]
  have hshown : (deliver m name datacenter a).seen w =
      (together (m.recipients.map (alone m name datacenter a w))).2 := by
    rw [hturns, seen_bind_pure, hseen]
  refine ⟨hturns, ⟨hrun, hshown⟩, fun o ho => ?_,
    fun others w' hothers hapart r hr hr' halike => ?_⟩
  · rw [hrun] at ho
    cases hall : (together (m.recipients.map (alone m name datacenter a w))).1 with
    | error x =>
      rw [hall] at ho
      cases ho
    | ok os =>
      obtain ⟨heach, hflat⟩ := forall₂_of_together_eq_ok hall
      rw [hall] at ho
      refine ⟨os, ?_, (Except.ok.inj ho).symm, ?_⟩
      · exact (List.forall₂_map_left_iff.mp heach).imp fun r x hx =>
          ⟨hx, targets_of_alone_eq_ok hx⟩
      · rw [hshown, hflat, List.flatMap_map]
  · have hothers' := partOf_eq_some (m := { m with recipients := others }) hothers
      ⟨hlookup.blind, hlookup.keeps⟩ hapart name datacenter hr'
    rw [hothers', partOf_eq_some hnodup hlookup hsends name datacenter hr]
    exact congrArg (fun x => some x.2) (alone_congr hlookup name datacenter halike)

/-! ### A list with failures -/

/-- A channel with a recipient whose server hangs up, one without a domain, one whose server is not
found, and one to whom nothing stands in the way. -/
def troubled : Mailer :=
  ⟨["ops@example.org", "nobody", "dev@example.com", "ops@example.net"], { maxRetries := 1 },
    .channels, resolve, {}⟩

/-- The network that makes the trouble. -/
def troubles : Network :=
  { smtp := [("ops@example.org", [⟨none, .error (.fault disconnected)⟩])],
    resolver := [("example.com", .error (.fault ⟨"TimeoutError", "no answer"⟩))] }

/-- A network that has no more than one reply for each address replies the same to every mail. -/
theorem sendsApart_of_steady {n : Network} (h : ∀ entry ∈ n.smtp, entry.2.length ≤ 1)
    (m : Mailer) (a : Alert) (recipients : List Text) : SendsApart m n a recipients := by
  intro _ _ _ _ _ x _ _ _ _ i j
  have hfirst : ∀ k, replyOf n x.recipient k = replyOf n x.recipient 0 := by
    intro k
    cases hlookup : n.smtp.lookup x.recipient with
    | none => simp [replyOf, hlookup]
    | some script =>
      have hlength : script.length ≤ 1 := h _ (mem_of_lookup hlookup)
      have hindex : min k (script.length - 1) = min 0 (script.length - 1) := by omega
      simp [replyOf, hlookup, scripted?, hindex]
  rw [hfirst i, hfirst j]

theorem recipients_are_isolated_troubled :
    let w : World := { network := troubles }
    troubled.recipients.Nodup ∧ troubled.LooksUpApart ∧
      SendsApart troubled w.network outage troubled.recipients ∧
      ((deliver troubled "email" "dc1" outage).run w).1 =
        (together (troubled.recipients.map (alone troubled "email" "dc1" outage w))).1.map
          (gathered "email") ∧
      partOf { troubled with recipients := ["ops@example.net"] } outage {} "ops@example.net" =
        partOf troubled outage w "ops@example.net" := by
  intro w
  have hnodup : troubled.recipients.Nodup := by decide
  have hlookup : troubled.LooksUpApart := Mailer.looksUpApart (.inr rfl)
  have hsends : SendsApart troubled w.network outage troubled.recipients :=
    sendsApart_of_steady (by simp [w, troubles]) _ _ _
  obtain ⟨-, ⟨hresult, -⟩, -, hothers⟩ :=
    recipients_are_isolated troubled "email" "dc1" outage w hnodup hlookup hsends
  refine ⟨hnodup, hlookup, hsends, hresult, hothers ["ops@example.net"] {} ?_ ?_ _ ?_ ?_ ?_⟩
  · exact List.pairwise_singleton _ _
  · exact sendsApart_of_steady (List.forall_mem_nil _) _ _ _
  · decide
  · exact List.mem_singleton_self _
  · constructor
    · intro domain hdomain
      have hnet : recipientDomain "ops@example.net" = .ok "example.net" := by cbv
      obtain rfl := Except.ok.inj (hnet.symm.trans hdomain)
      exact ⟨rfl, rfl⟩
    · intro message hmessage i
      have hrecipient : (Mail.compose {} "ops@example.net" outage).map (·.recipient) =
          .ok "ops@example.net" := by cbv
      rw [show Mail.compose {} "ops@example.net" outage = .ok message from hmessage] at hrecipient
      obtain h : message.recipient = "ops@example.net" := Except.ok.inj hrecipient
      rw [h]
      rfl

end AlertRelay.Email
