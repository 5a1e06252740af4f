import AlertRelay.Proofs.ObservedErrors

/-!
# The verdict of the PagerDuty channel

A delivery is a success exactly if the reply to its last post accepts the event
(`succeeds_iff_last_reply_accepts`): it has the status 200, its body was read, and what the body
says names no error. A body says nothing of the kind if it is no JSON, or other JSON than an object.
Only a body in which too many values lie within one another is not told to be either, so a delivery
that meets such a reply fails (`deep_reply_fails`).
-/

namespace AlertRelay.PagerDuty

open Program RetryPolicy

variable {w : World}

/-! ## Bodies that name no error -/

def readBody (reply : HttpReply) : Except Json.ReadError Value :=
  Json.read reply.depthLimit (String.ofList (Text.trim Text.isAsciiBlank reply.body.toList))

/-- Whether the body of a reply names no error. Of a body that is nested too deep this is not
told. -/
inductive NamesNoError (reply : HttpReply) : Prop where
  /-- It is an object whose errors count as nothing. -/
  | object {es : List (Value × Value)} (hread : readBody reply = .ok (.map es))
      (herrors : (entry es "errors").isTruthy = false)
  /-- It is another value than an object. -/
  | other {v : Value} (hread : readBody reply = .ok v) (hv : ∀ es, v ≠ .map es)
  /-- It is no JSON. -/
  | noJson (hread : readBody reply = .error .malformed)

/-- A message alone names no error. -/
theorem entry_errors_of_message (v : Value) : entry [(.text "message", v)] "errors" = .null := by
  have hname : (Text.ofString "message" == Text.ofString "errors") = false := by decide
  simp [entry, Value.lookup?, hname]

/-- The entries of a body are those that are read in it. -/
theorem bodyEntries_eq (reply : HttpReply) :
    bodyEntries reply.depthLimit reply.body =
      match readBody reply with
      | .ok (.map es) => .ok es
      | .ok _ => .ok []
      | .error .malformed =>
        if (Text.trim Text.isAsciiBlank reply.body.toList).isEmpty then .ok []
        else .ok [(.text "message", .text (Text.ofChars (reply.body.toList.take 200)))]
      | .error (.tooDeep isObject) => .error (depthFault isObject) := by
  unfold bodyEntries
  by_cases hempty : (Text.trim Text.isAsciiBlank reply.body.toList).isEmpty = true
  · have hread : readBody reply = .error .malformed := by
      rw [readBody, List.isEmpty_iff.mp hempty]
      rfl
    rw [if_pos hempty, hread]
    simp only [hempty, if_true]
  · rw [if_neg hempty]
    unfold readBody
    generalize Json.read reply.depthLimit
      (String.ofList (Text.trim Text.isAsciiBlank reply.body.toList)) = r
    cases r with
    | ok v => cases v <;> rfl
    | error e =>
      cases e with
      | malformed => exact (if_neg hempty).symm
      | tooDeep isObject => rfl

/-- A body names no error exactly if it has entries, and the errors among them count as nothing. -/
theorem namesNoError_iff (reply : HttpReply) :
    NamesNoError reply ↔ ∃ es, bodyEntries reply.depthLimit reply.body = .ok es ∧
      (entry es "errors").isTruthy = false := by
  rw [bodyEntries_eq]
  constructor
  · rintro (⟨hread, herrors⟩ | ⟨hread, hv⟩ | ⟨hread⟩)
    · rw [hread]
      exact ⟨_, rfl, herrors⟩
    · rw [hread]
      split
      · next es hes => exact absurd (Except.ok.inj hes) (hv es)
      · exact ⟨[], rfl, rfl⟩
      · next herror => cases herror
      · next herror => cases herror
    · rw [hread]
      by_cases hempty : (Text.trim Text.isAsciiBlank reply.body.toList).isEmpty = true
      · exact ⟨[], if_pos hempty, rfl⟩
      · refine ⟨_, if_neg hempty, ?_⟩
        rw [entry_errors_of_message]
        rfl
  · rintro ⟨es, hes, herrors⟩
    cases hread : readBody reply with
    | ok v =>
      rw [hread] at hes
      cases v with
      | map es' =>
        obtain rfl := Except.ok.inj hes
        exact .object hread herrors
      | _ => exact .other hread nofun
    | error e =>
      cases e with
      | malformed => exact .noJson hread
      | tooDeep isObject =>
        rw [hread] at hes
        cases hes

/-! ## Replies that accept an event -/

/-- Whether a reply accepts an event. -/
def Accepts (d : Delayed HttpReply) : Prop :=
  ∃ reply, d.outcome = .ok reply ∧ reply.status = 200 ∧ reply.unreadable = none ∧
    NamesNoError reply

/-- Errors that count as something have items. -/
theorem itemTexts_ne_nil {v : Value} {items : List Text} (hv : v.isTruthy = true)
    (h : itemTexts v = .ok items) : items ≠ [] := by
  intro hnil
  subst hnil
  cases v <;> simp [itemTexts, Value.isTruthy] at h hv
  all_goals exact hv h

/-- A final reply is read without errors exactly if it has the status 200 and names none. -/
theorem parseResponse_errors_eq_nil_iff (status : Int) (es : List (Value × Value)) :
    (∃ r, parseResponse status es = .ok r ∧ r.errors = []) ↔
      status = 200 ∧ (entry es "errors").isTruthy = false := by
  unfold parseResponse
  by_cases hreported : (entry es "errors").isTruthy = true
  · simp only [hreported, if_true]
    cases hitems : itemTexts (entry es "errors") with
    | error f => simp [Bind.bind, Except.bind]
    | ok items =>
      have hne := itemTexts_ne_nil hreported hitems
      simp [Bind.bind, Except.bind, hne]
  · rw [if_neg hreported]
    by_cases hstatus : status = 200
    · simp [Bind.bind, Except.bind, hstatus, hreported]
    · simp [Bind.bind, Except.bind, hstatus]

theorem mapError_eq_ok_iff {ε ε' α : Type} {x : Except ε α} {f : ε → ε'} {a : α} :
    x.mapError f = .ok a ↔ x = .ok a := by
  cases x <;> simp [Except.mapError]

/-- An attempt is a success exactly if the reply that it meets accepts the event. -/
theorem answer_errors_eq_nil_iff (d : Delayed HttpReply) :
    (∃ r, answer d = .ok r ∧ r.errors = []) ↔ Accepts d := by
  unfold Accepts answer
  cases d.outcome with
  | error f => simp
  | ok reply =>
    simp only [Except.ok.injEq, exists_eq_left', namesNoError_iff]
    unfold readReply
    cases hunreadable : reply.unreadable with
    | some f => simp
    | none =>
      cases hbody : bodyEntries reply.depthLimit reply.body with
      | error f => simp
      | ok es =>
        simp only [Except.ok.injEq, exists_eq_left', true_and]
        by_cases htransient : isTransient reply.status = true
        · have hstatus : reply.status ≠ 200 := by
            intro h
            rw [h] at htransient
            exact absurd htransient (by decide)
          simp [htransient, hstatus]
        · simp only [if_neg htransient, mapError_eq_ok_iff]
          exact parseResponse_errors_eq_nil_iff reply.status es

/-! ## The last post -/

/-- The last attempt meets the reply to the last post. -/
theorem Client.getLast_attempts (c : Client) (e : IncidentEvent) (w : World) :
    ∃ a, (c.attempts e w).getLast? = some a ∧
      a.result =
        answer (w.replyTo e.serviceKey ((postsIn ((c.postEvent e).seen w)).length - 1)) := by
  have hpos : 0 < (c.attempts e w).length := length_attempts_pos _ _ _
  have hlast : (c.attempts e w).length - 1 < (c.attempts e w).length := by omega
  refine ⟨(c.attempts e w)[(c.attempts e w).length - 1], ?_, ?_⟩
  · rw [List.getLast?_eq_getElem?, List.getElem?_eq_getElem hlast]
  · rw [c.length_posts_postEvent]
    exact (Client.attempt_postOnce (List.getElem?_eq_getElem hlast)).1

/-- The errors of a delivery are none exactly if the reply to its last post accepts the event. -/
theorem errors_eq_nil_iff (hn : w.network.OnlyFaults) {c : Client} {name datacenter : Text}
    {a : Alert} {o : Outcome} (h : ((deliver c name datacenter a).run w).1 = .ok o) :
    o.errors = [] ↔
      Accepts (w.replyTo c.serviceKey
        ((postsIn ((deliver c name datacenter a).seen w)).length - 1)) := by
  let e := alertEvent c datacenter a
  have herrors := errors_of_deliver_eq_ok h
  obtain ⟨last, hlast, hresult⟩ := c.getLast_attempts e w
  have hvalue : valueOf (c.attempts e w) = last.value? := by
    rw [Client.attempts, valueOf_attempts]
    exact congrArg (·.bind Attempt.value?) hlast
  rw [postsIn_deliver, ← answer_errors_eq_nil_iff, herrors, hvalue]
  show _ ↔ ∃ r, answer (w.replyTo e.serviceKey ((postsIn ((c.postEvent e).seen w)).length - 1)) =
    .ok r ∧ r.errors = []
  rw [← hresult]
  cases hok : last.result with
  | ok reply => simp [Attempt.value?, hok]
  | error x =>
    -- Retries that come to no value record a failure.
    obtain ⟨r, w', hrun, hsucceeded, hfailed⟩ :=
      (c.retry.run_returns (c.retryLog e) fun _ => neverBreaks_postOnce hn c e).exists_run
    have hr : r = summary 1 [] (c.attempts e w) := eq_of_run_eq_ok (congrArg Prod.fst hrun)
    have hnone : valueOf (c.attempts e w) = none := by
      rw [hvalue]
      simp [Attempt.value?, hok]
    have hne : failures (c.attempts e w) ≠ [] := by
      rw [hr] at hfailed
      exact hfailed (by rw [summary, hnone]; rfl)
    simpa [Attempt.value?, hok] using hne

/-! ## Calls of the log -/

/-- The posting of an event logs neither that an event was sent nor that one could not be. -/
theorem Client.showsNone_callOf_postEvent {event : Text}
    (hevent : event = "pagerduty_event_sent" ∨ event = "pagerduty_send_failed") (c : Client)
    (e : IncidentEvent) : (c.postEvent e).ShowsNone (Entry.callOf? event) := by
  have hother : ∀ ending ∈ ["_failed", "_retrying", "_retries_exhausted"],
      Text.ofString (c.retryLog e).event ++ Text.ofString ending ≠ event := by
    show ∀ ending ∈ ["_failed", "_retrying", "_retries_exhausted"],
      Text.ofString "pagerduty_request" ++ Text.ofString ending ≠ event
    rcases hevent with rfl | rfl
    · decide
    · decide
  have hretries : (c.retry.run (c.retryLog e) fun _ => c.postOnce e).ShowsNone
      (Entry.callOf? event) :=
    showsNone_callOf_runFrom
      (fun _ => c.showsNone_postOnce (fun _ _ => rfl) (fun _ _ _ => rfl) e) hother _ _ _
  intro w
  rw [c.seen_postEvent]
  exact hretries w

/-- The log of a report has one call for each error, or the one that the event was sent. -/
theorem callsOf_report (c : Client) (name datacenter : Text) (a : Alert) (response : Response)
    (w : World) :
    let shown := (report c name datacenter a response).seen w
    let key := a.incidentKey datacenter
    callsOf "pagerduty_event_sent" shown =
        (if response.ok then [eventSentEntry c.logger a key] else []) ∧
      callsOf "pagerduty_send_failed" shown =
        response.errors.map (sendFailedEntry c.logger a key) := by
  intro shown key
  have hnames : Text.ofString "pagerduty_send_failed" ≠ "pagerduty_event_sent" := by decide
  have hfailed : ∀ error, Entry.callOf? "pagerduty_event_sent"
      (sendFailedEntry c.logger a key error) = none := fun _ => Entry.callOf?_of_ne hnames
  have hsent : Entry.callOf? "pagerduty_send_failed" (eventSentEntry c.logger a key) = none :=
    Entry.callOf?_of_ne hnames.symm
  have hsent' : Entry.callOf? "pagerduty_event_sent" (eventSentEntry c.logger a key) =
      some (eventSentEntry c.logger a key) := Entry.callOf?_of_eq rfl
  have hfailed' : ∀ error, Entry.callOf? "pagerduty_send_failed"
      (sendFailedEntry c.logger a key error) = some (sendFailedEntry c.logger a key error) :=
    fun _ => Entry.callOf?_of_eq rfl
  rw [show shown = _ from (report_eq c name datacenter a response w).2]
  unfold callsOf
  rw [List.filterMap_append, List.filterMap_append, List.filterMap_map, List.filterMap_map]
  cases response.ok with
  | true => simp [key, hfailed, hfailed', hsent, hsent']
  | false => simp [key, hfailed, hfailed']

/-- Of a delivery that returns, the log has one call for each error of the outcome, or the one that
the event was sent. -/
theorem callsOf_deliver {c : Client} {name datacenter : Text} {a : Alert} {o : Outcome}
    (h : ((deliver c name datacenter a).run w).1 = .ok o) :
    let seen := (deliver c name datacenter a).seen w
    let key := a.incidentKey datacenter
    callsOf "pagerduty_event_sent" seen =
        (if o.succeeded then [eventSentEntry c.logger a key] else []) ∧
      callsOf "pagerduty_send_failed" seen = o.errors.map (sendFailedEntry c.logger a key) := by
  intro seen key
  obtain ⟨response, w', hrun, rfl⟩ := exists_response_of_deliver_eq_ok h
  have hcalls : ∀ event, event = Text.ofString "pagerduty_event_sent" ∨
      event = Text.ofString "pagerduty_send_failed" →
      callsOf event seen = callsOf event ((report c name datacenter a response).seen w') := by
    intro event hevent
    rw [show seen = _ from congrArg (fun p => Program.seen p w) (deliver_eq c name datacenter a)]
    exact (c.showsNone_callOf_postEvent hevent _).filterMap_seen_bind hrun
  rw [hcalls _ (.inl rfl), hcalls _ (.inr rfl)]
  exact callsOf_report c name datacenter a response w'

/-! ## The verdict -/

/-- An outcome is a success exactly if it names no error. -/
theorem succeeded_iff_errors_eq_nil {c : Client} {name datacenter : Text} {a : Alert} {o : Outcome}
    (h : ((deliver c name datacenter a).run w).1 = .ok o) :
    o.succeeded = true ↔ o.errors = [] := by
  obtain ⟨response, _, -, rfl⟩ := exists_response_of_deliver_eq_ok h
  exact List.isEmpty_iff

/-- **The verdict on a delivery.** On a network that raises only faults a delivery posts and returns
an outcome. It is a success exactly if the reply to the last post accepts the event, and then
exactly if the outcome has no errors. The log has the one call that the event was sent exactly for a
success, and otherwise one call for each error. -/
theorem succeeds_iff_last_reply_accepts (c : Client) (name datacenter : Text) (a : Alert)
    (w : World) (hn : w.network.OnlyFaults) :
    let seen := (deliver c name datacenter a).seen w
    let posts := postsIn seen
    let key := a.incidentKey datacenter
    0 < posts.length ∧ posts.length ≤ c.retry.maxAttempts ∧
      ∃ o w', (deliver c name datacenter a).run w = (.ok o, w') ∧
        (o.succeeded = true ↔ Accepts (w.replyTo c.serviceKey (posts.length - 1))) ∧
        (o.succeeded = true ↔ o.errors = []) ∧
        callsOf "pagerduty_event_sent" seen =
          (if o.succeeded then [eventSentEntry c.logger a key] else []) ∧
        callsOf "pagerduty_send_failed" seen = o.errors.map (sendFailedEntry c.logger a key) := by
  intro seen posts key
  have hposts : posts = postsIn ((c.postEvent (alertEvent c datacenter a)).seen w) :=
    postsIn_deliver c name datacenter a w
  obtain ⟨o, w', hrun, -⟩ := (returns_deliver hn c name datacenter a).exists_run
  have ho : ((deliver c name datacenter a).run w).1 = .ok o := congrArg Prod.fst hrun
  have hsucceeded := succeeded_iff_errors_eq_nil ho
  refine ⟨?_, ?_, o, w', hrun, hsucceeded.trans (errors_eq_nil_iff hn ho), hsucceeded,
    callsOf_deliver ho⟩
  · rw [hposts]
    exact c.length_posts_pos _ w
  · rw [hposts]
    exact c.length_posts_le _ w

/-- A network that answers every post under a key with one reply. -/
def answering (key : Text) (reply : HttpReply) : Network := .ofPosts key [⟨none, .ok reply⟩]

theorem onlyFaults_answering {key : Text} {reply : HttpReply} (h : reply.unreadable = none) :
    (answering key reply).OnlyFaults := by
  refine onlyFaults_ofPosts (List.forall_mem_singleton.mpr ?_)
  intro x hx
  rw [h] at hx
  cases hx

theorem replyTo_answering (key : Text) (reply : HttpReply) (i : Nat) :
    ({ network := answering key reply } : World).replyTo key i = ⟨none, .ok reply⟩ := by
  simp [World.replyTo, answering, Network.ofPosts, scripted?]

theorem succeeds_iff_last_reply_accepts_no_errors :
    let c : Client := { serviceKey := "key", retry := {} }
    let reply : HttpReply := ⟨200, "\x7b\"errors\": []\x7d", none, 100⟩
    let w : World := { network := answering "key" reply }
    let a : Alert := ⟨"node1", "web", "v2", .critical, "down", ""⟩
    w.network.OnlyFaults ∧
      ∃ o w', (deliver c "pagerduty" "dc1" a).run w = (.ok o, w') ∧ o.succeeded = true := by
  intro c reply w a
  have hn : w.network.OnlyFaults := onlyFaults_answering rfl
  obtain ⟨-, -, o, w', hrun, hverdict, -⟩ :=
    succeeds_iff_last_reply_accepts c "pagerduty" "dc1" a w hn
  have hread : readBody reply = .ok (.map [(.text "errors", .list [])]) := by cbv
  have hbody : NamesNoError reply := .object hread rfl
  refine ⟨hn, o, w', hrun, hverdict.mpr ?_⟩
  rw [show w.replyTo c.serviceKey _ = _ from replyTo_answering "key" _ _]
  exact ⟨_, rfl, rfl, rfl, hbody⟩

/-! ## A reply that is nested too deep -/

/-- As many lists within one another as are allowed, and one more, are not read. -/
theorem takeValue_nested (depth fuel : Nat) (cs : List Char) (hfuel : 2 * depth < fuel) :
    Json.takeValue fuel depth (List.replicate (depth + 1) '[' ++ cs) =
      .error (.tooDeep false) := by
  -- A list within another takes two steps, one for the list and one for its first item.
  induction depth generalizing fuel with
  | zero =>
    obtain ⟨fuel, rfl⟩ : ∃ n, fuel = n + 1 := ⟨fuel - 1, by omega⟩
    show Json.takeValue (fuel + 1) 0 ('[' :: cs) = _
    simp only [Json.takeValue]
  | succ depth ih =>
    obtain ⟨fuel, rfl⟩ : ∃ n, fuel = n + 2 := ⟨fuel - 2, by omega⟩
    have hinner : Json.takeValue fuel depth ('[' :: (List.replicate depth '[' ++ cs)) =
        .error (.tooDeep false) := ih fuel (by omega)
    have hskip : Json.skipGap ('[' :: (List.replicate depth '[' ++ cs)) =
        '[' :: (List.replicate depth '[' ++ cs) := rfl
    show Json.takeValue (fuel + 2) (depth + 1)
      ('[' :: '[' :: (List.replicate depth '[' ++ cs)) = _
    simp [Json.takeValue, Json.takeItems, hskip, hinner]

/-- More opening brackets than the limit are refused whatever follows. -/
theorem read_nested {depthLimit n : Nat} (hn : depthLimit < n) (cs : List Char) :
    Json.read depthLimit (String.ofList (List.replicate n '[' ++ cs)) =
      .error (.tooDeep false) := by
  obtain ⟨k, rfl⟩ : ∃ k, n = depthLimit + 1 + k := ⟨n - (depthLimit + 1), by omega⟩
  let nested := List.replicate (depthLimit + 1) '[' ++ (List.replicate k '[' ++ cs)
  have hsplit : List.replicate (depthLimit + 1 + k) '[' ++ cs = nested := by
    rw [List.replicate_add, List.append_assoc]
  have hlong : depthLimit < nested.length := by
    rw [List.length_append, List.length_replicate]
    omega
  have hskip : Json.skipGap nested = nested := rfl
  rw [Json.read, hsplit, String.toList_ofList, hskip, takeValue_nested _ _ _ (by omega)]

/-- Nothing is trimmed off a text that is not blank at its ends. -/
theorem trim_eq_self {α : Type} {p : α → Bool} {a b : α} (ha : p a = false) (hb : p b = false)
    (cs : List α) : Text.trim p (a :: (cs ++ [b])) = a :: (cs ++ [b]) := by
  have hstart : Text.trimStart p (a :: (cs ++ [b])) = a :: (cs ++ [b]) := by
    simp [Text.trimStart, ha]
  rw [Text.trim, hstart, Text.trimEnd]
  simp [hb]

/-- The text of lists that lie within one another. -/
def nestedLists (n : Nat) : String := String.ofList (List.replicate n '[' ++ List.replicate n ']')

/-- A reply of status 200 whose body is one list more deeply nested than can be decoded. -/
def deepReply (depthLimit : Nat) : HttpReply :=
  ⟨200, nestedLists (depthLimit + 1), none, depthLimit⟩

theorem toList_nestedLists (n : Nat) :
    (nestedLists (n + 1)).toList =
      '[' :: (List.replicate n '[' ++ List.replicate n ']' ++ [']']) := by
  rw [nestedLists, String.toList_ofList, List.replicate_succ, List.replicate_succ',
    List.cons_append, List.append_assoc]

theorem not_namesNoError_deepReply (depthLimit : Nat) : ¬ NamesNoError (deepReply depthLimit) := by
  have hread : readBody (deepReply depthLimit) = .error (.tooDeep false) := by
    rw [readBody, deepReply, toList_nestedLists, trim_eq_self (by decide) (by decide),
      ← toList_nestedLists, nestedLists, String.toList_ofList, read_nested (Nat.lt_succ_self _)]
  rintro (⟨hread', -⟩ | ⟨hread', -⟩ | ⟨hread'⟩)
  · cases hread.symm.trans hread'
  · cases hread.symm.trans hread'
  · cases hread.symm.trans hread'

/-- A delivery is no success if every reply has the status 200 and a body that is nested too
deep. -/
theorem not_succeeded_of_deepReply (c : Client) (name datacenter : Text) (a : Alert)
    (depthLimit : Nat) :
    ∃ o w', (deliver c name datacenter a).run
        { network := answering c.serviceKey (deepReply depthLimit) } = (.ok o, w') ∧
      o.succeeded ≠ true := by
  let w : World := { network := answering c.serviceKey (deepReply depthLimit) }
  have honly : w.network.OnlyFaults := onlyFaults_answering rfl
  obtain ⟨o, w', hrun, -⟩ := (returns_deliver honly c name datacenter a).exists_run
  have ho : ((deliver c name datacenter a).run w).1 = .ok o := congrArg Prod.fst hrun
  refine ⟨o, w', hrun, fun hsucceeded => ?_⟩
  have haccepts := (errors_eq_nil_iff honly ho).mp ((succeeded_iff_errors_eq_nil ho).mp hsucceeded)
  rw [replyTo_answering] at haccepts
  obtain ⟨reply, houtcome, -, -, hbody⟩ := haccepts
  obtain rfl := Except.ok.inj houtcome
  exact not_namesNoError_deepReply depthLimit hbody

/-- A text that begins with a list is no object, be it JSON or not. Still, however deep bodies may
be nested to be decoded, a reply with the status 200 and such a body does not always make a success.
-/
theorem deep_reply_fails :
    ¬ ∃ depthLimit, ∀ (c : Client) (name datacenter : Text) (a : Alert) (w : World) (o : Outcome)
        (reply : HttpReply),
      w.network.OnlyFaults → ((deliver c name datacenter a).run w).1 = .ok o →
      (w.replyTo c.serviceKey
        ((postsIn ((deliver c name datacenter a).seen w)).length - 1)).outcome = .ok reply →
      reply.depthLimit = depthLimit → reply.status = 200 → reply.unreadable = none →
      reply.body.toList.head? = some '[' → o.succeeded = true := by
  rintro ⟨depthLimit, h⟩
  let c : Client := { serviceKey := "key", retry := {} }
  let a : Alert := ⟨"node1", "web", "v2", .critical, "down", ""⟩
  let w : World := { network := answering "key" (deepReply depthLimit) }
  have hlast : w.replyTo c.serviceKey
      ((postsIn ((deliver c "pagerduty" "dc1" a).seen w)).length - 1) =
        ⟨none, .ok (deepReply depthLimit)⟩ :=
    replyTo_answering "key" (deepReply depthLimit) _
  have hhead : (deepReply depthLimit).body.toList.head? = some '[' := by
    rw [deepReply, toList_nestedLists]
    rfl
  obtain ⟨o, w', hrun, hfailed⟩ := not_succeeded_of_deepReply c "pagerduty" "dc1" a depthLimit
  exact hfailed (h c "pagerduty" "dc1" a w o (deepReply depthLimit) (onlyFaults_answering rfl)
    (congrArg Prod.fst hrun) (congrArg Delayed.outcome hlast) rfl rfl rfl hhead)

end AlertRelay.PagerDuty
