import AlertRelay.Proofs.Dispatch.Deliveries

/-!
# Rounds of calls

The dispatcher asks something of each handler in turn: that it deliver an alert, or that it close.
A `Request` says what is asked and what is made of a fault; a `Round` is what the dispatcher's going
through its handlers amounts to, told by the calls alone.

* `exists_round` — what is asked of handlers one after another is a round of calls, shows what the
  calls and their reports show, and comes to what `Yields` tells of them;
* `deliveries_eq`, `closeAll_eq` — deliveries and closings are requests.
-/

namespace AlertRelay.Dispatcher

open Program

variable {α : Type}

/-! ## Calls -/

/-- One call of a handler: the world in which it was made, what it came to, what it showed, and the
world that it left. -/
structure Call (α : Type) where
  handler : Handler
  before : World
  result : Except Failure α
  shown : List Entry
  after : World

/-- What is asked of each handler, and what is made of a fault: the entry that reports it and what
stands for the result. -/
structure Request (α : Type) where
  call : Handler → Program α
  report : Handler → Fault → Entry
  instead : Handler → Fault → α

namespace Call

/-- Whether a call is a run of a program. -/
def Runs (c : Call α) (p : Program α) : Prop :=
  p.run c.before = (c.result, c.after) ∧ p.seen c.before = c.shown

/-- Whether a call ends in a panic or a stop. -/
def Breaks (c : Call α) : Prop := ∃ x, c.result = .error x ∧ x.Breaks

/-- The report of a call: one entry for a fault. -/
def report (q : Request α) (c : Call α) : List Entry :=
  match c.result with
  | .error (.fault f) => [q.report c.handler f]
  | _ => []

def seen (q : Request α) (c : Call α) : List Entry := c.shown ++ c.report q

/-- The world after a call and its report. -/
def left (q : Request α) (c : Call α) : World := (c.report q).foldl World.see c.after

/-- What a call counts as: a fault is replaced. -/
def told (q : Request α) (c : Call α) : Except Failure α :=
  match c.result with
  | .error (.fault f) => .ok (q.instead c.handler f)
  | r => r

/-- A call breaks exactly if it counts as a failure. -/
theorem told_eq_error_iff {q : Request α} {c : Call α} {x : Failure} :
    c.told q = .error x ↔ c.result = .error x ∧ x.Breaks := by
  unfold told
  rcases c.result with (f | text | code) | a
  · constructor
    · intro h
      cases h
    · rintro ⟨h, hx⟩
      cases h
      exact absurd hx (Failure.not_breaks_fault f)
  · constructor
    · intro h
      cases h
      exact ⟨rfl, Failure.breaks_panic text⟩
    · exact fun h => h.1
  · constructor
    · intro h
      cases h
      exact ⟨rfl, Failure.breaks_stop code⟩
    · exact fun h => h.1
  · simp

end Call

/-! ## Rounds -/

/-- Calls that lead from one world to another: each is made in the world that the one before it and
its report left. -/
def Leads (q : Request α) : World → List (Call α) → World → Prop
  | w, [], w' => w = w'
  | w, c :: calls, w' => c.before = w ∧ Leads q (c.left q) calls w'

/-- Handlers are called one after another: each call is a run of what is asked of its handler, they
are made in the order of the handlers, each handler is called once, and only a panic or a stop keeps
the handlers behind it from being called. -/
structure Round (q : Request α) (hs : List Handler) (w : World) (calls : List (Call α))
    (w' : World) : Prop where
  runs : ∀ c ∈ calls, c.Runs (q.call c.handler)
  leads : Leads q w calls w'
  inOrder : calls.map (·.handler) <+: hs
  complete : (∀ c ∈ calls, ¬ c.Breaks) → calls.map (·.handler) = hs
  last_of_breaks : ∀ c ∈ calls.dropLast, ¬ c.Breaks

/-- What a round of calls comes to: what each counts as, or the panic or stop of the one that broke
it off. -/
structure Yields (q : Request α) (calls : List (Call α)) (result : Except Failure (List α)) :
    Prop where
  ok : (∀ c ∈ calls, ¬ c.Breaks) → ∃ as, result = .ok as ∧ calls.map (·.told q) = as.map .ok
  error : ∀ c ∈ calls, ∀ x, c.result = .error x → x.Breaks → result = .error x

namespace Request

/-- Asks a handler; a fault is reported and replaced. -/
def isolated (q : Request α) (h : Handler) : Program α := do
  match ← (q.call h).attempt with
  | .ok a => pure a
  | .error f =>
    note (q.report h f)
    pure (q.instead h f)

def callIn (q : Request α) (h : Handler) (w : World) : Call α :=
  ⟨h, w, ((q.call h).run w).1, (q.call h).seen w, ((q.call h).run w).2⟩

theorem runs_callIn (q : Request α) (h : Handler) (w : World) :
    (q.callIn h w).Runs (q.call h) := ⟨rfl, rfl⟩

theorem run_isolated (q : Request α) (h : Handler) (w : World) :
    (q.isolated h).run w = ((q.callIn h w).told q, (q.callIn h w).left q) := by
  unfold isolated Call.told Call.left Call.report
  match hr : (q.call h).run w with
  | (.ok a, w') =>
    rw [run_bind_ok (run_attempt_ok hr)]
    simp [callIn, hr]
  | (.error (.fault f), w') =>
    rw [run_bind_ok (run_attempt_fault hr)]
    simp only [callIn, hr]
    rfl
  | (.error (.panic text), w') =>
    rw [run_bind_error (run_attempt_error hr (Failure.breaks_panic text))]
    simp [callIn, hr]
  | (.error (.stop code), w') =>
    rw [run_bind_error (run_attempt_error hr (Failure.breaks_stop code))]
    simp [callIn, hr]

theorem seen_isolated (q : Request α) (h : Handler) (w : World) :
    (q.isolated h).seen w = (q.callIn h w).seen q := by
  unfold isolated Call.seen Call.report
  match hr : (q.call h).run w with
  | (.ok a, w') =>
    rw [seen_bind_ok (run_attempt_ok hr)]
    simp [callIn, hr]
  | (.error (.fault f), w') =>
    rw [seen_bind_ok (run_attempt_fault hr)]
    simp only [callIn, hr, seen_attempt]
    rfl
  | (.error (.panic text), w') =>
    rw [seen_bind_error (run_attempt_error hr (Failure.breaks_panic text))]
    simp [callIn, hr]
  | (.error (.stop code), w') =>
    rw [seen_bind_error (run_attempt_error hr (Failure.breaks_stop code))]
    simp [callIn, hr]

end Request

/-- Nobody is called in a round of no handlers. -/
theorem round_nil (q : Request α) (w : World) : Round q [] w [] w where
  runs := by simp
  leads := rfl
  inOrder := List.prefix_rfl
  complete _ := rfl
  last_of_breaks := by simp

/-- A call that breaks is the whole round. -/
theorem round_of_breaks {q : Request α} {h : Handler} {w : World} (hs : List Handler)
    (hbreaks : (q.callIn h w).Breaks) :
    Round q (h :: hs) w [q.callIn h w] ((q.callIn h w).left q) where
  runs c hc := by
    obtain rfl := List.mem_singleton.mp hc
    exact q.runs_callIn h w
  leads := ⟨rfl, rfl⟩
  inOrder := ⟨hs, rfl⟩
  complete hno := absurd hbreaks (hno _ List.mem_cons_self)
  last_of_breaks := by simp

/-- A call that does not break is followed by the round of the other handlers. -/
theorem Round.cons {q : Request α} {h : Handler} {hs : List Handler} {w w' : World}
    {calls : List (Call α)} (hbreaks : ¬ (q.callIn h w).Breaks)
    (hround : Round q hs ((q.callIn h w).left q) calls w') :
    Round q (h :: hs) w (q.callIn h w :: calls) w' where
  runs c hc := by
    rcases List.mem_cons.mp hc with rfl | hc
    · exact q.runs_callIn h w
    · exact hround.runs c hc
  leads := ⟨rfl, hround.leads⟩
  inOrder := (List.prefix_cons_inj h).mpr hround.inOrder
  complete hno := by
    have hrest := hround.complete fun c hc => hno c (List.mem_cons_of_mem _ hc)
    exact congrArg (h :: ·) hrest
  last_of_breaks c hc := by
    cases calls with
    | nil => simp at hc
    | cons d calls =>
      rcases List.mem_cons.mp hc with rfl | hc
      · exact hbreaks
      · exact hround.last_of_breaks c hc

/-- A call that breaks is all that its round comes to. -/
theorem yields_of_told_error {q : Request α} {c : Call α} {x : Failure}
    (ht : c.told q = .error x) : Yields q [c] (.error x) where
  ok hno := absurd ⟨x, Call.told_eq_error_iff.mp ht⟩ (hno c List.mem_cons_self)
  error d hd y hy _ := by
    obtain rfl := List.mem_singleton.mp hd
    obtain rfl := Except.error.inj ((Call.told_eq_error_iff.mp ht).1.symm.trans hy)
    rfl

/-- What a call counts as comes before what the round of the other handlers comes to. -/
theorem Yields.cons {q : Request α} {c : Call α} {calls : List (Call α)} {a : α}
    {result : Except Failure (List α)} (ht : c.told q = .ok a)
    (hyields : Yields q calls result) : Yields q (c :: calls) (result.map (a :: ·)) where
  ok hno := by
    obtain ⟨as, hresult, htold⟩ := hyields.ok fun d hd => hno d (List.mem_cons_of_mem _ hd)
    refine ⟨a :: as, ?_, ?_⟩
    · rw [hresult]
      rfl
    · rw [List.map_cons, List.map_cons, ht, htold]
  error d hd x hx hbreaks := by
    rcases List.mem_cons.mp hd with rfl | hd
    · cases ht.symm.trans (Call.told_eq_error_iff.mpr ⟨hx, hbreaks⟩)
    · rw [hyields.error d hd x hx hbreaks]
      rfl

/-- A round fails exactly with the panic or stop of a call. -/
theorem Yields.error_iff {α : Type} {q : Request α} {calls : List (Call α)}
    {result : Except Failure (List α)} (hyields : Yields q calls result) (x : Failure) :
    result = .error x ↔ ∃ c ∈ calls, c.result = .error x ∧ x.Breaks := by
  constructor
  · intro hresult
    by_contra hnone
    have hno : ∀ c ∈ calls, ¬ c.Breaks := by
      rintro c hc ⟨y, hy, hbreaks⟩
      obtain rfl := Except.error.inj (hresult.symm.trans (hyields.error c hc y hy hbreaks))
      exact hnone ⟨c, hc, hy, hbreaks⟩
    obtain ⟨as, has, -⟩ := hyields.ok hno
    cases hresult.symm.trans has
  · rintro ⟨c, hc, hx, hbreaks⟩
    exact hyields.error c hc x hx hbreaks

/-! ## Programs one after another -/

section InTurn

variable {p : Program α} {ps : List (Program α)} {w w' : World}

theorem run_inTurn_cons_ok {a : α} (h : p.run w = (.ok a, w')) :
    (inTurn (p :: ps)).run w =
      (((inTurn ps).run w').1.map (a :: ·), ((inTurn ps).run w').2) := by
  rw [inTurn, run_bind_ok h, run_bind]
  rcases (inTurn ps).run w' with ⟨_ | _, _⟩
  · rfl
  · rfl

/-- A failure leaves the programs after it unrun. -/
theorem run_inTurn_cons_error {x : Failure} (h : p.run w = (.error x, w')) :
    (inTurn (p :: ps)).run w = (.error x, w') := by
  rw [inTurn, run_bind_error h]

theorem seen_inTurn_cons_ok {a : α} (h : p.run w = (.ok a, w')) :
    (inTurn (p :: ps)).seen w = p.seen w ++ (inTurn ps).seen w' := by
  rw [inTurn, seen_bind_ok h, seen_bind]
  rcases (inTurn ps).run w' with ⟨_ | _, _⟩
  · rfl
  · simp

theorem seen_inTurn_cons_error {x : Failure} (h : p.run w = (.error x, w')) :
    (inTurn (p :: ps)).seen w = p.seen w := by
  rw [inTurn, seen_bind_error h]

end InTurn

/-- What is asked of handlers one after another is a round of calls. -/
theorem exists_round (q : Request α) (hs : List Handler) (w : World) :
    ∃ calls, Round q hs w calls ((inTurn (hs.map q.isolated)).run w).2 ∧
      Yields q calls ((inTurn (hs.map q.isolated)).run w).1 ∧
      (inTurn (hs.map q.isolated)).seen w = calls.flatMap (·.seen q) := by
  induction hs generalizing w with
  | nil => exact ⟨[], round_nil q w, ⟨fun _ => ⟨[], rfl, rfl⟩, by simp⟩, rfl⟩
  | cons h hs ih =>
    have hrun := q.run_isolated h w
    have hseen := q.seen_isolated h w
    rw [List.map_cons]
    cases ht : (q.callIn h w).told q with
    | error x =>
      rw [ht] at hrun
      rw [run_inTurn_cons_error hrun, seen_inTurn_cons_error hrun, hseen]
      have hbreaks : (q.callIn h w).Breaks := ⟨x, Call.told_eq_error_iff.mp ht⟩
      exact ⟨[q.callIn h w], round_of_breaks hs hbreaks, yields_of_told_error ht, by simp⟩
    | ok a =>
      rw [ht] at hrun
      rw [run_inTurn_cons_ok hrun, seen_inTurn_cons_ok hrun, hseen]
      have hbreaks : ¬ (q.callIn h w).Breaks := by
        rintro ⟨x, hx⟩
        cases ht.symm.trans (Call.told_eq_error_iff.mpr hx)
      obtain ⟨calls, hround, hyields, hrest⟩ := ih ((q.callIn h w).left q)
      refine ⟨q.callIn h w :: calls, hround.cons hbreaks, hyields.cons ht, ?_⟩
      rw [hrest, List.flatMap_cons]

/-! ## What the dispatcher asks -/

def delivering (datacenter : Text) (a : Alert) : Request Outcome where
  call h := h.deliver datacenter a
  report h f := faultEntry h a f
  instead h f := outcomeOf h (.error f)

def closeEntry (h : Handler) (f : Fault) : Entry :=
  .log ⟨.error, .dispatcher, "handler_close_error", [("handler", .text h.name)], some (.fault f)⟩

/-- The dispatcher asks handlers to close. -/
def closing : Request Unit where
  call h := h.close
  report := closeEntry
  instead _ _ := ()

theorem deliveries_eq (d : Dispatcher) (datacenter : Text) (a : Alert) :
    d.deliveries datacenter a = d.handlers.map (delivering datacenter a).isolated := by
  unfold deliveries
  refine List.map_congr_left fun h _ => ?_
  rw [deliverThrough_eq]
  refine congrArg (_ >>= ·) (funext fun x => ?_)
  cases x <;> rfl

theorem closeHandler_eq (h : Handler) : closeHandler h = closing.isolated h := by
  refine congrArg (h.close.attempt >>= ·) (funext fun x => ?_)
  cases x <;> rfl

theorem closeAll_eq (hs : List Handler) :
    closeAll hs = inTurn (hs.map closing.isolated) >>= fun _ => pure () := by
  induction hs with
  | nil => rfl
  | cons h hs ih =>
    rw [closeAll, closeHandler_eq, ih, List.map_cons, inTurn]
    simp only [LawfulMonad.bind_assoc, LawfulMonad.pure_bind]

end AlertRelay.Dispatcher
