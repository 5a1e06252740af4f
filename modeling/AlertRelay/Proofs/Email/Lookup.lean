import Mathlib.Data.List.Nodup
import AlertRelay.Proofs.Run
import AlertRelay.Channel.Email

/-!
# Finding mail servers

The domain of a recipient is what stands behind the last at sign (`recipientDomain_eq_ok_iff`).
Among the records of a domain the earliest of those with the lowest preference is taken
(`preferred?_eq_some_iff`), and the look-up raises a fault of its own exactly if the name service
refuses or no record names a host that accepts mail (`raises_iff`). What the question about the
domain came to is all that a look-up depends on (`run_lookupServer`).
-/

namespace AlertRelay.Email

open Program

/-! ## Domains of recipients -/

/-- Whether a domain is what stands behind the last at sign of a recipient, and is not empty. -/
def HasDomain (recipient domain : Text) : Prop :=
  domain ≠ [] ∧ .char '@' ∉ domain ∧ ∃ before, recipient = before ++ .char '@' :: domain

def invalidAddress (recipient : Text) : Fault :=
  unresolved ("invalid recipient address: " ++ Text.quoted recipient)

theorem afterLastAt?_eq_none_iff {cs : Text} : afterLastAt? cs = none ↔ .char '@' ∉ cs := by
  induction cs with
  | nil => simp [afterLastAt?]
  | cons c cs ih =>
    rw [afterLastAt?, List.mem_cons, not_or, ← ih]
    cases hrest : afterLastAt? cs with
    | some rest => simp
    | none => simp [eq_comm]

theorem afterLastAt?_eq_some_iff {cs rest : Text} :
    afterLastAt? cs = some rest ↔
      .char '@' ∉ rest ∧ ∃ before, cs = before ++ .char '@' :: rest := by
  induction cs generalizing rest with
  | nil => simp [afterLastAt?]
  | cons c cs ih =>
    rw [afterLastAt?]
    constructor
    · intro h
      cases hlater : afterLastAt? cs with
      | some later =>
        rw [hlater] at h
        obtain rfl := Option.some.inj h
        obtain ⟨hno, before, rfl⟩ := ih.mp hlater
        exact ⟨hno, c :: before, rfl⟩
      | none =>
        rw [hlater] at h
        dsimp only at h
        split at h
        · next hat =>
          obtain rfl := Option.some.inj h
          exact ⟨afterLastAt?_eq_none_iff.mp hlater, [], by rw [hat]; rfl⟩
        · cases h
    · rintro ⟨hno, before, heq⟩
      cases before with
      | nil =>
        obtain ⟨rfl, rfl⟩ := List.cons.inj heq
        rw [afterLastAt?_eq_none_iff.mpr hno]
        rfl
      | cons b before =>
        obtain ⟨-, hcs⟩ := List.cons.inj heq
        rw [ih.mpr ⟨hno, before, hcs⟩]

theorem recipientDomain_eq_ok_iff {recipient domain : Text} :
    recipientDomain recipient = .ok domain ↔ HasDomain recipient domain := by
  rw [HasDomain, ← afterLastAt?_eq_some_iff, recipientDomain]
  rcases afterLastAt? recipient with _ | _ | ⟨c, cs⟩
  · simp
  · simp
  · simpa using fun h => h ▸ List.cons_ne_nil c cs

/-- A recipient without a domain is refused as invalid. -/
theorem recipientDomain_of_none {recipient : Text} (h : ∀ domain, ¬ HasDomain recipient domain) :
    recipientDomain recipient = .error (invalidAddress recipient) := by
  cases hdomain : recipientDomain recipient with
  | ok domain => exact absurd (recipientDomain_eq_ok_iff.mp hdomain) (h domain)
  | error f =>
    unfold recipientDomain at hdomain
    split at hdomain
    · cases hdomain
    · exact hdomain.symm

/-- A recipient has no domain exactly if there is no at sign or nothing follows the last one. -/
theorem not_hasDomain_iff {recipient : Text} :
    (∀ domain, ¬ HasDomain recipient domain) ↔
      .char '@' ∉ recipient ∨ ∃ before, recipient = before ++ [.char '@'] := by
  constructor
  · intro h
    rw [← afterLastAt?_eq_none_iff]
    rcases hafter : afterLastAt? recipient with _ | _ | ⟨c, cs⟩
    · exact .inl rfl
    · exact .inr (afterLastAt?_eq_some_iff.mp hafter).2
    · have hdomain : HasDomain recipient (c :: cs) :=
        ⟨List.cons_ne_nil c cs, afterLastAt?_eq_some_iff.mp hafter⟩
      exact absurd hdomain (h _)
  · rintro (hno | ⟨before, heq⟩) domain ⟨hne, hdomain⟩
    · obtain ⟨-, before, rfl⟩ := hdomain
      exact hno (List.mem_append_right _ List.mem_cons_self)
    · -- What follows the last at sign is found once only, and here it is nothing.
      have hempty : afterLastAt? recipient = some [] :=
        afterLastAt?_eq_some_iff.mpr ⟨List.not_mem_nil, before, heq⟩
      have hsome : afterLastAt? recipient = some domain := afterLastAt?_eq_some_iff.mpr hdomain
      rw [hempty] at hsome
      exact hne (Option.some.inj hsome).symm

/-! ## The preferred record -/

/-- Whether a record is the earliest of those with the lowest preference. -/
def IsPreferred (records : List MxRecord) (s : MxRecord) : Prop :=
  ∃ before after, records = before ++ s :: after ∧
    (∀ r ∈ before, s.preference < r.preference) ∧ ∀ r ∈ after, s.preference ≤ r.preference

variable {records records' : List MxRecord} {s : MxRecord}

theorem IsPreferred.mem (h : IsPreferred records s) : s ∈ records := by
  obtain ⟨before, after, rfl, -⟩ := h
  exact List.mem_append_right before List.mem_cons_self

theorem IsPreferred.le (h : IsPreferred records s) :
    ∀ r ∈ records, s.preference ≤ r.preference := by
  obtain ⟨before, after, rfl, hbefore, hafter⟩ := h
  intro r hr
  rcases List.mem_append.mp hr with hr | hr
  · exact Int.le_of_lt (hbefore r hr)
  · rcases List.mem_cons.mp hr with rfl | hr
    · exact Int.le_refl _
    · exact hafter r hr

theorem IsPreferred.singleton (s : MxRecord) : IsPreferred [s] s :=
  ⟨[], [], rfl, List.forall_mem_nil _, List.forall_mem_nil _⟩

/-- Two records cannot both be the earliest of the lowest preference. -/
theorem IsPreferred.eq {t : MxRecord} (hs : IsPreferred records s) (ht : IsPreferred records t) :
    s = t := by
  have hst : s.preference ≤ t.preference := hs.le t ht.mem
  have hts : t.preference ≤ s.preference := ht.le s hs.mem
  obtain ⟨before, after, hrecords, hbefore, -⟩ := hs
  obtain ⟨before', after', rfl, hbefore', -⟩ := ht
  have hno : t ∉ before := fun h => Int.not_lt.mpr hts (hbefore t h)
  have hno' : s ∉ before' := fun h => Int.not_lt.mpr hst (hbefore' s h)
  rcases List.append_eq_append_iff.mp hrecords with ⟨between, rfl, h⟩ | ⟨between, rfl, h⟩
  · cases between with
    | nil => exact (List.cons.inj h).1.symm
    | cons r between =>
      rw [(List.cons.inj h).1] at hno
      exact absurd (List.mem_append_right _ List.mem_cons_self) hno
  · cases between with
    | nil => exact (List.cons.inj h).1
    | cons r between =>
      rw [(List.cons.inj h).1] at hno'
      exact absurd (List.mem_append_right _ List.mem_cons_self) hno'

theorem preferred?_eq_none_iff : preferred? records = none ↔ records = [] := by
  constructor
  · intro h
    cases records with
    | nil => rfl
    | cons r rest =>
      rw [preferred?] at h
      split at h <;> cases h
  · rintro rfl
    rfl

theorem isPreferred_of_preferred? (h : preferred? records = some s) : IsPreferred records s := by
  induction records generalizing s with
  | nil => cases h
  | cons r rest ih =>
    rw [preferred?] at h
    cases hrest : preferred? rest with
    | none =>
      rw [hrest] at h
      obtain rfl := Option.some.inj h
      rw [preferred?_eq_none_iff.mp hrest]
      exact .singleton r
    | some t =>
      have ht : IsPreferred rest t := ih hrest
      rw [hrest] at h
      dsimp only at h
      split at h
      · next hle =>
        obtain rfl := Option.some.inj h
        refine ⟨[], rest, rfl, List.forall_mem_nil _, fun q hq => ?_⟩
        exact Int.le_trans hle (ht.le q hq)
      · next hlt =>
        obtain rfl := Option.some.inj h
        obtain ⟨before, after, rfl, hbefore, hafter⟩ := ht
        refine ⟨r :: before, after, rfl, List.forall_mem_cons.mpr ⟨?_, hbefore⟩, hafter⟩
        exact Int.not_le.mp hlt

/-- The record that is chosen is the first with the lowest preference. -/
theorem preferred?_eq_some_iff : preferred? records = some s ↔ IsPreferred records s := by
  refine ⟨isPreferred_of_preferred?, fun hs => ?_⟩
  cases h : preferred? records with
  | none =>
    have hmem : s ∈ records := hs.mem
    rw [preferred?_eq_none_iff.mp h] at hmem
    cases hmem
  | some t => rw [(isPreferred_of_preferred? h).eq hs]

/-- Where no two preferences are the same, the order of the records does not matter. -/
theorem preferred?_of_perm (h : records.Perm records')
    (hdistinct : (records.map (·.preference)).Nodup) :
    preferred? records = preferred? records' := by
  cases hs : preferred? records with
  | none =>
    rw [preferred?_eq_none_iff.mp hs] at h
    rw [← h.nil_eq]
    rfl
  | some s =>
    cases ht : preferred? records' with
    | none =>
      rw [preferred?_eq_none_iff.mp ht] at h
      rw [h.eq_nil] at hs
      cases hs
    | some t =>
      have hs' : IsPreferred records s := isPreferred_of_preferred? hs
      have ht' : IsPreferred records' t := isPreferred_of_preferred? ht
      have hmem : t ∈ records := h.mem_iff.mpr ht'.mem
      have hle : s.preference ≤ t.preference := hs'.le t hmem
      have hge : t.preference ≤ s.preference := ht'.le s (h.mem_iff.mp hs'.mem)
      rw [List.inj_on_of_nodup_map hdistinct hs'.mem hmem (Int.le_antisymm hle hge)]

/-! ## The look-up -/

/-- What comes of asking for the mail servers of a domain. -/
def answerAt (n : Network) (domain : Text) : Except Failure MxAnswer :=
  ((n.mx.lookup domain).getD Network.unknownDomain).outcome

/-- What the look-up of a mail server makes of what came of asking. -/
def hostAt (domain : Text) : Except Failure MxAnswer → Except Failure Text
  | .ok answer => (hostOf domain answer).mapError .fault
  | .error x => .error x

theorem run_ofResult {α : Type} (x : Except Fault α) (w : World) :
    (ofResult x).run w = (x.mapError .fault, w) := by
  cases x <;> rfl

theorem seen_ofResult {α : Type} (x : Except Fault α) (w : World) : (ofResult x).seen w = [] := by
  cases x <;> rfl

variable {domain : Text} {w : World} {n : Network} {host : Text}

theorem run_queryMx (domain : Text) (w : World) :
    (queryMx domain).run w = (answerAt w.network domain, w.see (.mxQuery domain)) :=
  run_await _ _

theorem seen_queryMx (domain : Text) (w : World) : (queryMx domain).seen w = [.mxQuery domain] := by
  have h : (queryMx domain).seen w = .mxQuery domain ::
      (await ((w.network.mx.lookup domain).getD Network.unknownDomain)).seen
        (w.see (.mxQuery domain)) := rfl
  rw [h, seen_await]

/-- A look-up asks once and comes to what it makes of the answer. -/
theorem run_lookupServer (domain : Text) (w : World) :
    (lookupServer domain).run w =
      (hostAt domain (answerAt w.network domain), w.see (.mxQuery domain)) := by
  rw [lookupServer, run_bind, run_queryMx]
  cases answerAt w.network domain with
  | error x => rfl
  | ok answer => exact run_ofResult _ _

theorem seen_lookupServer (domain : Text) (w : World) :
    (lookupServer domain).seen w = [.mxQuery domain] := by
  rw [lookupServer, seen_bind, run_queryMx, seen_queryMx]
  cases answerAt w.network domain with
  | error x => rfl
  | ok answer => exact congrArg ([.mxQuery domain] ++ ·) (seen_ofResult _ _)

/-! ### What it raises -/

inductive Unresolvable : Except Failure MxAnswer → Prop where
  /-- The name service refused. -/
  | refused (f : Fault) : Unresolvable (.ok (.refused f))
  | empty : Unresolvable (.ok (.records []))
  /-- The preferred record names no host, or the root. -/
  | nameless {records : List MxRecord} {s : MxRecord} (hs : IsPreferred records s)
    (hname : s.host = [] ∨ s.host = ".") : Unresolvable (.ok (.records records))

/-- An answer names the host of the preferred record unless that is none. -/
theorem hostOf_eq_ok_iff {answer : MxAnswer} :
    hostOf domain answer = .ok host ↔
      ∃ records s, answer = .records records ∧ IsPreferred records s ∧
        s.host ≠ [] ∧ s.host ≠ "." ∧ host = s.host := by
  constructor
  · intro h
    cases answer with
    | refused f => cases h
    | records records =>
      rw [hostOf] at h
      cases hs : preferred? records with
      | none =>
        rw [hs] at h
        cases h
      | some s =>
        rw [hs] at h
        dsimp only at h
        split at h
        · cases h
        · next hname =>
          obtain ⟨hempty, hroot⟩ := not_or.mp hname
          exact ⟨records, s, rfl, preferred?_eq_some_iff.mp hs, hempty, hroot,
            (Except.ok.inj h).symm⟩
  · rintro ⟨records, s, rfl, hs, hempty, hroot, rfl⟩
    rw [hostOf, preferred?_eq_some_iff.mpr hs]
    exact if_neg (not_or.mpr ⟨hempty, hroot⟩)

/-- A look-up succeeds only with the name of the preferred record, which is neither empty nor the
root. -/
theorem hostAt_eq_ok_iff {answer : Except Failure MxAnswer} :
    hostAt domain answer = .ok host ↔
      ∃ records s, answer = .ok (.records records) ∧ IsPreferred records s ∧
        s.host ≠ [] ∧ s.host ≠ "." ∧ host = s.host := by
  cases answer with
  | error x => simp [hostAt]
  | ok answer =>
    have hown : hostAt domain (.ok answer) = .ok host ↔ hostOf domain answer = .ok host := by
      rw [hostAt]
      cases hostOf domain answer <;> simp [Except.mapError]
    rw [hown, hostOf_eq_ok_iff]
    simp only [Except.ok.injEq]

/-- Every fault of an answer is of the kind of look-ups. -/
theorem kind_of_hostOf_eq_error {answer : MxAnswer} {f : Fault}
    (h : hostOf domain answer = .error f) : f.kind = "ResolutionError" := by
  unfold hostOf at h
  split at h
  · obtain rfl := Except.error.inj h
    rfl
  · split at h
    · obtain rfl := Except.error.inj h
      rfl
    · split at h
      · obtain rfl := Except.error.inj h
        rfl
      · cases h

/-- A domain is resolvable exactly if asking failed or the preferred record names a host. -/
theorem hostOf_eq_error_iff {answer : MxAnswer} :
    (∃ f, hostOf domain answer = .error f) ↔ Unresolvable (.ok answer) := by
  constructor
  · rintro ⟨f, hf⟩
    cases answer with
    | refused g => exact .refused g
    | records records =>
      cases hs : preferred? records with
      | none =>
        rw [preferred?_eq_none_iff.mp hs]
        exact .empty
      | some s =>
        rw [hostOf, hs] at hf
        dsimp only at hf
        split at hf
        · next hname => exact .nameless (preferred?_eq_some_iff.mp hs) hname
        · cases hf
  · rintro (f | _ | ⟨hs, hname⟩)
    · exact ⟨_, rfl⟩
    · exact ⟨_, rfl⟩
    · rw [hostOf, preferred?_eq_some_iff.mpr hs]
      exact ⟨_, if_pos hname⟩

/-- A look-up raises a fault of its own exactly if the domain is unresolvable, and it is a fault of
look-ups. -/
theorem raises_iff {answer : Except Failure MxAnswer} :
    (∃ f, hostAt domain answer = .error (.fault f) ∧ f.kind = "ResolutionError" ∧
        answer ≠ .error (.fault f)) ↔ Unresolvable answer := by
  cases answer with
  | error x =>
    constructor
    · rintro ⟨f, hf, -, hown⟩
      rw [hostAt] at hf
      rw [Except.error.inj hf] at hown
      exact absurd rfl hown
    · rintro ⟨⟩
  | ok answer =>
    rw [← hostOf_eq_error_iff]
    constructor
    · rintro ⟨f, hf, -⟩
      rw [hostAt] at hf
      cases hhost : hostOf domain answer with
      | ok host =>
        rw [hhost] at hf
        cases hf
      | error g => exact ⟨g, rfl⟩
    · rintro ⟨f, hf⟩
      exact ⟨f, by rw [hostAt, hf]; rfl, kind_of_hostOf_eq_error hf, nofun⟩

/-- Unless the domain is unresolvable, a look-up fails only as the question about it did. -/
theorem eq_of_hostAt_eq_error {answer : Except Failure MxAnswer} {x : Failure}
    (h : hostAt domain answer = .error x) (hresolvable : ¬ Unresolvable answer) :
    answer = .error x := by
  cases answer with
  | error y =>
    rw [hostAt] at h
    rw [Except.error.inj h]
  | ok answer =>
    cases hhost : hostOf domain answer with
    | ok host =>
      rw [hostAt, hhost] at h
      cases h
    | error f => exact absurd (hostOf_eq_error_iff.mp ⟨f, hhost⟩) hresolvable

end AlertRelay.Email
