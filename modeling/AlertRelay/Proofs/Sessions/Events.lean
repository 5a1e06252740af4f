import AlertRelay.Program
import Mathlib.Data.List.Basic
import Mathlib.Data.List.Induction

/-!
# What happens to sessions

The events of sessions among what is seen: a session is opened, posted on or closed, or all of them
end from outside. `openAfter` tells which sessions are open after events. Events are `Orderly` if a
session is never opened a second time, and only an open one is posted on or closed.

* `AtMost.none_open` — if at most one session is open at any moment, one is opened only when none
  is;
* `Orderly.new_of_posted` — after a moment without open sessions only new ones are posted on;
* `Orderly.after_close` — a session is closed at most once, and nothing happens to it afterwards;
* `Orderly.exists_close` — if none is left open and none ended from outside, every session that was
  opened was closed.
-/

namespace AlertRelay

inductive SessionEvent where
  | opened (session : Nat)
  | posted (session : Nat)
  | closed (session : Nat)
  /-- Every open session ends from outside. -/
  | expired
  deriving DecidableEq

def Entry.session? : Entry → Option SessionEvent
  | .sessionOpened session _ => some (.opened session)
  | .sessionClosed session => some (.closed session)
  | .post session _ _ => some (.posted session)
  | _ => none

def sessionEvents (es : List Entry) : List SessionEvent := es.filterMap Entry.session?

@[simp] theorem sessionEvents_nil : sessionEvents [] = [] := rfl

@[simp] theorem sessionEvents_append (es fs : List Entry) :
    sessionEvents (es ++ fs) = sessionEvents es ++ sessionEvents fs :=
  List.filterMap_append

/-- Entries tell only of what is seen, and nobody sees a session end from outside. -/
theorem not_expired_mem_sessionEvents (es : List Entry) : .expired ∉ sessionEvents es := by
  intro h
  obtain ⟨e, -, he⟩ := List.mem_filterMap.mp h
  cases e <;> simp [Entry.session?] at he

namespace SessionEvent

/-! ## Open sessions -/

def next (live : List Nat) : SessionEvent → List Nat
  | opened session => session :: live
  | posted _ => live
  | closed session => live.filter (· != session)
  | expired => []

/-- The sessions that are open after events, if none was before. -/
def openAfter (events : List SessionEvent) : List Nat := events.foldl next []

variable {events before after : List SessionEvent} {e : SessionEvent} {session : Nat}

@[simp] theorem openAfter_concat (events : List SessionEvent) (e : SessionEvent) :
    openAfter (events ++ [e]) = next (openAfter events) e := by
  rw [openAfter, List.foldl_append]
  rfl

/-- After an event the sessions are open that it opens, and those from before that it does not end.
-/
theorem mem_next {live : List Nat} : session ∈ next live e ↔
    e = opened session ∨ session ∈ live ∧ e ≠ closed session ∧ e ≠ expired := by
  cases e with
  | opened other => simp [next, @eq_comm _ session]
  | posted other => simp [next]
  | closed other => simp [next, @eq_comm _ session]
  | expired => simp [next]

theorem opened_mem_of_open (h : session ∈ openAfter events) : opened session ∈ events := by
  induction events using List.reverseRecOn with
  | nil => cases h
  | append_singleton events e ih =>
    rw [openAfter_concat, mem_next] at h
    rcases h with rfl | ⟨h, -⟩
    · exact List.mem_append_right _ (List.mem_singleton_self _)
    · exact List.mem_append_left _ (ih h)

/-- A session that was opened is open, unless it was closed or all ended from outside. -/
theorem open_of_opened_mem (hopened : opened session ∈ events) (hclosed : closed session ∉ events)
    (hexpired : expired ∉ events) : session ∈ openAfter events := by
  induction events using List.reverseRecOn with
  | nil => cases hopened
  | append_singleton events e ih =>
    simp only [List.mem_append, List.mem_singleton, not_or] at hopened hclosed hexpired
    rw [openAfter_concat, mem_next]
    rcases hopened with hopened | rfl
    · exact .inr ⟨ih hopened hclosed.1 hexpired.1, Ne.symm hclosed.2, Ne.symm hexpired.2⟩
    · exact .inl rfl

/-! ## Order -/

/-- Whether every event meets a condition on it and the events before it. -/
def Always (P : List SessionEvent → SessionEvent → Prop) (events : List SessionEvent) : Prop :=
  ∀ before e after, events = before ++ e :: after → P before e

/-- Whether an event may follow others: a session that is opened is a new one, and one that is
posted on or closed is open. -/
def Fits (before : List SessionEvent) : SessionEvent → Prop
  | opened session => opened session ∉ before
  | posted session => session ∈ openAfter before
  | closed session => session ∈ openAfter before
  | expired => True

/-- Whether every event may follow the ones before it. -/
def Orderly (events : List SessionEvent) : Prop := Always Fits events

/-- Whether at no moment more sessions than a number are open. -/
def AtMost (k : Nat) (events : List SessionEvent) : Prop :=
  ∀ before, before <+: events → (openAfter before).length ≤ k

namespace Always

variable {P : List SessionEvent → SessionEvent → Prop}

theorem nil : Always P [] := by
  intro before e after h
  simp at h

theorem left (h : Always P (before ++ after)) : Always P before :=
  fun b e a hb => h b e (a ++ after) (by rw [hb]; simp)

theorem concat (h : Always P events) (he : P events e) : Always P (events ++ [e]) := by
  intro before f after heq
  rcases List.eq_nil_or_concat after with rfl | ⟨after, g, rfl⟩
  · obtain ⟨rfl, hf⟩ := List.append_inj' heq rfl
    obtain rfl := List.singleton_inj.mp hf
    exact he
  · rw [List.concat_eq_append, ← List.cons_append, ← List.append_assoc] at heq
    exact h before f after (List.append_inj' heq rfl).1

end Always

/-! ### Sessions that are open at the same time -/

namespace AtMost

variable {k : Nat}

theorem nil : AtMost k [] := by
  intro before hbefore
  obtain rfl := List.prefix_nil.mp hbefore
  exact Nat.zero_le k

theorem concat (h : AtMost k events) (hlast : (openAfter (events ++ [e])).length ≤ k) :
    AtMost k (events ++ [e]) := by
  intro before hbefore
  rcases List.prefix_concat_iff.mp hbefore with rfl | hbefore
  · exact hlast
  · exact h before hbefore

/-- If at most one session is open at any moment, one is opened only when none is open. -/
theorem none_open (h : AtMost 1 (before ++ opened session :: after)) : openAfter before = [] := by
  have hle := h (before ++ [opened session]) ⟨after, by simp⟩
  rw [openAfter_concat] at hle
  exact List.eq_nil_of_length_eq_zero (Nat.le_zero.mp (Nat.le_of_succ_le_succ hle))

end AtMost

/-- In an orderly life no session is open twice. -/
theorem Orderly.nodup_open (h : Orderly events) : (openAfter events).Nodup := by
  induction events using List.reverseRecOn with
  | nil => exact List.nodup_nil
  | append_singleton events e ih =>
    have hrest := ih h.left
    rw [openAfter_concat]
    cases e with
    | opened session =>
      have hnew : opened session ∉ events := h events _ [] rfl
      exact List.nodup_cons.mpr ⟨fun hopen => hnew (opened_mem_of_open hopen), hrest⟩
    | posted session => exact hrest
    | closed session => exact hrest.filter _
    | expired => exact List.nodup_nil

/-! ### Sessions that are new -/

/-- A session that is open was open earlier or has been opened since. -/
theorem opened_mem_of_open_append (h : session ∈ openAfter (before ++ events)) :
    session ∈ openAfter before ∨ opened session ∈ events := by
  induction events using List.reverseRecOn with
  | nil => exact .inl (by simpa using h)
  | append_singleton events e ih =>
    rw [← List.append_assoc, openAfter_concat, mem_next] at h
    rcases h with rfl | ⟨h, -⟩
    · exact .inr (List.mem_append_right _ (List.mem_singleton_self _))
    · exact (ih h).imp_right (List.mem_append_left _)

/-- If no session was open, those that are posted on are opened first, and are new ones. -/
theorem Orderly.new_of_posted (h : Orderly (before ++ events)) (hnone : openAfter before = [])
    (hposted : posted session ∈ events) : opened session ∈ events ∧ opened session ∉ before := by
  have hopened : opened session ∈ events := by
    obtain ⟨b, a, rfl⟩ := List.append_of_mem hposted
    have hopen : session ∈ openAfter (before ++ b) := h _ (posted session) a (by simp)
    rcases opened_mem_of_open_append hopen with hopen | hopened
    · rw [hnone] at hopen
      cases hopen
    · exact List.mem_append_left _ hopened
  obtain ⟨b, a, rfl⟩ := List.append_of_mem hopened
  have hnew : opened session ∉ before ++ b := h _ (opened session) a (by simp)
  exact ⟨hopened, fun hbefore => hnew (List.mem_append_left _ hbefore)⟩

/-! ### Closing -/

namespace Orderly

/-- A session that was closed is not open again. -/
theorem not_open_of_closed_mem (h : Orderly events) (hclosed : closed session ∈ events) :
    session ∉ openAfter events := by
  induction events using List.reverseRecOn with
  | nil => cases hclosed
  | append_singleton events e ih =>
    have hfits : Fits events e := h events e [] rfl
    rw [openAfter_concat, mem_next]
    rcases List.mem_append.mp hclosed with hbefore | hlast
    · rintro (rfl | ⟨hopen, -⟩)
      · -- It was open when it was closed, so it had been opened before.
        obtain ⟨b, a, rfl⟩ := List.append_of_mem hbefore
        have hopen : session ∈ openAfter b := h b (closed session) (a ++ [opened session]) (by simp)
        exact hfits (List.mem_append_left _ (opened_mem_of_open hopen))
      · exact ih h.left hbefore hopen
    · obtain rfl := List.mem_singleton.mp hlast
      simp

/-- A session is closed once, after it was opened, and is neither opened again nor posted on
afterwards. -/
theorem after_close (h : Orderly (before ++ closed session :: after)) :
    opened session ∈ before ∧ closed session ∉ before ∧ closed session ∉ after ∧
      posted session ∉ after ∧ opened session ∉ after := by
  have hopen : session ∈ openAfter before := h before _ after rfl
  -- What happens to a session afterwards happens while it is closed.
  have hlater : ∀ e ∈ after, ∃ events, closed session ∈ events ∧ opened session ∈ events ∧
      Orderly events ∧ Fits events e := by
    intro e he
    obtain ⟨b, a, rfl⟩ := List.append_of_mem he
    have hsplit : before ++ closed session :: (b ++ e :: a) =
        (before ++ closed session :: b) ++ e :: a := by simp
    rw [hsplit] at h
    exact ⟨_, by simp, List.mem_append_left _ (opened_mem_of_open hopen), h.left, h _ e a rfl⟩
  refine ⟨opened_mem_of_open hopen, fun hclosed => ?_, fun hclosed => ?_, fun hposted => ?_,
    fun hopened => ?_⟩
  · exact not_open_of_closed_mem h.left hclosed hopen
  · obtain ⟨events, hclosed, -, horderly, hfits⟩ := hlater _ hclosed
    exact horderly.not_open_of_closed_mem hclosed hfits
  · obtain ⟨events, hclosed, -, horderly, hfits⟩ := hlater _ hposted
    exact horderly.not_open_of_closed_mem hclosed hfits
  · obtain ⟨events, -, hopened, -, hfits⟩ := hlater _ hopened
    exact hfits hopened

/-- If no session is left open and none ended from outside, one that was opened was closed. -/
theorem exists_close (hopen : openAfter events = []) (hexpired : expired ∉ events)
    (hopened : opened session ∈ events) :
    ∃ before after, events = before ++ closed session :: after := by
  by_contra hnone
  have hclosed : closed session ∉ events := fun hclosed => hnone (List.append_of_mem hclosed)
  have hmem := open_of_opened_mem hopened hclosed hexpired
  rw [hopen] at hmem
  cases hmem

end Orderly

end SessionEvent

end AlertRelay
