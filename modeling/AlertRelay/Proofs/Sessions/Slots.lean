import AlertRelay.Proofs.Sessions.Events
import AlertRelay.Proofs.Upkeep.Channels
import Mathlib.Data.List.Perm.Subperm

/-!
# Sessions and their slots

The sessions of a world are what the events so far made of them, and every open one is held by a
slot (`Sessions.Follow`). Each effect on sessions keeps this up: taking one, posting on it right
away, releasing a slot, and the end of all sessions from outside. So deliveries that use some slots
keep it up (`World.deliveryInvariant_follows`), and when the slots are released one after another
no session is left open in the end.
-/

namespace AlertRelay

open SessionEvent

/-! ## Slots -/

namespace Sessions

variable {s : Sessions} {slot : Nat}

/-- The session of a slot is current while it is held and open. -/
theorem current?_eq_some_iff {n : Nat} :
    s.current? slot = some n ↔ s.held.lookup slot = some n ∧ n ∈ s.live := by
  simp [current?, Option.filter_eq_some_iff]

theorem lookup_hold_self (s : Sessions) (slot n : Nat) :
    (s.hold slot n).held.lookup slot = some n := by
  simp [hold]

theorem lookup_hold_ne {slot' : Nat} (hne : slot' ≠ slot) (n : Nat) :
    (s.hold slot n).held.lookup slot' = s.held.lookup slot' := by
  have hdiffers : (slot' == slot) = false := by simpa using hne
  rw [hold, List.lookup_cons, hdiffers]
  exact lookup_filter_ne hne

/-! ## What events made of sessions -/

/-- Sessions are what events in order made of them, and every open one is held by one of some
slots. -/
structure Follow (slots : List Nat) (events : List SessionEvent) (s : Sessions) : Prop where
  orderly : Orderly events
  live : s.live = openAfter events
  numbered : ∀ n, .opened n ∈ events → n ≤ s.opened
  held : ∀ n ∈ s.live, ∃ slot ∈ slots, s.held.lookup slot = some n

namespace Follow

variable {n : Nat} {slots : List Nat} {events : List SessionEvent}

/-- Nothing has happened to any session. -/
theorem nil (slots : List Nat) : Follow slots [] {} where
  orderly := Always.nil
  live := rfl
  numbered := nofun
  held := nofun

theorem mono {slots' : List Nat} (h : s.Follow slots events) (hslots : slots ⊆ slots') :
    s.Follow slots' events where
  orderly := h.orderly
  live := h.live
  numbered := h.numbered
  held n hn := by
    obtain ⟨slot, hslot, hlookup⟩ := h.held n hn
    exact ⟨slot, hslots hslot, hlookup⟩

/-- No more sessions are open than there are slots. -/
theorem length_open_le (h : s.Follow slots events) : (openAfter events).length ≤ slots.length := by
  have hsubset : s.live ⊆ slots.filterMap fun slot => s.held.lookup slot := by
    intro n hn
    obtain ⟨slot, hslot, hlookup⟩ := h.held n hn
    exact List.mem_filterMap.mpr ⟨slot, hslot, hlookup⟩
  rw [h.live] at hsubset
  exact Nat.le_trans (h.orderly.nodup_open.subperm hsubset).length_le (List.length_filterMap_le _ _)

/-- Without a slot that could hold it, no session is open. -/
theorem live_eq_nil (h : s.Follow [] events) : s.live = [] := by
  refine List.eq_nil_iff_forall_not_mem.mpr fun n hn => ?_
  obtain ⟨slot, hslot, -⟩ := h.held n hn
  cases hslot

/-- If a slot holds no open session, those that are open are held by others. -/
theorem exists_other (h : s.Follow slots events) (hnone : s.current? slot = none)
    (hn : n ∈ s.live) : ∃ slot' ∈ slots, slot' ≠ slot ∧ s.held.lookup slot' = some n := by
  obtain ⟨slot', hslot', hlookup⟩ := h.held n hn
  refine ⟨slot', hslot', ?_, hlookup⟩
  rintro rfl
  rw [current?_eq_some_iff.mpr ⟨hlookup, hn⟩] at hnone
  cases hnone

/-- An open session is posted on. -/
theorem post (h : s.Follow slots events) (hn : n ∈ s.live) :
    s.Follow slots (events ++ [.posted n]) where
  orderly := by
    rw [h.live] at hn
    exact h.orderly.concat hn
  live := by rw [openAfter_concat, next, h.live]
  numbered m hm := h.numbered m (by simpa using hm)
  held := h.held

/-- A slot that holds no open session gets a new one. -/
theorem openIn (h : s.Follow slots events) (hslot : slot ∈ slots)
    (hnone : s.current? slot = none) :
    (s.openIn slot).Follow slots (events ++ [.opened (s.opened + 1)]) where
  orderly := h.orderly.concat fun hopened =>
    absurd (h.numbered _ hopened) (Nat.not_succ_le_self _)
  live := by
    rw [openAfter_concat, next, ← h.live]
    rfl
  numbered n hn := by
    rcases List.mem_append.mp hn with hn | hn
    · exact Nat.le_succ_of_le (h.numbered n hn)
    · obtain rfl := SessionEvent.opened.inj (List.mem_singleton.mp hn)
      exact Nat.le_refl _
  held n hn := by
    rcases List.mem_cons.mp hn with rfl | hn
    · exact ⟨slot, hslot, s.lookup_hold_self slot _⟩
    · obtain ⟨slot', hslot', hne, hlookup⟩ := h.exists_other hnone hn
      exact ⟨slot', hslot', (lookup_hold_ne hne _).trans hlookup⟩

/-- The session of a slot is closed, and the other slots hold those that are left open. -/
theorem close (h : s.Follow (slot :: slots) events) (hn : s.current? slot = some n) :
    (s.close slot n).Follow slots (events ++ [.closed n]) where
  orderly := by
    have hopen := (current?_eq_some_iff.mp hn).2
    rw [h.live] at hopen
    exact h.orderly.concat hopen
  live := by
    rw [openAfter_concat, next, ← h.live]
    rfl
  numbered m hm := h.numbered m (by simpa using hm)
  held m hm := by
    obtain ⟨hm, hne⟩ := List.mem_filter.mp hm
    obtain ⟨slot', hslot', hlookup⟩ := h.held m hm
    have hother : slot' ≠ slot := by
      rintro rfl
      rw [(current?_eq_some_iff.mp hn).1] at hlookup
      simp [Option.some.inj hlookup] at hne
    refine ⟨slot', (List.mem_cons.mp hslot').resolve_left hother, ?_⟩
    exact (lookup_filter_ne hother).trans hlookup

/-- A slot that holds no open session need not be closed. -/
theorem vacant (h : s.Follow (slot :: slots) events) (hnone : s.current? slot = none) :
    s.Follow slots events where
  orderly := h.orderly
  live := h.live
  numbered := h.numbered
  held n hn := by
    obtain ⟨slot', hslot', hother, hlookup⟩ := h.exists_other hnone hn
    exact ⟨slot', (List.mem_cons.mp hslot').resolve_left hother, hlookup⟩

/-- All sessions end from outside. -/
theorem expire (h : s.Follow slots events) (slots' : List Nat) :
    s.expire.Follow slots' (events ++ [.expired]) where
  orderly := h.orderly.concat trivial
  live := by
    rw [openAfter_concat]
    rfl
  numbered m hm := h.numbered m (by simpa using hm)
  held := nofun

end Follow

end Sessions

/-! ## The sessions of a world -/

namespace World

/-- What was seen since a beginning, after earlier events of sessions, made the sessions of a world
what they are: some slots hold those that are open, and no more than a number were open at once. -/
def Follows (k : Nat) (slots : List Nat) (past : List SessionEvent) (start : List Entry)
    (w : World) : Prop :=
  ∃ es, w.trace = start ++ es ∧ w.sessions.Follow slots (past ++ sessionEvents es) ∧
    AtMost k (past ++ sessionEvents es)

variable {k slot : Nat} {slots : List Nat} {past : List SessionEvent} {start : List Entry}
  {w w' : World}

/-- In a world in which nothing has happened yet no session is open. -/
theorem follows_fresh (n : Network) : Follows k slots [] [] { network := n } :=
  ⟨[], rfl, Sessions.Follow.nil slots, AtMost.nil⟩

/-- An effect that shows nothing of sessions leaves them as they are. -/
theorem Follows.aside (h : w.Follows k slots past start) {es : List Entry}
    (htrace : w'.trace = w.trace ++ es) (hes : sessionEvents es = [])
    (hsessions : w'.sessions = w.sessions) : w'.Follows k slots past start := by
  obtain ⟨fs, hfs, hfollow, hmost⟩ := h
  refine ⟨fs ++ es, by rw [htrace, hfs, List.append_assoc], ?_⟩
  rw [sessionEvents_append, hes, List.append_nil, hsessions]
  exact ⟨hfollow, hmost⟩

/-- An event changes the sessions in its way, and as many are open as slots hold. -/
theorem Follows.event (h : w.Follows k slots past start) {slots' : List Nat}
    (hk : slots'.length ≤ k) {entry : Entry} {e : SessionEvent} (hentry : entry.session? = some e)
    (htrace : w'.trace = w.trace ++ [entry])
    (hsessions : ∀ events, w.sessions.Follow slots events →
      w'.sessions.Follow slots' (events ++ [e])) : w'.Follows k slots' past start := by
  obtain ⟨es, hes, hfollow, hmost⟩ := h
  have hevent : past ++ sessionEvents (es ++ [entry]) = past ++ sessionEvents es ++ [e] := by
    simp [sessionEvents, hentry]
  have hafter := hsessions _ hfollow
  refine ⟨es ++ [entry], by rw [htrace, hes, List.append_assoc], ?_⟩
  rw [hevent]
  exact ⟨hafter, hmost.concat (Nat.le_trans hafter.length_open_le hk)⟩

theorem Follows.see (h : w.Follows k slots past start) {e : Entry} (he : e.session? = none) :
    (w.see e).Follows k slots past start :=
  h.aside (w.trace_see e) (by simp [sessionEvents, he]) rfl

/-- The session that a slot holds from now on is open. -/
theorem Follows.take (h : w.Follows k slots past start) (hk : slots.length ≤ k)
    (hslot : slot ∈ slots) (timeout : Seconds) :
    (w.take slot timeout).2.Follows k slots past start ∧
      (w.take slot timeout).1 ∈ (w.take slot timeout).2.sessions.live := by
  cases hcurrent : w.sessions.current? slot with
  | some n =>
    have htake : w.take slot timeout = (n, w) := by
      simp only [World.take, perform, hcurrent]
      rfl
    rw [htake]
    exact ⟨h, (Sessions.current?_eq_some_iff.mp hcurrent).2⟩
  | none =>
    have htake : w.take slot timeout = (w.sessions.opened + 1,
        { w with sessions := w.sessions.openIn slot }.see
          (.sessionOpened (w.sessions.opened + 1) timeout)) := by
      simp only [World.take, perform, hcurrent]
      rfl
    rw [htake]
    exact ⟨h.event hk rfl rfl fun _ hfollow => hfollow.openIn hslot hcurrent, List.mem_cons_self⟩

theorem Follows.post (h : w.Follows k slots past start) (hk : slots.length ≤ k) {n : Nat}
    (hn : n ∈ w.sessions.live) (url : Text) (payload : Payload) :
    (w.afterPost n url payload).Follows k slots past start :=
  h.event hk rfl rfl fun _ hfollow => hfollow.post hn

/-- Deliveries that use some slots make of the sessions what they show. -/
theorem deliveryInvariant_follows (hk : slots.length ≤ k) :
    DeliveryInvariant (Follows k slots past start) (fun _ => True) (· ∈ slots) where
  log w call _ h := h.see rfl
  aside w e he h := by
    cases e with
    | note e =>
      cases e <;> first | exact h.see rfl | exact he.elim
    | readClock => exact h.aside (List.append_nil _).symm rfl rfl
    | queryMx domain => exact h.see (e := .mxQuery domain) rfl
    | resolve domain => exact h.see (e := .resolverCall domain) rfl
    | send submission =>
      have htrace : (w.perform (.send submission)).2.trace = w.trace ++ [.send submission] := rfl
      exact h.aside htrace rfl rfl
    | _ => exact he.elim
  exchange w slot timeout url payload hslot h := by
    obtain ⟨htaken, hopen⟩ := h.take hk hslot timeout
    exact htaken.post hk hopen url payload

/-- When a slot is released, the other slots hold the sessions that are left open. -/
theorem Follows.release (h : w.Follows k (slot :: slots) past start) (hk : slots.length ≤ k) :
    (w.perform (.release slot)).2.Follows k slots past start := by
  cases hcurrent : w.sessions.current? slot with
  | some n =>
    simp only [perform, hcurrent]
    exact h.event hk rfl rfl fun _ hfollow => hfollow.close hcurrent
  | none =>
    simp only [perform, hcurrent]
    obtain ⟨es, hes, hfollow, hmost⟩ := h
    exact ⟨es, hes, hfollow.vacant hcurrent, hmost⟩

end World

end AlertRelay
