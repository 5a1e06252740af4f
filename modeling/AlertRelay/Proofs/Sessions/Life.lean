import AlertRelay.Proofs.Lives
import AlertRelay.Proofs.Sessions.Slots

/-!
# The life of a session's holder

A client of PagerDuty and the handlers of the PagerDuty and the Slack channel hold one session at a
time. A `Holder` lives through steps: it is used, it is closed, and its session may end from
outside. `Holder.life` records what each step came to, what was seen during it, and the worlds
before and after it.

`Holder.On.keepsOneSession` is the invariant of the sessions of a life, carried from step to step;
`holders_keep_one_session` says so of the holders there are.
-/

namespace AlertRelay

open SessionEvent

variable {γ ρ : Type}

inductive HolderStep (γ : Type) where
  | use (request : γ)
  | close
  /-- Every session ends from outside. -/
  | expire

/-- What holds a session: it is used for requests, and it is closed. -/
structure Holder (γ ρ : Type) where
  use : γ → Program ρ
  close : Program Unit

/-- What a step in the life of a holder came to, what was seen during it, and the worlds before and
after it. Only a use has a value. -/
structure HolderRecord (γ ρ : Type) where
  step : HolderStep γ
  before : World
  result : Except Failure (Option ρ)
  seen : List Entry
  after : World

namespace HolderRecord

def events (r : HolderRecord γ ρ) : List SessionEvent :=
  match r.step with
  | .expire => [.expired]
  | _ => sessionEvents r.seen

def eventsOf (records : List (HolderRecord γ ρ)) : List SessionEvent := records.flatMap events

@[simp] theorem eventsOf_nil : eventsOf ([] : List (HolderRecord γ ρ)) = [] := rfl

@[simp] theorem eventsOf_cons (r : HolderRecord γ ρ) (records : List (HolderRecord γ ρ)) :
    eventsOf (r :: records) = r.events ++ eventsOf records := rfl

@[simp] theorem eventsOf_append (records more : List (HolderRecord γ ρ)) :
    eventsOf (records ++ more) = eventsOf records ++ eventsOf more :=
  List.flatMap_append

end HolderRecord

open HolderRecord

namespace Holder

def perform (h : Holder γ ρ) (w : World) : HolderStep γ → HolderRecord γ ρ
  | .use q => ⟨.use q, w, ((h.use q).run w).1.map some, (h.use q).seen w, ((h.use q).run w).2⟩
  | .close => ⟨.close, w, (h.close.run w).1.map fun _ => none, h.close.seen w, (h.close.run w).2⟩
  | .expire => ⟨.expire, w, .ok none, [], w.expire⟩

/-- The records of the steps of a life. A step that fails is followed by the next one. -/
def life (h : Holder γ ρ) (steps : List (HolderStep γ)) (w : World) : List (HolderRecord γ ρ) :=
  allRecordsOf h.perform HolderRecord.after steps w

variable {h : Holder γ ρ} {w : World} {steps : List (HolderStep γ)}

@[simp] theorem step_perform (h : Holder γ ρ) (w : World) (s : HolderStep γ) :
    (h.perform w s).step = s := by
  cases s <;> rfl

@[simp] theorem before_perform (h : Holder γ ρ) (w : World) (s : HolderStep γ) :
    (h.perform w s).before = w := by
  cases s <;> rfl

theorem network_perform (h : Holder γ ρ) (w : World) (s : HolderStep γ) :
    (h.perform w s).after.network = w.network := by
  cases s with
  | use q => exact Program.network_run _ w
  | close => exact Program.network_run _ w
  | expire => rfl

theorem steps_life (h : Holder γ ρ) (steps : List (HolderStep γ)) (w : World) :
    (h.life steps w).map (·.step) = steps :=
  steps_allRecordsOf h.step_perform steps w

/-! ## One session at a time -/

/-- What a life of a holder promises of its sessions. -/
structure KeepsOneSession (steps : List (HolderStep γ)) (records : List (HolderRecord γ ρ)) :
    Prop where
  /-- Every step is carried out. -/
  complete : records.map (·.step) = steps
  /-- What happened to sessions tells which of them are open. -/
  told : ∀ before r after, records = before ++ r :: after →
    r.before.sessions.live = openAfter (eventsOf before) ∧
      r.after.sessions.live = openAfter (eventsOf (before ++ [r]))
  /-- A session that is opened is a new one, and one that is posted on or closed is open. -/
  orderly : Orderly (eventsOf records)
  /-- At no moment is more than one session open. -/
  atMost : AtMost 1 (eventsOf records)
  /-- A session is opened only when none is open. -/
  opens : ∀ before n after, eventsOf records = before ++ .opened n :: after →
    openAfter before = []
  /-- No session is closed twice, and none is posted on after it was closed. -/
  closesOnce : ∀ before n after, eventsOf records = before ++ .closed n :: after →
    .closed n ∉ before ∧ .closed n ∉ after ∧ .posted n ∉ after
  /-- Closing raises nothing, opens no session and leaves none open. -/
  close : ∀ r ∈ records, r.step = .close →
    r.result = .ok none ∧ (∀ n, .opened n ∉ r.events) ∧ r.after.sessions.live = []
  /-- Closing a second time in a row does nothing. -/
  closeAgain : ∀ before r r' after, records = before ++ r :: r' :: after → r.step = .close →
    r'.step = .close → r'.seen = [] ∧ r'.after = r'.before
  /-- After a closing, or after the sessions ended from outside, posts go out on a new session. -/
  fresh : ∀ before r r' after, records = before ++ r :: r' :: after →
    r.step = .close ∨ r.step = .expire → ∀ n, .posted n ∈ r'.events →
    .opened n ∈ r'.events ∧ .opened n ∉ eventsOf (before ++ [r])

/-- A holder whose uses post on the sessions of a slot, and whose closing releases it. -/
structure On (h : Holder γ ρ) (slot : Nat) : Prop where
  use : ∀ q past start, (h.use q).Respects (World.Follows 1 [slot] past start)
  close : h.close = Program.release slot

/-- The sessions of a world are what events made of them, and at most one was open at once. -/
def Sound (slots : List Nat) (events : List SessionEvent) (w : World) : Prop :=
  w.sessions.Follow slots events ∧ AtMost 1 events

variable {slot : Nat} {slots : List Nat} {past events : List SessionEvent}

theorem Sound.follows (hw : Sound slots past w) : w.Follows 1 slots past w.trace :=
  ⟨[], by simp, by simpa using hw.1, by simpa using hw.2⟩

/-- In a world in which nothing has happened yet no session is open. -/
theorem sound_fresh (slot : Nat) (n : Network) : Sound [slot] [] { network := n } :=
  ⟨Sessions.Follow.nil [slot], AtMost.nil⟩

/-- A run that makes of the sessions what it shows leaves them sound. -/
theorem Sound.of_run {α : Type} {p : Program α}
    (hrun : (p.run w).2.Follows 1 slots past w.trace) :
    Sound slots (past ++ sessionEvents (p.seen w)) (p.run w).2 := by
  obtain ⟨es, hes, hfollow, hmost⟩ := hrun
  rw [p.trace_run w] at hes
  obtain rfl := List.append_cancel_left hes
  exact ⟨hfollow, hmost⟩

/-- Closing leaves no session that a slot could hold. -/
theorem On.sound_close (hon : h.On slot) (hw : Sound [slot] past w) :
    Sound [] (past ++ (h.perform w .close).events) (h.perform w .close).after := by
  refine Sound.of_run (p := h.close) ?_
  rw [hon.close]
  exact hw.follows.release (Nat.zero_le 1)

/-- So do the ends of sessions from outside. -/
theorem sound_expire (hw : Sound [slot] past w) :
    Sound [] (past ++ (h.perform w .expire).events) (h.perform w .expire).after := by
  have hfollow := hw.1.expire []
  exact ⟨hfollow, hw.2.concat (Nat.le_succ_of_le hfollow.length_open_le)⟩

/-- Every step leaves the sessions sound. -/
theorem On.sound_perform (hon : h.On slot) (hw : Sound [slot] past w) (s : HolderStep γ) :
    Sound [slot] (past ++ (h.perform w s).events) (h.perform w s).after := by
  cases s with
  | use q => exact Sound.of_run (p := h.use q) (hon.use q _ _ w hw.follows).run
  | close =>
    obtain ⟨hfollow, hmost⟩ := hon.sound_close hw
    exact ⟨hfollow.mono (List.nil_subset _), hmost⟩
  | expire =>
    obtain ⟨hfollow, hmost⟩ := sound_expire (h := h) hw
    exact ⟨hfollow.mono (List.nil_subset _), hmost⟩

/-- Every step leaves of the sessions what the records so far tell. -/
theorem On.sound_records (hon : h.On slot) (before : List (HolderRecord γ ρ)) (w : World)
    (s : HolderStep γ) (hw : Sound [slot] (eventsOf before) w) :
    Sound [slot] (eventsOf (before ++ [h.perform w s])) (h.perform w s).after := by
  simpa using hon.sound_perform hw s

/-! ### Closing -/

/-- Closing comes to nothing but the release of the slot. -/
theorem On.perform_close (hon : h.On slot) (w : World) :
    h.perform w .close =
      ⟨.close, w, .ok none, w.shown (.release slot), (w.perform (.release slot)).2⟩ := by
  have hrun : h.close.run w = (.ok (), (w.perform (.release slot)).2) := by
    rw [hon.close]
    rfl
  have hseen : h.close.seen w = w.shown (.release slot) := by
    rw [hon.close]
    exact Program.seen_effect (.release slot) w
  rw [perform, hrun, hseen]
  rfl

theorem On.not_opened_close (hon : h.On slot) (w : World) (n : Nat) :
    .opened n ∉ (h.perform w .close).events := by
  rw [hon.perform_close]
  cases hcurrent : w.sessions.current? slot <;>
    simp [HolderRecord.events, World.shown, hcurrent, sessionEvents, Entry.session?]

/-- Closing does nothing when no session is open. -/
theorem On.perform_close_of_none_open (hon : h.On slot) (hnone : w.sessions.live = []) :
    (h.perform w .close).seen = [] ∧ (h.perform w .close).after = w := by
  have hcurrent : w.sessions.current? slot = none := by simp [Sessions.current?, hnone]
  rw [hon.perform_close]
  exact ⟨by simp only [World.shown, hcurrent], by simp only [World.perform, hcurrent]⟩

/-! ### Every life -/

section Life

variable {n : Network} {before after : List (HolderRecord γ ρ)} {r r' : HolderRecord γ ρ}

/-- The sessions before and after a step of a life. -/
theorem On.around (hon : h.On slot) (hr : h.life steps { network := n } = before ++ r :: after) :
    Sound [slot] (eventsOf before) r.before ∧ r = h.perform r.before r.step ∧
      Sound [slot] (eventsOf (before ++ [r])) r.after := by
  obtain ⟨w, s, hw, rfl⟩ := around_allRecordsOf
    (I := fun records w => Sound [slot] (eventsOf records) w) hon.sound_records []
    (sound_fresh slot n) hr
  rw [List.nil_append] at hw
  rw [before_perform, step_perform]
  exact ⟨hw, rfl, hon.sound_records before w s hw⟩

/-- After a closing, or after the sessions ended from outside, none is open. -/
theorem On.none_open_after (hon : h.On slot)
    (hr : h.life steps { network := n } = before ++ r :: after)
    (hend : r.step = .close ∨ r.step = .expire) :
    r.after.sessions.live = [] ∧ openAfter (eventsOf (before ++ [r])) = [] := by
  obtain ⟨hbefore, hperform, hafter⟩ := hon.around hr
  have hlive : r.after.sessions.live = [] := by
    rw [hperform]
    rcases hend with hend | hend
    · rw [hend]
      exact (hon.sound_close hbefore).1.live_eq_nil
    · rw [hend]
      rfl
  exact ⟨hlive, hafter.1.live.symm.trans hlive⟩

/-- A life of a holder opens, uses and closes its sessions in order. -/
theorem On.orderly_life (hon : h.On slot) (steps : List (HolderStep γ)) (n : Network) :
    Orderly (eventsOf (h.life steps { network := n })) ∧
      AtMost 1 (eventsOf (h.life steps { network := n })) := by
  obtain ⟨_, hfollow, hmost⟩ := end_allRecordsOf
    (I := fun records w => Sound [slot] (eventsOf records) w) hon.sound_records []
    (sound_fresh slot n) steps
  exact ⟨hfollow.orderly, hmost⟩

/-- Closing a second time in a row does nothing. -/
theorem On.close_again (hon : h.On slot)
    (hr : h.life steps { network := n } = before ++ r :: r' :: after) (hclose : r.step = .close)
    (hclose' : r'.step = .close) : r'.seen = [] ∧ r'.after = r'.before := by
  have hr' : h.life steps { network := n } = (before ++ [r]) ++ r' :: after := by simp [hr]
  obtain ⟨hbefore, hperform, -⟩ := hon.around hr'
  have hlive : r'.before.sessions.live = [] :=
    hbefore.1.live.trans (hon.none_open_after hr (.inl hclose)).2
  have hnothing := hon.perform_close_of_none_open hlive
  rw [hclose'] at hperform
  rw [← hperform] at hnothing
  exact hnothing

/-- After a closing, or after the sessions ended from outside, posts go out on a new session. -/
theorem On.new_after_end (hon : h.On slot)
    (hr : h.life steps { network := n } = before ++ r :: r' :: after)
    (hend : r.step = .close ∨ r.step = .expire) {m : Nat} (hposted : .posted m ∈ r'.events) :
    .opened m ∈ r'.events ∧ .opened m ∉ eventsOf (before ++ [r]) := by
  have horderly : Orderly (eventsOf (before ++ [r]) ++ r'.events ++ eventsOf after) := by
    have hall := (hon.orderly_life steps n).1
    rw [hr] at hall
    simpa using hall
  exact Orderly.new_of_posted horderly.left (hon.none_open_after hr hend).2 hposted

/-- **A holder keeps one session at a time**, whatever its steps are and whatever they meet. -/
theorem On.keepsOneSession (hon : h.On slot) (steps : List (HolderStep γ)) (n : Network) :
    KeepsOneSession steps (h.life steps { network := n }) where
  complete := h.steps_life steps _
  told before r after hr := by
    obtain ⟨hbefore, -, hafter⟩ := hon.around hr
    exact ⟨hbefore.1.live, hafter.1.live⟩
  orderly := (hon.orderly_life steps n).1
  atMost := (hon.orderly_life steps n).2
  opens before m after hm := by
    have hmost := (hon.orderly_life steps n).2
    rw [hm] at hmost
    exact hmost.none_open
  closesOnce before m after hm := by
    have horderly := (hon.orderly_life steps n).1
    rw [hm] at horderly
    obtain ⟨-, hbefore, hclosed, hposted, -⟩ := horderly.after_close
    exact ⟨hbefore, hclosed, hposted⟩
  close r hr hclose := by
    obtain ⟨before, after, hsplit⟩ := List.append_of_mem hr
    have hperform := (hon.around hsplit).2.1
    rw [hclose] at hperform
    refine ⟨?_, ?_, (hon.none_open_after hsplit (.inl hclose)).1⟩
    · rw [hperform, hon.perform_close]
    · rw [hperform]
      exact hon.not_opened_close _
  closeAgain before r r' after hr hclose hclose' := hon.close_again hr hclose hclose'
  fresh before r r' after hr hend m hposted := hon.new_after_end hr hend hposted

end Life

end Holder

end AlertRelay
