import AlertRelay.Config.Check

/-!
# Entries by name

`Config.enterName` sets the value of a name among entries that have each name once. After many
settings the entries are the last setting of each name (`mem_enterAll_iff`).
-/

namespace AlertRelay.Config

variable {ν α : Type} [DecidableEq ν] {entries settings : List (ν × α)} {e : ν × α}

/-! ## One setting -/

theorem mem_enterName {name : ν} {a : α} (he : e ∈ enterName entries name a) :
    e = (name, a) ∨ e ∈ entries := by
  induction entries with
  | nil => exact .inl (List.mem_singleton.mp he)
  | cons entry rest ih =>
    obtain ⟨n, b⟩ := entry
    rw [enterName] at he
    split at he
    · next hn =>
      subst hn
      exact (List.mem_cons.mp he).imp_right (List.mem_cons_of_mem _)
    · rcases List.mem_cons.mp he with rfl | he
      · exact .inr List.mem_cons_self
      · exact (ih he).imp_right (List.mem_cons_of_mem _)

/-- No name is repeated after a setting. -/
theorem nodup_enterName (h : (entries.map (·.1)).Nodup) (name : ν) (a : α) :
    ((enterName entries name a).map (·.1)).Nodup := by
  induction entries with
  | nil => simp [enterName]
  | cons entry rest ih =>
    obtain ⟨n, b⟩ := entry
    obtain ⟨hfresh, hrest⟩ := List.nodup_cons.mp h
    rw [enterName]
    split
    · exact h
    · next hn =>
      refine List.nodup_cons.mpr ⟨fun hmem => ?_, ih hrest⟩
      obtain ⟨e, he, rfl⟩ := List.mem_map.mp hmem
      rcases mem_enterName he with rfl | he
      · exact hn rfl
      · exact hfresh (List.mem_map.mpr ⟨e, he, rfl⟩)

/-- A name that is not among the entries is entered after them. -/
theorem enterName_of_fresh {name : ν} (h : name ∉ entries.map (·.1)) (a : α) :
    enterName entries name a = entries ++ [(name, a)] := by
  induction entries with
  | nil => rfl
  | cons entry rest ih =>
    rw [List.map_cons, List.mem_cons, not_or] at h
    obtain ⟨hne, hrest⟩ := h
    rw [enterName, if_neg (Ne.symm hne), ih hrest]
    rfl

/-- A setting replaces the entry of its name and leaves the others. -/
theorem mem_enterName_iff (h : (entries.map (·.1)).Nodup) (name : ν) (a : α) :
    e ∈ enterName entries name a ↔ e = (name, a) ∨ (e.1 ≠ name ∧ e ∈ entries) := by
  induction entries with
  | nil => simp [enterName]
  | cons entry rest ih =>
    obtain ⟨n, b⟩ := entry
    obtain ⟨hfresh, hrest⟩ := List.nodup_cons.mp h
    rw [enterName]
    split
    · next hn =>
      subst hn
      -- The others have other names, since no name is repeated.
      have hother : e ∈ rest → e.1 ≠ n := fun he hn =>
        hfresh (List.mem_map.mpr ⟨e, he, hn⟩)
      rw [List.mem_cons, List.mem_cons]
      constructor
      · rintro (rfl | he)
        · exact .inl rfl
        · exact .inr ⟨hother he, .inr he⟩
      · rintro (rfl | ⟨hne, rfl | he⟩)
        · exact .inl rfl
        · exact absurd rfl hne
        · exact .inr he
    · next hn =>
      rw [List.mem_cons, List.mem_cons, ih hrest]
      constructor
      · rintro (rfl | rfl | ⟨hne, he⟩)
        · exact .inr ⟨hn, .inl rfl⟩
        · exact .inl rfl
        · exact .inr ⟨hne, .inr he⟩
      · rintro (rfl | ⟨hne, rfl | he⟩)
        · exact .inr (.inl rfl)
        · exact .inl rfl
        · exact .inr (.inr ⟨hne, he⟩)

/-! ## Many settings -/

/-- Sets names one after another. -/
def enterAll (entries settings : List (ν × α)) : List (ν × α) :=
  settings.foldl (fun entries s => enterName entries s.1 s.2) entries

/-- Whether a setting is made, and its name is not set again. -/
def LastOf (settings : List (ν × α)) (e : ν × α) : Prop :=
  ∃ before after, settings = before ++ e :: after ∧ e.1 ∉ after.map (·.1)

section LastOf

omit [DecidableEq ν]

/-- The last setting of a name is the first one only if the name is not set again. -/
theorem lastOf_cons {s : ν × α} :
    LastOf (s :: settings) e ↔ (e = s ∧ e.1 ∉ settings.map (·.1)) ∨ LastOf settings e := by
  constructor
  · rintro ⟨before, after, heq, hafter⟩
    rcases List.cons_eq_append_iff.mp heq with ⟨rfl, heq⟩ | ⟨before, rfl, rfl⟩
    · obtain ⟨rfl, rfl⟩ := List.cons.inj heq
      exact .inl ⟨rfl, hafter⟩
    · exact .inr ⟨before, after, rfl, hafter⟩
  · rintro (⟨rfl, hafter⟩ | ⟨before, after, rfl, hafter⟩)
    · exact ⟨[], settings, rfl, hafter⟩
    · exact ⟨s :: before, after, rfl, hafter⟩

theorem LastOf.mem (h : LastOf settings e) : e ∈ settings := by
  obtain ⟨before, after, rfl, -⟩ := h
  exact List.mem_append_right before List.mem_cons_self

/-- A name that is set has a last setting. -/
theorem exists_lastOf {name : ν} (h : name ∈ settings.map (·.1)) :
    ∃ e, LastOf settings e ∧ e.1 = name := by
  induction settings with
  | nil => cases h
  | cons s settings ih =>
    by_cases hlater : name ∈ settings.map (·.1)
    · obtain ⟨e, he, hname⟩ := ih hlater
      exact ⟨e, lastOf_cons.mpr (.inr he), hname⟩
    · rcases List.mem_cons.mp h with rfl | h
      · exact ⟨s, lastOf_cons.mpr (.inl ⟨rfl, hlater⟩), rfl⟩
      · exact absurd h hlater

/-- Every setting is the last of its name if no name is set twice. -/
theorem lastOf_iff_mem_of_nodup (h : (settings.map (·.1)).Nodup) :
    LastOf settings e ↔ e ∈ settings := by
  refine ⟨LastOf.mem, fun he => ?_⟩
  obtain ⟨before, after, rfl⟩ := List.append_of_mem he
  rw [List.map_append, List.map_cons] at h
  have hafter := (List.nodup_cons.mp (List.nodup_append.mp h).2.1).1
  exact ⟨before, after, rfl, hafter⟩

/-- What is made of the values of settings leaves the last of each name the last. -/
theorem lastOf_map_iff {β : Type} {f : α → β} {r : ν × β} :
    LastOf (settings.map fun s => (s.1, f s.2)) r ↔
      ∃ e, LastOf settings e ∧ r = (e.1, f e.2) := by
  induction settings with
  | nil => simp [LastOf]
  | cons s settings ih =>
    have hnames : (settings.map fun s => (s.1, f s.2)).map (·.1) = settings.map (·.1) := by simp
    rw [List.map_cons, lastOf_cons, hnames]
    constructor
    · rintro (⟨rfl, hafter⟩ | hr)
      · exact ⟨s, lastOf_cons.mpr (.inl ⟨rfl, hafter⟩), rfl⟩
      · obtain ⟨e, he, rfl⟩ := ih.mp hr
        exact ⟨e, lastOf_cons.mpr (.inr he), rfl⟩
    · rintro ⟨e, he, rfl⟩
      rcases lastOf_cons.mp he with ⟨rfl, hafter⟩ | he
      · exact .inl ⟨rfl, hafter⟩
      · exact .inr (ih.mpr ⟨e, he, rfl⟩)

end LastOf

/-- What stands in the entries afterwards is the last setting of its name, or was there and is not
set. -/
theorem mem_enterAll_iff_of_nodup (h : (entries.map (·.1)).Nodup) :
    e ∈ enterAll entries settings ↔
      LastOf settings e ∨ (e.1 ∉ settings.map (·.1) ∧ e ∈ entries) := by
  induction settings generalizing entries with
  | nil => simp [enterAll, LastOf]
  | cons s settings ih =>
    -- The first setting counts exactly if its name is not set again.
    have hstep : enterAll entries (s :: settings) =
        enterAll (enterName entries s.1 s.2) settings := rfl
    rw [hstep, ih (nodup_enterName h s.1 s.2), mem_enterName_iff h, lastOf_cons, List.map_cons,
      List.mem_cons]
    constructor
    · rintro (hlast | ⟨hafter, rfl | ⟨hne, he⟩⟩)
      · exact .inl (.inr hlast)
      · exact .inl (.inl ⟨rfl, hafter⟩)
      · exact .inr ⟨not_or.mpr ⟨hne, hafter⟩, he⟩
    · rintro ((⟨rfl, hafter⟩ | hlast) | ⟨hno, he⟩)
      · exact .inr ⟨hafter, .inl rfl⟩
      · exact .inl hlast
      · obtain ⟨hne, hafter⟩ := not_or.mp hno
        exact .inr ⟨hafter, .inr ⟨hne, he⟩⟩

/-- What is entered is the last setting of each name. -/
theorem mem_enterAll_iff : e ∈ enterAll [] settings ↔ LastOf settings e := by
  have hnodup : (([] : List (ν × α)).map (·.1)).Nodup := List.nodup_nil
  rw [mem_enterAll_iff_of_nodup hnodup]
  simp

end AlertRelay.Config
