import AlertRelay.Log.Setup
import AlertRelay.Proofs.Lives
import AlertRelay.Proofs.Text.Strings

/-!
# Setting up the log again and again

However often the log is set up, and whatever the texts are that name its level and its format, it
has one writer afterwards, that of the last setting up (`life_keepsOneWriter`). Its level is the one
that the text names in any case, or that of information if it names none.

Two names stand for something else than a level (`otherNames`). Texts that are one of them in
capital letters are the only ones for which setting up the log fails: the writer is a new one even
so, but the level is not that of information, as it is for any other text that names no level
(`setUp_fails_without_level`).
-/

namespace AlertRelay.Log

open Text

variable {t : Text} {name kind : String} {n : Nat}

/-! ## The level that a text names -/

/-- The names that stand for something else than a level, each with the kind of fault that comes of
it. -/
def otherNames : List (String × String) :=
  [("BASIC_FORMAT", "ValueError"), ("_STYLES", "TypeError")]

/-- Whether a text is one of these names in capital letters. -/
def NamesOther (t : Text) : Prop := ∃ entry ∈ otherNames, asciiUpper? t = some entry.1

theorem separate_of_mem_levels : ∀ entry ∈ levels, Separate entry.1.toList := by
  decide

theorem lookup_of_mem_levels : ∀ entry ∈ levels, levels.lookup entry.1 = some entry.2 := by
  decide

/-- A text in capital letters is the name of a level if it spells it. -/
theorem asciiUpper?_eq_some_iff_of_mem (h : (name, n) ∈ levels) :
    asciiUpper? t = some name ↔ Spells t name :=
  asciiUpper?_eq_some_iff (separate_of_mem_levels _ h)

/-- A name of a level is understood in any case. -/
theorem levelOf_of_spells (h : (name, n) ∈ levels) (ht : Spells t name) : levelOf t = .ok n := by
  have hupper : asciiUpper? t = some name := (asciiUpper?_eq_some_iff_of_mem h).mpr ht
  have hlevel : levels.lookup name = some n := lookup_of_mem_levels _ h
  rw [levelOf, hupper]
  simp only [hlevel]

example : levelOf "Warn" = .ok 30 := by decide

example : levelOf "cr\u0131t\u0131cal" = .ok 50 := by decide

/-- A text that spells no level is not the name of one in capital letters either. -/
theorem lookup_eq_none (h : ∀ entry ∈ levels, ¬ Spells t entry.1)
    (hupper : asciiUpper? t = some name) : levels.lookup name = none := by
  rw [List.lookup_eq_none_iff]
  intro entry hentry
  rw [bne_iff_ne]
  rintro rfl
  exact h entry hentry ((asciiUpper?_eq_some_iff_of_mem hentry).mp hupper)

/-- A text that names nothing stands for the level of information. -/
theorem levelOf_of_no_level (h : ∀ entry ∈ levels, ¬ Spells t entry.1) (hother : ¬ NamesOther t) :
    levelOf t = .ok infoLevel := by
  cases hupper : asciiUpper? t with
  | none => rw [levelOf, hupper]
  | some name =>
    have hbasic : name ≠ "BASIC_FORMAT" := by
      rintro rfl
      exact hother ⟨("BASIC_FORMAT", "ValueError"), by decide, hupper⟩
    have hstyles : name ≠ "_STYLES" := by
      rintro rfl
      exact hother ⟨("_STYLES", "TypeError"), by decide, hupper⟩
    rw [levelOf, hupper]
    simp only [lookup_eq_none h hupper, if_neg hbasic, if_neg hstyles]

/-- A text that names something else in the library of the log is no level and fails. -/
theorem levelOf_of_otherName (h : (name, kind) ∈ otherNames) (hupper : asciiUpper? t = some name) :
    ∃ text, levelOf t = .error ⟨kind, text⟩ := by
  simp only [otherNames, List.mem_cons, Prod.mk.injEq, List.not_mem_nil, or_false] at h
  rw [levelOf, hupper]
  rcases h with ⟨rfl, rfl⟩ | ⟨rfl, rfl⟩
  · exact ⟨_, rfl⟩
  · exact ⟨_, rfl⟩

/-! ## One setting up after another -/

/-- A way to set up the log: the settings, and the texts that override those of the settings. -/
structure SetUp where
  settings : LoggingConfig
  level : Option Text
  format : Option Text

namespace SetUp

def levelText (s : SetUp) : Text := override s.level s.settings.level

def formatText (s : SetUp) : Text := override s.format s.settings.format

end SetUp

structure SetUpRecord where
  step : SetUp
  before : Root
  result : Except Fault Unit
  after : Root

namespace Root

def perform (root : Root) (s : SetUp) : SetUpRecord :=
  ⟨s, root, (root.setUp s.settings s.level s.format).1,
    (root.setUp s.settings s.level s.format).2⟩

/-- The records of setting up the log in several ways, one after another, whatever each comes to. -/
def life (root : Root) (steps : List SetUp) : List SetUpRecord :=
  allRecordsOf perform SetUpRecord.after steps root

variable {root c : Root} {steps : List SetUp} {s : SetUp} {before : List SetUpRecord}
  {r : SetUpRecord}

theorem perform_of_ok (h : levelOf s.levelText = .ok n) (root : Root) :
    root.perform s =
      ⟨s, root, .ok (), ⟨[⟨Format.ofName s.formatText, root.setUps⟩], n, root.setUps + 1⟩⟩ := by
  unfold SetUp.levelText at h
  simp only [perform, setUp, h, SetUp.formatText]

/-- A text that is no level fails after the writers were replaced. -/
theorem perform_of_error {f : Fault} (h : levelOf s.levelText = .error f) (root : Root) :
    root.perform s =
      ⟨s, root, .error f,
        ⟨[⟨Format.ofName s.formatText, root.setUps⟩], root.level, root.setUps + 1⟩⟩ := by
  unfold SetUp.levelText at h
  simp only [perform, setUp, h, SetUp.formatText]

/-- The writers are replaced and counted, be the level found or not. -/
theorem writers_perform (root : Root) (s : SetUp) :
    (root.perform s).after.writers = [⟨Format.ofName s.formatText, root.setUps⟩] ∧
      (root.perform s).after.setUps = root.setUps + 1 := by
  cases h : levelOf s.levelText with
  | ok n =>
    rw [perform_of_ok h]
    exact ⟨rfl, rfl⟩
  | error f =>
    rw [perform_of_error h]
    exact ⟨rfl, rfl⟩

/-! ## Every life -/

/-- The log as the settings up so far left it. -/
structure LeftBy (root : Root) (before : List SetUpRecord) (c : Root) : Prop where
  last : c = before.getLast?.elim root SetUpRecord.after
  setUps : c.setUps = root.setUps + before.length

/-- Setting up the log once more keeps up what is told of it. -/
theorem LeftBy.perform (h : LeftBy root before c) (s : SetUp) :
    LeftBy root (before ++ [c.perform s]) (c.perform s).after where
  last := by
    rw [List.getLast?_concat]
    rfl
  setUps := by
    rw [(writers_perform c s).2, h.setUps, List.length_append, List.length_singleton, Nat.add_assoc]

/-- Every setting up begins with what those before it left. -/
theorem leftBy_life {after : List SetUpRecord} (hr : life root steps = before ++ r :: after) :
    LeftBy root before r.before ∧ r = r.before.perform r.step := by
  have hroot : LeftBy root [] root := ⟨rfl, rfl⟩
  obtain ⟨c, s, hc, rfl⟩ := around_allRecordsOf (I := LeftBy root)
    (fun _ _ s h => h.perform s) [] hroot hr
  exact ⟨hc, rfl⟩

theorem eq_perform_of_mem (hr : r ∈ life root steps) : r = r.before.perform r.step := by
  obtain ⟨before, after, hlife⟩ := List.append_of_mem hr
  exact (leftBy_life hlife).2

/-- What a life promises of the writers and of the level of the log. -/
structure KeepsOneWriter (root : Root) (steps : List SetUp) (records : List SetUpRecord) :
    Prop where
  /-- The log is set up in every way. -/
  complete : records.map (·.step) = steps
  /-- Each time it is as the time before left it. -/
  chained : ∀ before r after, records = before ++ r :: after →
    r.before = before.getLast?.elim root SetUpRecord.after
  /-- Afterwards it has one writer, which it has since then. -/
  writer : ∀ before r after, records = before ++ r :: after →
    r.after.writers = [⟨Format.ofName r.step.formatText, root.setUps + before.length⟩]
  /-- The level is the one that the text names. -/
  named : ∀ r ∈ records, ∀ name n, (name, n) ∈ levels → Spells r.step.levelText name →
    r.result = .ok () ∧ r.after.level = n
  /-- It is that of information if the text names neither a level nor anything else. -/
  unnamed : ∀ r ∈ records, (∀ entry ∈ levels, ¬ Spells r.step.levelText entry.1) →
    ¬ NamesOther r.step.levelText → r.result = .ok () ∧ r.after.level = infoLevel
  /-- Otherwise setting up the log fails, and the level stays what it was. -/
  refused : ∀ r ∈ records, ∀ name kind, (name, kind) ∈ otherNames →
    asciiUpper? r.step.levelText = some name →
    (∃ text, r.result = .error ⟨kind, text⟩) ∧ r.after.level = r.before.level

/-- **However the log is set up, it has one writer.** Each time a new writer takes the place of all
that were there. The level becomes the one that the text names in any case, and that of information
if it names none, unless the text names something else: then, and only then, setting up the log
fails and the level stays what it was. -/
theorem life_keepsOneWriter (root : Root) (steps : List SetUp) :
    KeepsOneWriter root steps (life root steps) where
  complete := steps_allRecordsOf (fun _ _ => rfl) steps root
  chained before r after hr := (leftBy_life hr).1.last
  writer before r after hr := by
    obtain ⟨hleft, hperform⟩ := leftBy_life hr
    have hwriters := (writers_perform r.before r.step).1
    rw [hleft.setUps] at hwriters
    rw [hperform]
    exact hwriters
  named r hr name n hname hspells := by
    have hlevel : levelOf r.step.levelText = .ok n := levelOf_of_spells hname hspells
    rw [eq_perform_of_mem hr, perform_of_ok hlevel]
    exact ⟨rfl, rfl⟩
  unnamed r hr hunnamed hother := by
    have hlevel : levelOf r.step.levelText = .ok infoLevel := levelOf_of_no_level hunnamed hother
    rw [eq_perform_of_mem hr, perform_of_ok hlevel]
    exact ⟨rfl, rfl⟩
  refused r hr name kind hname hupper := by
    obtain ⟨text, hlevel⟩ := levelOf_of_otherName hname hupper
    rw [eq_perform_of_mem hr, perform_of_error hlevel]
    exact ⟨⟨text, rfl⟩, rfl⟩

/-- A text that names no level does not always stand for the level of information. -/
theorem setUp_fails_without_level :
    ¬ ∀ (root : Root) (s : SetUp), (∀ entry ∈ levels, ¬ Spells s.levelText entry.1) →
      (root.perform s).result = .ok () ∧ (root.perform s).after.level = infoLevel := by
  intro h
  let s : SetUp := ⟨{}, some "basic_format", none⟩
  have hupper : asciiUpper? s.levelText = some "BASIC_FORMAT" := by decide
  have hlevels : ∀ entry ∈ levels, ¬ Spells s.levelText entry.1 := by
    intro entry hentry hspells
    have hname : asciiUpper? s.levelText = some entry.1 :=
      (asciiUpper?_eq_some_iff_of_mem hentry).mpr hspells
    rw [hupper] at hname
    have hmem : ∃ n, ("BASIC_FORMAT", n) ∈ levels := ⟨entry.2, Option.some.inj hname ▸ hentry⟩
    simp [levels] at hmem
  have hother : ("BASIC_FORMAT", "ValueError") ∈ otherNames := by decide
  obtain ⟨text, hlevel⟩ := levelOf_of_otherName hother hupper
  have hresult := (h {} s hlevels).1
  rw [perform_of_error hlevel] at hresult
  cases hresult

end Root

end AlertRelay.Log
