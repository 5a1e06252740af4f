import AlertRelay.Config.Load
import AlertRelay.Proofs.Lives
import Mathlib.Data.List.Induction

/-!
# The life of the kept settings

Settings are loaded, got and reset in any order. `Cache.life` records what each of these steps came
to; `latest` tells from the records alone what the last load since the last reset came to, if one
succeeded. `life_keepsLatest` says that this is what getting the settings returns, without looking
at any file, and that a step that fails leaves everything as it was.
-/

namespace AlertRelay.Config

inductive CacheStep where
  | load (path : Option String)
  | get
  | reset

/-- What a step came to, and what was kept before and after it. A reset has no settings. -/
structure CacheRecord where
  step : CacheStep
  before : Cache
  result : Except LoadError (Option Loaded)
  after : Cache

namespace CacheRecord

/-- The settings that a step came to. -/
def loaded? (r : CacheRecord) : Option Loaded := r.result.toOption.join

/-- What counts as loaded last after a step: a load that succeeds replaces what did before, and
getting the settings loads some only if there are none. -/
def latestAfter (latest : Option Loaded) (r : CacheRecord) : Option Loaded :=
  match r.step with
  | .load _ => r.loaded? <|> latest
  | .get => latest <|> r.loaded?
  | .reset => none

/-- The settings of the last load that succeeded since the last reset. -/
def latest (records : List CacheRecord) : Option Loaded := records.foldl latestAfter none

@[simp] theorem latest_concat (records : List CacheRecord) (r : CacheRecord) :
    latest (records ++ [r]) = latestAfter (latest records) r := by
  rw [latest, List.foldl_append]
  rfl

/-- A step is a load of a file: it fails and changes nothing, or its settings are kept, under a
number that no settings had before. -/
inductive Loads (files : Files) (path : Option String) (before : List CacheRecord)
    (r : CacheRecord) : Prop where
  | failed (e : LoadError) (hload : loadSettings files path = .error e)
    (hresult : r.result = .error e) (hafter : r.after = r.before)
  | succeeded (loaded : Loaded) (hload : loadSettings files path = .ok loaded.settings)
    (hresult : r.result = .ok (some loaded)) (hafter : r.after.kept = some loaded)
    (hnew : ∀ r' ∈ before, ∀ earlier, r'.loaded? = some earlier → earlier.number ≠ loaded.number)

end CacheRecord

open CacheRecord

namespace Cache

def perform (files : Files) (c : Cache) : CacheStep → CacheRecord
  | .load path => ⟨.load path, c, (c.load files path).1.map some, (c.load files path).2⟩
  | .get => ⟨.get, c, (c.get files).1.map some, (c.get files).2⟩
  | .reset => ⟨.reset, c, .ok none, c.reset⟩

/-- The records of steps that are carried out one after another, whatever each comes to. -/
def life (files : Files) (steps : List CacheStep) (c : Cache) : List CacheRecord :=
  allRecordsOf (perform files) CacheRecord.after steps c

/-- What a life promises of the settings that are kept. -/
structure KeepsLatest (files : Files) (steps : List CacheStep) (records : List CacheRecord) :
    Prop where
  /-- Every step is carried out. -/
  complete : records.map (·.step) = steps
  /-- If a load succeeded since the last reset, getting the settings returns those of the last one,
  whatever the files hold by then. -/
  got : ∀ before r after loaded, records = before ++ r :: after → r.step = .get →
    latest before = some loaded →
    r.result = .ok (some loaded) ∧ ∀ files', r.before.get files' = (.ok loaded, r.before)
  /-- Otherwise it loads the default file. -/
  gotNone : ∀ before r after, records = before ++ r :: after → r.step = .get →
    latest before = none → Loads files none before r
  /-- A load is one whatever is kept. -/
  loaded : ∀ before r after path, records = before ++ r :: after → r.step = .load path →
    Loads files path before r
  /-- A step that fails leaves the cache as it was, and so what is got next. -/
  failed : ∀ before r after e, records = before ++ r :: after → r.result = .error e →
    r.after = r.before ∧ latest (before ++ [r]) = latest before

variable {files : Files} {path : Option String} {c c' : Cache} {x : Except LoadError Loaded}
  {before : List CacheRecord}

/-! ## Steps -/

/-- A load that fails leaves what is kept as it is. -/
theorem load_of_error {e : LoadError} (h : loadSettings files path = .error e) (c : Cache) :
    c.load files path = (.error e, c) := by
  simp only [load, h]

/-- A load that succeeds keeps the settings under the number of the load. -/
theorem load_of_ok {settings : Settings} (h : loadSettings files path = .ok settings) (c : Cache) :
    c.load files path =
      (.ok ⟨c.loads, settings⟩, ⟨some ⟨c.loads, settings⟩, c.loads + 1⟩) := by
  simp only [load, h]

/-- What a load can do. -/
theorem load_cases (h : c.load files path = (x, c')) :
    (∃ e, loadSettings files path = .error e ∧ x = .error e ∧ c' = c) ∨
      ∃ settings, loadSettings files path = .ok settings ∧ x = .ok ⟨c.loads, settings⟩ ∧
        c' = ⟨some ⟨c.loads, settings⟩, c.loads + 1⟩ := by
  cases hsettings : loadSettings files path with
  | error e =>
    obtain ⟨rfl, rfl⟩ := Prod.mk.inj ((load_of_error hsettings c).symm.trans h)
    exact .inl ⟨e, rfl, rfl, rfl⟩
  | ok settings =>
    obtain ⟨rfl, rfl⟩ := Prod.mk.inj ((load_of_ok hsettings c).symm.trans h)
    exact .inr ⟨settings, rfl, rfl, rfl⟩

theorem get_of_some {loaded : Loaded} (h : c.kept = some loaded) (files : Files) :
    c.get files = (.ok loaded, c) := by
  rw [get, h]

theorem get_of_none (h : c.kept = none) (files : Files) : c.get files = c.load files none := by
  rw [get, h]

@[simp] theorem step_perform (files : Files) (c : Cache) (s : CacheStep) :
    (c.perform files s).step = s := by
  cases s <;> rfl

@[simp] theorem before_perform (files : Files) (c : Cache) (s : CacheStep) :
    (c.perform files s).before = c := by
  cases s <;> rfl

/-- Loading is a step that comes to what the load comes to. -/
theorem perform_load (hload : c.load files path = (x, c')) :
    c.perform files (.load path) = ⟨.load path, c, x.map some, c'⟩ := by
  rw [perform, hload]

/-- So is getting the settings if none are kept. -/
theorem perform_get_of_none (h : c.kept = none) (hload : c.load files none = (x, c')) :
    c.perform files .get = ⟨.get, c, x.map some, c'⟩ := by
  rw [perform, get_of_none h, hload]

/-- Getting settings that are kept returns them. -/
theorem perform_get_of_some {loaded : Loaded} (h : c.kept = some loaded) (files : Files) :
    c.perform files .get = ⟨.get, c, .ok (some loaded), c⟩ := by
  rw [perform, get_of_some h]
  rfl

/-! ## What is kept -/

/-- What is kept is what was loaded last, and all settings so far have numbers below that of the
next load. -/
structure Keeps (before : List CacheRecord) (c : Cache) : Prop where
  kept : c.kept = latest before
  numbers : ∀ r ∈ before, ∀ loaded, r.loaded? = some loaded → loaded.number < c.loads

/-- Nothing was kept to begin with. -/
theorem keeps_nil : Keeps [] {} := ⟨rfl, fun _ hr => nomatch hr⟩

theorem mem_of_latest {records : List CacheRecord} {loaded : Loaded}
    (h : latest records = some loaded) : ∃ r ∈ records, r.loaded? = some loaded := by
  induction records using List.reverseRecOn with
  | nil => cases h
  | append_singleton records r ih =>
    have hcase : r.loaded? = some loaded ∨ latest records = some loaded := by
      rw [latest_concat, latestAfter] at h
      cases hstep : r.step with
      | load path =>
        simp only [hstep, Option.orElse_eq_orElse, Option.orElse_eq_or, Option.or_eq_some_iff] at h
        exact h.imp_right And.right
      | get =>
        simp only [hstep, Option.orElse_eq_orElse, Option.orElse_eq_or, Option.or_eq_some_iff] at h
        exact h.symm.imp_left And.right
      | reset => simp [hstep] at h
    rcases hcase with hr | hlatest
    · exact ⟨r, by simp, hr⟩
    · obtain ⟨r', hr', hloaded⟩ := ih hlatest
      exact ⟨r', List.mem_append_left _ hr', hloaded⟩

namespace Keeps

/-- The number of the kept settings is used up. -/
theorem number_lt (h : Keeps before c) {loaded : Loaded} (hkept : c.kept = some loaded) :
    loaded.number < c.loads := by
  obtain ⟨r, hr, hloaded⟩ := mem_of_latest (h.kept.symm.trans hkept)
  exact h.numbers r hr loaded hloaded

/-- A step that comes to no new settings keeps what it is said to keep. -/
theorem concat (h : Keeps before c) {r : CacheRecord} {c' : Cache}
    (hkept : c'.kept = latestAfter c.kept r) (hloads : c.loads ≤ c'.loads)
    (hnumber : ∀ loaded, r.loaded? = some loaded → loaded.number < c'.loads) :
    Keeps (before ++ [r]) c' where
  kept := by rw [latest_concat, ← h.kept, hkept]
  numbers r' hr' loaded hloaded := by
    rcases List.mem_append.mp hr' with hr' | hr'
    · exact Nat.lt_of_lt_of_le (h.numbers r' hr' loaded hloaded) hloads
    · obtain rfl := List.mem_singleton.mp hr'
      exact hnumber loaded hloaded

/-- A load keeps what it comes to, if anything, and it is then the latest. -/
theorem load (h : Keeps before c) (hload : c.load files path = (x, c')) {s : CacheStep}
    (hs : s = .load path ∨ s = .get ∧ c.kept = none) :
    Keeps (before ++ [⟨s, c, x.map some, c'⟩]) c' := by
  -- Getting settings counts as a load here because none were kept.
  have hlatest : latestAfter c.kept ⟨s, c, x.map some, c'⟩ = (x.toOption <|> c.kept) := by
    rcases hs with rfl | ⟨rfl, hnone⟩
    · cases x <;> rfl
    · rw [hnone]
      cases x <;> rfl
  rcases load_cases hload with ⟨e, -, rfl, rfl⟩ | ⟨settings, -, rfl, rfl⟩
  · exact h.concat hlatest.symm (Nat.le_refl _) nofun
  · refine h.concat hlatest.symm (Nat.le_succ _) ?_
    rintro _ ⟨⟩
    exact Nat.lt_succ_self _

/-- Every step keeps what is said to be kept. -/
theorem perform (h : Keeps before c) (files : Files) (s : CacheStep) :
    Keeps (before ++ [c.perform files s]) (c.perform files s).after := by
  cases s with
  | load path =>
    rcases hload : c.load files path with ⟨x, c'⟩
    rw [perform_load hload]
    exact h.load hload (.inl rfl)
  | get =>
    cases hkept : c.kept with
    | none =>
      rcases hload : c.load files none with ⟨x, c'⟩
      rw [perform_get_of_none hkept hload]
      exact h.load hload (.inr ⟨rfl, hkept⟩)
    | some loaded =>
      rw [perform_get_of_some hkept]
      refine h.concat ?_ (Nat.le_refl _) ?_
      · rw [hkept]
        rfl
      · rintro _ ⟨⟩
        exact h.number_lt hkept
  | reset => exact h.concat rfl (Nat.le_refl _) nofun

end Keeps

/-! ## Every life -/

/-- A load comes to settings of its own, or changes nothing. -/
theorem Keeps.loads (h : Keeps before c) (hload : c.load files path = (x, c')) (s : CacheStep) :
    Loads files path before ⟨s, c, x.map some, c'⟩ := by
  rcases load_cases hload with ⟨e, hsettings, rfl, rfl⟩ | ⟨settings, hsettings, rfl, rfl⟩
  · exact .failed e hsettings rfl rfl
  · refine .succeeded ⟨c.loads, settings⟩ hsettings rfl rfl fun r' hr' earlier hearlier => ?_
    exact Nat.ne_of_lt (h.numbers r' hr' earlier hearlier)

theorem eq_of_load_error {e : LoadError} (hload : c.load files path = (x, c'))
    (h : x.map some = .error e) : c' = c := by
  rcases load_cases hload with ⟨_, -, -, rfl⟩ | ⟨_, -, rfl, -⟩
  · rfl
  · cases h

/-- A step that fails leaves the cache as it was. -/
theorem after_perform_of_error {s : CacheStep} {e : LoadError}
    (h : (c.perform files s).result = .error e) : (c.perform files s).after = c := by
  cases s with
  | load path =>
    rcases hload : c.load files path with ⟨x, c'⟩
    rw [perform_load hload] at h ⊢
    exact eq_of_load_error hload h
  | get =>
    cases hkept : c.kept with
    | none =>
      rcases hload : c.load files none with ⟨x, c'⟩
      rw [perform_get_of_none hkept hload] at h ⊢
      exact eq_of_load_error hload h
    | some loaded =>
      rw [perform_get_of_some hkept] at h
      cases h
  | reset => cases h

/-- A step that fails changes nothing about what was loaded last. -/
theorem latestAfter_of_error {r : CacheRecord} {e : LoadError} (hr : r.result = .error e)
    (hreset : r.step ≠ .reset) (latest : Option Loaded) : latestAfter latest r = latest := by
  have hloaded : r.loaded? = none := by
    rw [loaded?, hr]
    rfl
  cases hstep : r.step with
  | load path => simp [latestAfter, hstep, hloaded]
  | get => simp [latestAfter, hstep, hloaded]
  | reset => exact absurd hstep hreset

/-- Every step of a life that begins with nothing keeps what the steps before it kept. -/
theorem keeps_life {steps : List CacheStep} {r : CacheRecord} {after : List CacheRecord}
    (hr : life files steps {} = before ++ r :: after) :
    Keeps before r.before ∧ r = r.before.perform files r.step := by
  obtain ⟨c, s, hc, rfl⟩ := around_allRecordsOf (I := Keeps)
    (fun _ _ s h => h.perform files s) [] keeps_nil hr
  rw [before_perform, step_perform]
  exact ⟨hc, rfl⟩

/-- **The settings that are got are the latest.** However the settings are loaded, got and reset,
getting them returns what the last successful load since the last reset came to, or loads the
default file if there is none. Every successful load comes to settings of its own, and a step that
fails leaves everything as it was. -/
theorem life_keepsLatest (files : Files) (steps : List CacheStep) :
    KeepsLatest files steps (life files steps {}) where
  complete := steps_allRecordsOf (step_perform files) steps {}
  got before r after loaded hr hstep hlatest := by
    obtain ⟨hkeeps, hperform⟩ := keeps_life hr
    have hkept : r.before.kept = some loaded := hkeeps.kept.trans hlatest
    rw [hstep, perform_get_of_some hkept] at hperform
    exact ⟨congrArg CacheRecord.result hperform, get_of_some hkept⟩
  gotNone before r after hr hstep hlatest := by
    obtain ⟨hkeeps, hperform⟩ := keeps_life hr
    have hkept : r.before.kept = none := hkeeps.kept.trans hlatest
    rcases hload : r.before.load files none with ⟨x, c'⟩
    rw [hperform, hstep, perform_get_of_none hkept hload]
    exact hkeeps.loads hload .get
  loaded before r after path hr hstep := by
    obtain ⟨hkeeps, hperform⟩ := keeps_life hr
    rcases hload : r.before.load files path with ⟨x, c'⟩
    rw [hperform, hstep, perform_load hload]
    exact hkeeps.loads hload (.load path)
  failed before r after e hr he := by
    obtain ⟨hkeeps, hperform⟩ := keeps_life hr
    rw [hperform] at he
    have hafter := after_perform_of_error he
    rw [← hperform] at he hafter
    refine ⟨hafter, ?_⟩
    rw [latest_concat]
    refine latestAfter_of_error he (fun hreset => ?_) _
    rw [hperform, hreset] at he
    cases he

end Cache

end AlertRelay.Config
