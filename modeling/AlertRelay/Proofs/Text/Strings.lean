import AlertRelay.Text.Case
import AlertRelay.Text.Point
import Mathlib.Data.List.Forall2
import Mathlib.Data.List.Infix

/-!
# Texts that are strings

A text without halves has characters, and is made of nothing else (`eq_ofChars_of_chars?`), so that
it is known by its string (`string?_eq_some_iff`).

A text spells a name if its characters have the letters of the name as their capital forms, one by
one. Such a text in capital letters is the name (`asciiUpper?_of_spells`). A few characters have two
or three letters as their capital form; a name in which no such letters stand together comes from
the texts that spell it and from no others (`asciiUpper?_eq_some_iff`).
-/

namespace AlertRelay.Text

variable {t : Text} {cs : List Char} {s : String}

theorem eq_ofChars_of_chars? (h : chars? t = some cs) : t = ofChars cs := by
  induction t generalizing cs with
  | nil =>
    obtain rfl := Option.some.inj h
    rfl
  | cons p t ih =>
    cases p with
    | half n => cases h
    | char c =>
      obtain ⟨rest, hrest, rfl⟩ : ∃ rest, chars? t = some rest ∧ c :: rest = cs := by
        simpa [chars?, Point.char?, Option.bind_eq_some_iff] using h
      rw [ih hrest]
      rfl

/-- A text is that of a string exactly if the string is read off it. -/
theorem string?_eq_some_iff : string? t = some s ↔ t = ofString s := by
  rw [string?, Option.map_eq_some_iff, ofString]
  constructor
  · rintro ⟨cs, hcs, rfl⟩
    rw [eq_ofChars_of_chars? hcs, String.toList_ofList]
  · rintro rfl
    exact ⟨s.toList, chars?_ofChars s.toList, String.ofList_toList⟩

/-! ## Names in any case -/

/-- Whether a letter is the capital form of a character. Beside the small letters and the capitals
themselves that holds of the dotless i and of the long s. -/
def HasCapital (x c : Char) : Prop :=
  x.toUpper = c ∨ (x = '\u0131' ∧ c = 'I') ∨ (x = '\u017f' ∧ c = 'S')

def Spells (t : Text) (name : String) : Prop :=
  List.Forall₂ (fun p c => ∃ x, p = .char x ∧ HasCapital x c) t name.toList

/-- The letters with which the capital forms begin that consist of more than one. -/
def joinedCapitals : List (List Char) :=
  [['S', 'S'], ['F', 'F'], ['F', 'I'], ['F', 'L'], ['S', 'T']]

/-- Whether the letters of a name are ASCII characters and none of them are one capital form. -/
def Separate (name : List Char) : Prop :=
  (∀ c ∈ name, c.toNat < 128) ∧ ∀ pair ∈ joinedCapitals, ¬ pair <:+: name

-- The letters of the name are tried one by one; left to itself, the search may try every character.
instance (name : List Char) : Decidable (Separate name) :=
  @instDecidableAnd _ _ (List.decidableBAll (·.toNat < 128) name)
    (List.decidableBAll (fun pair => ¬ pair <:+: name) joinedCapitals)

variable {x c : Char} {piece name : List Char}

theorem Separate.of_cons (h : Separate (c :: name)) : Separate name := by
  obtain ⟨hascii, hapart⟩ := h
  refine ⟨fun d hd => hascii d (List.mem_cons_of_mem c hd), ?_⟩
  intro pair hpair hin
  exact hapart pair hpair (hin.trans (List.suffix_cons c name).isInfix)

/-- A capital form is one letter, or begins with letters that are joined. -/
theorem asciiUpperChar?_cases (h : asciiUpperChar? x = some piece) :
    (∃ c, piece = [c] ∧ HasCapital x c) ∨ ∃ pair ∈ joinedCapitals, pair <+: piece := by
  unfold asciiUpperChar? at h
  split at h
  · exact .inl ⟨x.toUpper, (Option.some.inj h).symm, .inl rfl⟩
  · split at h
    -- The dotless i and the long s have one letter; all others have letters that are joined.
    case h_2 hx =>
      have hi : x = '\u0131' := Char.toNat_inj.mp hx
      exact .inl ⟨'I', (Option.some.inj h).symm, .inr (.inl ⟨hi, rfl⟩)⟩
    case h_3 hx =>
      have hs : x = '\u017f' := Char.toNat_inj.mp hx
      exact .inl ⟨'S', (Option.some.inj h).symm, .inr (.inr ⟨hs, rfl⟩)⟩
    case h_11 => cases h
    all_goals
      obtain rfl := Option.some.inj h
      exact .inr (by decide)

theorem asciiUpperChar?_of_hasCapital (hc : c.toNat < 128) (h : HasCapital x c) :
    asciiUpperChar? x = some [c] := by
  rcases h with rfl | ⟨rfl, rfl⟩ | ⟨rfl, rfl⟩
  · -- Only small letters have another capital, and they are ASCII characters themselves.
    have hx : x.toNat < 128 := by
      unfold Char.toUpper at hc
      split at hc
      · next hsmall => exact Nat.lt_of_le_of_lt (UInt32.le_iff_toNat_le.mp hsmall.2) (by decide)
      · exact hc
    rw [asciiUpperChar?, if_pos hx]
  · rfl
  · rfl

theorem mapM_asciiUpperChar? (hname : ∀ c ∈ name, c.toNat < 128)
    (h : List.Forall₂ HasCapital cs name) :
    cs.mapM asciiUpperChar? = some (name.map fun c => [c]) := by
  induction h with
  | nil => rfl
  | cons hc _ ih =>
    obtain ⟨hascii, hrest⟩ := List.forall_mem_cons.mp hname
    rw [List.mapM_cons, asciiUpperChar?_of_hasCapital hascii hc, ih hrest]
    rfl

/-- Characters whose capital forms make up a name of separate letters have one letter each. -/
theorem forall₂_hasCapital {parts : List (List Char)} (hname : Separate parts.flatten)
    (h : cs.mapM asciiUpperChar? = some parts) : List.Forall₂ HasCapital cs parts.flatten := by
  induction cs generalizing parts with
  | nil =>
    obtain rfl := Option.some.inj h
    exact .nil
  | cons x cs ih =>
    rw [List.mapM_cons] at h
    obtain ⟨piece, hpiece, h⟩ := Option.bind_eq_some_iff.mp h
    obtain ⟨rest, hrest, h⟩ := Option.bind_eq_some_iff.mp h
    obtain rfl := Option.some.inj h
    rw [List.flatten_cons] at hname ⊢
    rcases asciiUpperChar?_cases hpiece with ⟨c, rfl, hc⟩ | ⟨pair, hpair, hbegins⟩
    · exact .cons hc (ih hname.of_cons hrest)
    · exact absurd (hbegins.trans (List.prefix_append _ _)).isInfix (hname.2 pair hpair)

/-- A text that spells a name has characters. -/
theorem exists_of_spells {name : String} (h : Spells t name) :
    ∃ cs, t = ofChars cs ∧ List.Forall₂ HasCapital cs name.toList := by
  unfold Spells at h
  generalize name.toList = letters at h ⊢
  induction h with
  | nil => exact ⟨[], rfl, .nil⟩
  | cons hp _ ih =>
    obtain ⟨x, rfl, hx⟩ := hp
    obtain ⟨cs, rfl, hcs⟩ := ih
    exact ⟨x :: cs, rfl, .cons hx hcs⟩

/-- Letters that have the letters of a name as their capitals spell the name. -/
theorem spells_ofChars {name : String} (h : List.Forall₂ HasCapital cs name.toList) :
    Spells (ofChars cs) name :=
  List.forall₂_map_left_iff.mpr (h.imp fun x _ hx => ⟨x, rfl, hx⟩)

theorem asciiUpper?_ofChars (cs : List Char) :
    asciiUpper? (ofChars cs) =
      (cs.mapM asciiUpperChar?).map fun parts => String.ofList parts.flatten := by
  simp only [asciiUpper?, chars?_ofChars, Option.bind_eq_bind, Option.bind_some]
  cases cs.mapM asciiUpperChar? <;> rfl

theorem exists_of_asciiUpper? {name : String} (h : asciiUpper? t = some name) :
    ∃ cs parts, t = ofChars cs ∧ cs.mapM asciiUpperChar? = some parts ∧
      name.toList = parts.flatten := by
  obtain ⟨cs, hcs, -⟩ := Option.bind_eq_some_iff.mp h
  obtain rfl := eq_ofChars_of_chars? hcs
  rw [asciiUpper?_ofChars] at h
  obtain ⟨parts, hparts, rfl⟩ := Option.map_eq_some_iff.mp h
  exact ⟨cs, parts, rfl, hparts, String.toList_ofList⟩

/-- A text that spells a name is that name in capital letters. -/
theorem asciiUpper?_of_spells {name : String} (hname : ∀ c ∈ name.toList, c.toNat < 128)
    (h : Spells t name) : asciiUpper? t = some name := by
  obtain ⟨cs, rfl, hcs⟩ := exists_of_spells h
  rw [asciiUpper?_ofChars, mapM_asciiUpperChar? hname hcs, Option.map_some, ← List.flatMap_def,
    List.flatMap_singleton', String.ofList_toList]

/-- No other text is a name of separate letters. -/
theorem asciiUpper?_eq_some_iff {name : String} (hname : Separate name.toList) :
    asciiUpper? t = some name ↔ Spells t name := by
  refine ⟨fun h => ?_, asciiUpper?_of_spells hname.1⟩
  obtain ⟨cs, parts, rfl, hparts, hletters⟩ := exists_of_asciiUpper? h
  apply spells_ofChars
  rw [hletters] at hname ⊢
  exact forall₂_hasCapital hname hparts

end AlertRelay.Text
