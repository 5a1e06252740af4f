import Mathlib.Data.List.Infix
import AlertRelay.Mail.Subject

/-!
# Reading free text

Free text in a header is read piece by piece: a gap, a piece of plain text or an encoded word. No
step is without a piece (`exists_readsPiece`), so the whole text is read, and what every step keeps
up holds of the pieces of a text (`piecesOf_invariant`). Only encoded words bring in points that do
not stand in the text (`mem_readText`); a text without an encoded word is read as it stands
(`readText_of_no_word`).
-/

namespace AlertRelay.Mail

/-! ## Marks in a text -/

/-- A text is what stands before its mark, the mark and what follows. -/
theorem eq_of_splitAtMark {mark cs before after : Text}
    (h : splitAtMark mark cs = some (before, after)) : cs = before ++ (mark ++ after) := by
  induction cs generalizing before with
  | nil =>
    rw [splitAtMark] at h
    split at h
    · next hempty =>
      obtain ⟨rfl, rfl⟩ := Prod.mk.inj (Option.some.inj h)
      simpa using hempty
    · cases h
  | cons c cs ih =>
    rw [splitAtMark] at h
    split at h
    · next hstart =>
      obtain ⟨rfl, rfl⟩ := Prod.mk.inj (Option.some.inj h)
      exact (List.prefix_iff_eq_append.mp (List.isPrefixOf_iff_prefix.mp hstart)).symm
    · obtain ⟨⟨before', after'⟩, hsplit, heq⟩ := Option.map_eq_some_iff.mp h
      obtain ⟨rfl, rfl⟩ := Prod.mk.inj heq
      exact congrArg (c :: ·) (ih hsplit)

theorem not_isInfix_of_splitAtMark_eq_none {mark cs : Text} (h : splitAtMark mark cs = none) :
    ¬ mark <:+: cs := by
  induction cs with
  | nil =>
    rw [splitAtMark] at h
    split at h
    · cases h
    · next hempty =>
      intro hinfix
      apply hempty
      rw [List.infix_nil.mp hinfix]
      rfl
  | cons c cs ih =>
    rw [splitAtMark] at h
    split at h
    · cases h
    · next hstart =>
      intro hinfix
      rcases List.infix_cons_iff.mp hinfix with hbegins | hinside
      · exact hstart (List.isPrefixOf_iff_prefix.mpr hbegins)
      · exact ih (Option.map_eq_none_iff.mp h) hinside

def endMark : Text := Text.ofString "?="

/-- A text in the shape of an encoded word holds the mark of its end. -/
theorem endMark_isInfix_of_opensEncodedWord {cs : Text} (h : opensEncodedWord cs = true) :
    endMark <:+: cs.drop 2 := by
  unfold opensEncodedWord at h
  split at h
  · next cs =>
    split at h
    · next m rest hrest =>
      rw [Bool.and_eq_true] at h
      obtain ⟨-, h⟩ := h
      split at h
      · next inner after hsplit =>
        have hend : endMark <:+: rest := ⟨inner, after, by
          rw [eq_of_splitAtMark hsplit, List.append_assoc]
          rfl⟩
        have hbehind : .char '?' :: m :: .char '?' :: rest <:+ cs := by
          rw [← hrest]
          exact List.dropWhile_suffix _
        have hsuffix : rest <:+ cs :=
          (List.suffix_append [Point.char '?', m, .char '?'] rest).trans hbehind
        exact hend.trans hsuffix.isInfix
      · cases h
    · cases h
  · cases h

theorem endMark_isInfix_of_holdsEncodedWord {cs : Text} (h : holdsEncodedWord cs = true) :
    endMark <:+: cs.drop 2 := by
  induction cs with
  | nil => cases h
  | cons c cs ih =>
    rw [holdsEncodedWord, Bool.or_eq_true] at h
    rcases h with hopens | hholds
    · exact endMark_isInfix_of_opensEncodedWord hopens
    · have hlater : cs.drop 2 <:+ cs.drop 1 := List.drop_suffix_drop_left cs (Nat.le_succ 1)
      exact (ih hholds).trans hlater.isInfix

/-! ## The next piece of free text -/

/-- What is taken as the next piece of plain text is not empty, and what follows it is left. A text
that opens as an encoded word does must have no end as one, so that it is not cut in front. -/
theorem exists_takePlain (splitWords : Bool) {c : Point} {cs : Text} (hc : isWordGap c = false)
    (hopens : splitWords = true → opensWord (c :: cs) = true →
      splitAtMark endMark ((c :: cs).drop 2) = none) :
    ∃ word rest, takePlain splitWords (c :: cs) = (word, rest) ∧ word ≠ [] ∧
      c :: cs = word ++ rest := by
  unfold takePlain
  dsimp only
  split
  · next hsplit =>
    obtain ⟨rfl, hholds⟩ := Bool.and_eq_true_iff.mp hsplit
    split
    · next before after hmark =>
      have heq := eq_of_splitAtMark hmark
      refine ⟨before, _, rfl, ?_, heq⟩
      rintro rfl
      -- The word would have an end after all.
      have hword : opensWord (c :: cs) = true := by
        rw [heq]
        rfl
      apply not_isInfix_of_splitAtMark_eq_none (hopens rfl hword)
      have hstart : (c :: cs).takeWhile (!isWordGap ·) <+: c :: cs := List.takeWhile_prefix _
      exact (endMark_isInfix_of_holdsEncodedWord hholds).trans (hstart.drop 2).isInfix
    · exact ⟨_, _, rfl, List.cons_ne_nil c cs, (List.append_nil _).symm⟩
  · refine ⟨_, _, rfl, ?_, List.takeWhile_append_dropWhile.symm⟩
    simp [hc]

/-- The text of an encoded word is taken from the head of a text, and what follows it is left. -/
theorem exists_of_takeEncodedWord {cs text rest : Text} (hopens : opensWord cs = true)
    (h : takeEncodedWord cs = .ok (text, rest)) : ∃ taken, taken ≠ [] ∧ cs = taken ++ rest := by
  have hhead : cs = Text.ofString "=?" ++ cs.drop 2 :=
    (List.prefix_iff_eq_append.mp (List.isPrefixOf_iff_prefix.mp hopens)).symm
  suffices hsuffix : rest <:+ cs.drop 2 by
    obtain ⟨taken, htaken⟩ := hsuffix
    refine ⟨Text.ofString "=?" ++ taken, by simp [Text.ofString, Text.ofChars], ?_⟩
    rw [List.append_assoc, htaken]
    exact hhead
  have hmark : ∀ {cs inner after : Text}, splitAtMark endMark cs = some (inner, after) →
      after <:+ cs := by
    intro cs inner after hsplit
    rw [eq_of_splitAtMark hsplit, ← List.append_assoc]
    exact List.suffix_append _ _
  unfold takeEncodedWord at h
  split at h
  · cases h
  · next inner after hsplit =>
    have hafter : after <:+ cs.drop 2 := hmark hsplit
    split at h
    next whole left hends =>
    -- The word ends here, at a later mark, or with the text.
    have hleft : left <:+ after := by
      split at hends
      · split at hends
        · next more later hlater =>
          obtain ⟨-, rfl⟩ := Prod.mk.inj hends
          exact hmark hlater
        · obtain ⟨-, rfl⟩ := Prod.mk.inj hends
          exact List.nil_suffix
      · obtain ⟨-, rfl⟩ := Prod.mk.inj hends
        exact List.suffix_rfl
    have hrest : rest = left := by
      split at h
      · split at h
        · exact (Prod.mk.inj (Except.ok.inj h)).2.symm
        · cases h
      · cases h
    rw [hrest]
    exact hleft.trans hafter

theorem splitAtMark_of_unclosed {cs : Text} (h : takeEncodedWord cs = .error .unclosed) :
    splitAtMark endMark (cs.drop 2) = none := by
  unfold takeEncodedWord at h
  split at h
  · next hsplit => exact hsplit
  · -- A text that has an end can only be invalid.
    split at h
    split at h
    · split at h <;> cases h
    · cases h

/-- One step of reading free text: the pieces before it and the text, and then the pieces and the
text that is left. -/
inductive ReadsPiece : List SubjectPart → Text → List SubjectPart → Text → Prop where
  | gap {before : List SubjectPart} {gap rest : Text} (hgap : gap ≠ []) :
    ReadsPiece before (gap ++ rest) (.blanks gap false :: before) rest
  | plain {before : List SubjectPart} {word rest : Text} (hword : word ≠ []) :
    ReadsPiece before (word ++ rest) (.plain word :: before) rest
  | encoded {before : List SubjectPart} {taken rest text : Text} (htaken : taken ≠ [])
    (hopens : opensWord (taken ++ rest) = true)
    (hword : takeEncodedWord (taken ++ rest) = .ok (text, rest)) :
    ReadsPiece before (taken ++ rest) (addEncoded text before) rest

/-- Each step of the reading uses up text. -/
theorem ReadsPiece.length_lt {before after : List SubjectPart} {cs rest : Text}
    (h : ReadsPiece before cs after rest) : rest.length < cs.length := by
  cases h <;> simp [List.length_pos_iff, *]

theorem isBlank_of_isWordGap {c : Point} (h : isWordGap c = true) : c.is Text.isBlank = true := by
  rw [isWordGap, Bool.or_eq_true, beq_iff_eq, beq_iff_eq] at h
  rcases h with rfl | rfl <;> rfl

/-- A text that is not empty is read on by one piece. -/
theorem exists_readsPiece (bound : Nat) (before : List SubjectPart) (c : Point) (cs : Text) :
    ∃ after rest, ReadsPiece before (c :: cs) after rest ∧
      subjectParts (bound + 1) before (c :: cs) = subjectParts bound after rest := by
  rw [subjectParts]
  split
  · next hgap =>
    have hblank : c.is Text.isBlank = true := isBlank_of_isWordGap hgap
    refine ⟨_, _, ?_, rfl⟩
    -- The gap and what is left are the text.
    nth_rewrite 1 [← List.takeWhile_append_dropWhile (p := (·.is Text.isBlank)) (l := c :: cs)]
    apply ReadsPiece.gap
    simp [hblank]
  · next hgap =>
    have hc : isWordGap c = false := Bool.eq_false_iff.mpr hgap
    have hplain : ∀ splitWords : Bool,
        (splitWords = true → opensWord (c :: cs) = true →
          splitAtMark endMark ((c :: cs).drop 2) = none) →
        ∃ after rest, ReadsPiece before (c :: cs) after rest ∧
          subjectParts bound (.plain (takePlain splitWords (c :: cs)).1 :: before)
            (takePlain splitWords (c :: cs)).2 = subjectParts bound after rest := by
      intro splitWords hends
      obtain ⟨word, rest, htake, hword, heq⟩ := exists_takePlain splitWords hc hends
      refine ⟨.plain word :: before, rest, ?_, by rw [htake]⟩
      rw [heq]
      exact .plain hword
    dsimp only
    split
    · next hopens =>
      split
      · next text rest htake =>
        obtain ⟨taken, htaken, heq⟩ := exists_of_takeEncodedWord hopens htake
        rw [heq] at hopens htake ⊢
        exact ⟨_, rest, .encoded htaken hopens htake, rfl⟩
      · exact hplain false nofun
      · next htake =>
        apply hplain true
        intro _ _
        exact splitAtMark_of_unclosed htake
    · next hopens => exact hplain true fun _ h => absurd h hopens

/-- What every step of reading keeps up holds once the whole text is read. -/
theorem subjectParts_invariant {I : List SubjectPart → Text → Prop}
    (hstep : ∀ {before after : List SubjectPart} {cs rest : Text}, I before cs →
      ReadsPiece before cs after rest → I after rest) {bound : Nat} {before : List SubjectPart}
    {cs : Text} (hbound : cs.length < bound) (h : I before cs) :
    I (subjectParts bound before cs) [] := by
  induction bound generalizing before cs with
  | zero => omega
  | succ bound ih =>
    cases cs with
    | nil => exact h
    | cons c cs =>
      obtain ⟨after, rest, hread, heq⟩ := exists_readsPiece bound before c cs
      have hshorter : rest.length < (c :: cs).length := hread.length_lt
      rw [heq]
      exact ih (by omega) (hstep h hread)

/-! ## The texts of encoded words -/

def SubjectPart.encoded? : SubjectPart → Option Text
  | .encoded text => some text
  | _ => none

/-- The points of a piece that stand in the free text itself. -/
def SubjectPart.own : SubjectPart → Text
  | .blanks cs _ => cs
  | .encoded _ => []
  | .plain cs => cs

def piecesOf (cs : Text) : List SubjectPart := subjectParts (2 * cs.length + 1) [] cs

def readText (cs : Text) : Text := (piecesOf cs).reverse.flatMap SubjectPart.text

def encodedTexts (cs : Text) : List Text := (piecesOf cs).reverse.filterMap SubjectPart.encoded?

/-- What each step of the reading keeps up holds of the pieces in the end. -/
theorem piecesOf_invariant {I : List SubjectPart → Text → Prop}
    (hstep : ∀ {before after : List SubjectPart} {cs rest : Text}, I before cs →
      ReadsPiece before cs after rest → I after rest) {cs : Text} (h : I [] cs) :
    I (piecesOf cs) [] :=
  subjectParts_invariant hstep (by omega) h

theorem encoded_mem_addEncoded (text : Text) (before : List SubjectPart) :
    .encoded text ∈ addEncoded text before := by
  unfold addEncoded
  split <;> exact List.mem_cons_self

theorem mem_addEncoded {text : Text} {before : List SubjectPart} {part : SubjectPart}
    (h : part ∈ addEncoded text before) :
    part = .encoded text ∨ ∃ part' ∈ before, part'.own = part.own := by
  unfold addEncoded at h
  split at h
  · next cs hidden t rest =>
    rcases List.mem_cons.mp h with rfl | h
    · exact .inl rfl
    · rcases List.mem_cons.mp h with rfl | h
      · exact .inr ⟨.blanks cs hidden, List.mem_cons_self, rfl⟩
      · exact .inr ⟨part, List.mem_cons_of_mem _ h, rfl⟩
  · rcases List.mem_cons.mp h with rfl | h
    · exact .inl rfl
    · exact .inr ⟨part, h, rfl⟩

/-- What a piece has of its own stands in the text. -/
theorem mem_of_mem_own {cs : Text} {part : SubjectPart} (hpart : part ∈ piecesOf cs) {p : Point}
    (hp : p ∈ part.own) : p ∈ cs := by
  have hall : (∀ part ∈ piecesOf cs, ∀ q ∈ part.own, q ∈ cs) ∧ [] <:+ cs := by
    apply piecesOf_invariant
      (I := fun before rest => (∀ part ∈ before, ∀ q ∈ part.own, q ∈ cs) ∧ rest <:+ cs)
    · rintro before after now rest ⟨hbefore, hnow⟩ hread
      cases hread with
      | gap hgap =>
        refine ⟨List.forall_mem_cons.mpr ⟨?_, hbefore⟩, (List.suffix_append _ _).trans hnow⟩
        intro q hq
        exact hnow.mem (List.mem_append_left _ hq)
      | plain hword =>
        refine ⟨List.forall_mem_cons.mpr ⟨?_, hbefore⟩, (List.suffix_append _ _).trans hnow⟩
        intro q hq
        exact hnow.mem (List.mem_append_left _ hq)
      | encoded htaken hopens hword =>
        refine ⟨?_, (List.suffix_append _ _).trans hnow⟩
        intro part hpart q hq
        rcases mem_addEncoded hpart with rfl | ⟨part', hpart', hown⟩
        · cases hq
        · exact hbefore part' hpart' q (hown ▸ hq)
    · exact ⟨List.forall_mem_nil _, List.suffix_rfl⟩
  exact hall.1 part hpart p hp

/-- A point that is read stands in the text or in that of an encoded word. -/
theorem mem_readText {cs : Text} {p : Point} (hp : p ∈ readText cs) :
    p ∈ cs ∨ ∃ t ∈ encodedTexts cs, p ∈ t := by
  obtain ⟨part, hpart, hp⟩ := List.mem_flatMap.mp hp
  cases part with
  | blanks gap hidden =>
    left
    apply mem_of_mem_own (List.mem_reverse.mp hpart)
    cases hidden with
    | true => cases hp
    | false => exact hp
  | encoded text => exact .inr ⟨text, List.mem_filterMap.mpr ⟨_, hpart, rfl⟩, hp⟩
  | plain word => exact .inl (mem_of_mem_own (List.mem_reverse.mp hpart) hp)

/-- What an encoded word stands for is part of what the text is read as. -/
theorem mem_readText_of_mem_encodedTexts {cs t : Text} {p : Point} (ht : t ∈ encodedTexts cs)
    (hp : p ∈ t) : p ∈ readText cs := by
  obtain ⟨part, hpart, htext⟩ := List.mem_filterMap.mp ht
  cases part <;> cases htext
  exact List.mem_flatMap.mpr ⟨_, hpart, hp⟩

/-- Without an encoded word, free text is read as it stands. -/
theorem readText_of_no_word {cs : Text} (h : encodedTexts cs = []) : readText cs = cs := by
  have hread : (piecesOf cs).filterMap SubjectPart.encoded? = [] →
      (piecesOf cs).reverse.flatMap SubjectPart.text ++ [] = cs := by
    apply piecesOf_invariant (I := fun before rest => before.filterMap SubjectPart.encoded? = [] →
      before.reverse.flatMap SubjectPart.text ++ rest = cs)
    · intro before after now rest hbefore hstep hnone
      cases hstep with
      | gap hgap =>
        rw [← hbefore hnone]
        simp [SubjectPart.text]
      | plain hword =>
        rw [← hbefore hnone]
        simp [SubjectPart.text]
      | encoded htaken hopens hword =>
        -- An encoded word that was read stays among the pieces.
        have htext := List.filterMap_eq_nil_iff.mp hnone _ (encoded_mem_addEncoded _ before)
        cases htext
    · intro _
      rfl
  have hnone : (piecesOf cs).filterMap SubjectPart.encoded? = [] := by
    rwa [encodedTexts, List.filterMap_reverse, List.reverse_eq_nil_iff] at h
  have hcs := hread hnone
  rwa [List.append_nil] at hcs

/-- Without the mark of its beginning, free text holds no encoded word. -/
theorem encodedTexts_of_no_mark {cs : Text} (h : ¬ Text.ofString "=?" <:+: cs) :
    encodedTexts cs = [] := by
  have hall : (piecesOf cs).filterMap SubjectPart.encoded? = [] ∧ [] <:+ cs := by
    apply piecesOf_invariant
      (I := fun before rest => before.filterMap SubjectPart.encoded? = [] ∧ rest <:+ cs)
    · rintro before after now rest ⟨hnone, hnow⟩ hstep
      cases hstep with
      | gap hgap => exact ⟨hnone, (List.suffix_append _ _).trans hnow⟩
      | plain hword => exact ⟨hnone, (List.suffix_append _ _).trans hnow⟩
      | encoded htaken hopens hword =>
        have hmark := List.isPrefixOf_iff_prefix.mp hopens
        exact absurd (hmark.isInfix.trans hnow.isInfix) h
    · exact ⟨rfl, List.suffix_rfl⟩
  rw [encodedTexts, List.filterMap_reverse, hall.1]
  rfl

end AlertRelay.Mail
