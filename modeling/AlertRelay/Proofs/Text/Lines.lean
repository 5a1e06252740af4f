import AlertRelay.Text.Blank
import AlertRelay.Text.Lines

/-!
# What lines are made of

The lines of a text hold its points without the line ends (`of_mem_lines`), and a text without line
ends is its only line (`lines_of_not_holdsLineEnd`). Pieces between separators hold none
(`not_mem_of_mem_fields`), and such pieces come back from the text in which they are joined
(`fields_joinWith`). Trimming takes points away and adds none (`mem_of_mem_strip`), and joining adds
the points of the separator only (`mem_joinWith`).
-/

namespace AlertRelay.Text

def HoldsLineEnd (t : Text) : Prop := ∃ p ∈ t, p.is isLineEnd = true

variable {p : Point} {cs : Text}

/-! ## Lines -/

/-- What holds of the points of the current line and of those to come that end no line holds of the
points of every line. -/
theorem forall_mem_linesFrom {P : Point → Prop} {cur : Text} (hcur : ∀ q ∈ cur, P q)
    (hcs : ∀ q ∈ cs, q.is isLineEnd = false → P q) :
    ∀ line ∈ linesFrom cur cs, ∀ q ∈ line, P q := by
  have hdone : ∀ {cur : Text}, (∀ q ∈ cur, P q) → ∀ q ∈ cur.reverse, P q := by
    intro cur hcur q hq
    exact hcur q (List.mem_reverse.mp hq)
  fun_induction linesFrom cur cs with
  | case1 cur hempty => exact nofun
  | case2 cur hempty =>
    intro line hline
    rw [List.mem_singleton.mp hline]
    exact hdone hcur
  | case3 cur cs ih =>
    have hrest : ∀ q ∈ cs, q.is isLineEnd = false → P q := by
      intro q hq
      exact hcs q (List.mem_cons_of_mem _ (List.mem_cons_of_mem _ hq))
    exact List.forall_mem_cons.mpr ⟨hdone hcur, ih nofun hrest⟩
  | case4 cur c cs hbreak hend ih =>
    have hrest : ∀ q ∈ cs, q.is isLineEnd = false → P q := by
      intro q hq
      exact hcs q (List.mem_cons_of_mem _ hq)
    exact List.forall_mem_cons.mpr ⟨hdone hcur, ih nofun hrest⟩
  | case5 cur c cs hbreak hend ih =>
    have hc : P c := hcs c List.mem_cons_self (Bool.eq_false_iff.mpr hend)
    apply ih
    · exact List.forall_mem_cons.mpr ⟨hc, hcur⟩
    · intro q hq
      exact hcs q (List.mem_cons_of_mem _ hq)

/-- A point of a line is a point of the text and ends no line. -/
theorem of_mem_lines {line : Text} (hline : line ∈ lines cs) (hp : p ∈ line) :
    p ∈ cs ∧ p.is isLineEnd = false := by
  have hall : ∀ line ∈ linesFrom [] cs, ∀ q ∈ line, q ∈ cs ∧ q.is isLineEnd = false := by
    apply forall_mem_linesFrom (P := fun q => q ∈ cs ∧ q.is isLineEnd = false)
    · exact List.forall_mem_nil _
    · exact fun q hq hend => ⟨hq, hend⟩
  exact hall line hline p hp

theorem linesFrom_of_not_holdsLineEnd {cur : Text} (hend : ¬ cs.HoldsLineEnd)
    (hne : cur.reverse ++ cs ≠ []) : linesFrom cur cs = [cur.reverse ++ cs] := by
  fun_induction linesFrom cur cs with
  | case1 cur hempty => simp [List.isEmpty_iff.mp hempty] at hne
  | case2 cur hempty => rw [List.append_nil]
  | case3 cur cs ih => exact absurd ⟨.char '\r', List.mem_cons_self, rfl⟩ hend
  | case4 cur c cs hbreak hc ih => exact absurd ⟨c, List.mem_cons_self, hc⟩ hend
  | case5 cur c cs hbreak hc ih =>
    have hsplit : (c :: cur).reverse ++ cs = cur.reverse ++ c :: cs := by simp
    rw [ih (fun ⟨p, hp, h⟩ => hend ⟨p, List.mem_cons_of_mem c hp, h⟩) (hsplit ▸ hne), hsplit]

/-- A text without line ends is its only line. -/
theorem lines_of_not_holdsLineEnd (hend : ¬ cs.HoldsLineEnd) (hne : cs ≠ []) : lines cs = [cs] :=
  linesFrom_of_not_holdsLineEnd hend hne

/-! ## Pieces between separators -/

section Fields

variable {α : Type} [DecidableEq α] {sep : α} {piece cs : List α} {pieces : List (List α)}

/-- No piece holds the separator. -/
theorem not_mem_of_mem_fields (h : piece ∈ fields sep cs) : sep ∉ piece := by
  fun_induction fields sep cs generalizing piece with
  | case1 =>
    obtain rfl := List.mem_singleton.mp h
    exact List.not_mem_nil
  | case2 cs ih =>
    rcases List.mem_cons.mp h with rfl | h
    · exact List.not_mem_nil
    · exact ih h
  | case3 c cs hc hnone ih => exact absurd hnone (fields_ne_nil sep cs)
  | case4 c cs hc first rest hfields ih =>
    rcases List.mem_cons.mp h with rfl | h
    · have hfirst : sep ∉ first := ih (hfields ▸ List.mem_cons_self)
      simp [Ne.symm hc, hfirst]
    · exact ih (hfields ▸ List.mem_cons_of_mem first h)

theorem fields_of_not_mem (h : sep ∉ piece) : fields sep piece = [piece] := by
  induction piece with
  | nil => rfl
  | cons c piece ih =>
    obtain ⟨hc, hpiece⟩ := not_or.mp (mt List.mem_cons.mpr h)
    rw [fields, if_neg (Ne.symm hc), ih hpiece]

/-- A piece ends at the first separator. -/
theorem fields_append_sep (h : sep ∉ piece) (cs : List α) :
    fields sep (piece ++ sep :: cs) = piece :: fields sep cs := by
  induction piece with
  | nil => rw [List.nil_append, fields, if_pos rfl]
  | cons c piece ih =>
    obtain ⟨hc, hpiece⟩ := not_or.mp (mt List.mem_cons.mpr h)
    rw [List.cons_append, fields, if_neg (Ne.symm hc), ih hpiece]

/-- Pieces without a separator are found again when they have been joined. -/
theorem fields_joinWith (hne : pieces ≠ []) (hfree : ∀ piece ∈ pieces, sep ∉ piece) :
    fields sep (joinWith [sep] pieces) = pieces := by
  fun_induction joinWith [sep] pieces with
  | case1 => exact absurd rfl hne
  | case2 piece => exact fields_of_not_mem (hfree piece List.mem_cons_self)
  | case3 piece next pieces ih =>
    obtain ⟨hpiece, hrest⟩ := List.forall_mem_cons.mp hfree
    rw [List.append_assoc, List.singleton_append, fields_append_sep hpiece,
      ih (List.cons_ne_nil next pieces) hrest]

end Fields

/-! ## Trimming and joining -/

theorem mem_of_mem_strip (hp : p ∈ strip cs) : p ∈ cs := by
  have hstart : p ∈ (trimStart (Point.is isBlank) cs).reverse :=
    (List.dropWhile_sublist _).mem (List.mem_reverse.mp hp)
  exact (List.dropWhile_sublist _).mem (List.mem_reverse.mp hstart)

theorem mem_joinWith {α : Type} {sep : List α} {pieces : List (List α)} {x : α}
    (hx : x ∈ joinWith sep pieces) : x ∈ sep ∨ ∃ piece ∈ pieces, x ∈ piece := by
  fun_induction joinWith sep pieces with
  | case1 => cases hx
  | case2 piece => exact .inr ⟨piece, List.mem_singleton_self piece, hx⟩
  | case3 piece next pieces ih =>
    rcases List.mem_append.mp hx with hx | hx
    · rcases List.mem_append.mp hx with hx | hx
      · exact .inr ⟨piece, List.mem_cons_self, hx⟩
      · exact .inl hx
    · rcases ih hx with hx | ⟨other, hother, hx⟩
      · exact .inl hx
      · exact .inr ⟨other, List.mem_cons_of_mem _ hother, hx⟩

end AlertRelay.Text
