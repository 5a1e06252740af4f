import AlertRelay.Command.Run
import AlertRelay.Proofs.Config.Accepted

/-!
# The options of the command

What the options of the command make of the alert and its datacenter: the details have a line feed
for every backslash that an n follows, and a datacenter that is given and not empty takes the place
of the configured one.
-/

namespace AlertRelay.Command

open Config

variable {o : Options} {a : Alert}

/-! ## Details -/

/-- A character in front of the first part stands in front of the whole. -/
theorem intercalate_cons_head {α : Type} (sep : List α) (c : α) (part : List α)
    (parts : List (List α)) :
    List.intercalate sep ((c :: part) :: parts) = c :: List.intercalate sep (part :: parts) := by
  cases parts with
  | nil => simp
  | cons next parts => simp [List.intercalate_cons_cons]

/-- The text with a line feed for every backslash and n: between these pairs it stays as it is. -/
theorem exists_unescapeLines (cs : List Char) :
    ∃ part parts, (∀ p ∈ part :: parts, ¬ ['\\', 'n'] <:+: p) ∧
      cs = List.intercalate ['\\', 'n'] (part :: parts) ∧
      unescapeLines cs = List.intercalate ['\n'] (part :: parts) := by
  induction cs using unescapeLines.induct with
  | case1 cs ih =>
    obtain ⟨part, parts, hfree, hcs, hunescaped⟩ := ih
    refine ⟨[], part :: parts, List.forall_mem_cons.mpr ⟨by simp, hfree⟩, ?_, ?_⟩
    · rw [List.intercalate_cons_cons, ← hcs]
      rfl
    · rw [unescapeLines, List.intercalate_cons_cons, ← hunescaped]
      rfl
  | case2 c cs hpair ih =>
    obtain ⟨part, parts, hfree, hcs, hunescaped⟩ := ih
    obtain ⟨hpart, hparts⟩ := List.forall_mem_cons.mp hfree
    refine ⟨c :: part, parts, List.forall_mem_cons.mpr ⟨?_, hparts⟩, ?_, ?_⟩
    · rw [List.infix_cons_iff, not_or]
      refine ⟨fun hbegins => ?_, hpart⟩
      -- A pair at the beginning would have been replaced.
      obtain ⟨rest, hrest⟩ := hbegins
      obtain ⟨rfl, rfl⟩ := List.cons.inj hrest
      exact hpair _ rfl (hcs.trans (intercalate_cons_head _ 'n' rest parts))
    · rw [intercalate_cons_head, ← hcs]
    · rw [unescapeLines.eq_2 _ _ hpair, intercalate_cons_head, ← hunescaped]
  | case3 => exact ⟨[], [], by simp, rfl, rfl⟩

/-- The details of the alert that options describe. -/
theorem details_of_alert (h : o.alert = .ok a) :
    a.details = Text.ofChars (unescapeLines o.details.toList) := by
  have hcheck := Checked.eq_accepted_of_toExcept h
  obtain ⟨_, details, hfive, hdetails, rfl⟩ := Checked.exists_of_seq_eq_accepted hcheck
  obtain ⟨_, message, hfour, -, rfl⟩ := Checked.exists_of_seq_eq_accepted hfive
  obtain ⟨_, status, hthree, -, rfl⟩ := Checked.exists_of_seq_eq_accepted hfour
  obtain ⟨_, tag, htwo, -, rfl⟩ := Checked.exists_of_seq_eq_accepted hthree
  obtain ⟨_, service, hone, -, rfl⟩ := Checked.exists_of_seq_eq_accepted htwo
  obtain ⟨node, -, rfl⟩ := Checked.exists_of_map_eq_accepted hone
  have hgiven : Value.lookup?
      [named "node" (.text o.node), named "service" (.text o.service), named "tag" (.text o.tag),
        named "status" (.text o.status), named "message" (.text o.message),
        named "details" (.text (String.ofList (unescapeLines o.details.toList)))] "details" =
      some (.text (Text.ofString (String.ofList (unescapeLines o.details.toList)))) := by
    simp [Value.lookup?, named]
  have htext : Text.ofString (String.ofList (unescapeLines o.details.toList)) =
      Text.ofChars (unescapeLines o.details.toList) := by
    simp [Text.ofString]
  rw [← htext]
  exact Checked.accepted.inj (hdetails.symm.trans (optional_of_text hgiven))

/-! ## The datacenter -/

/-- The datacenter that is given, unless it is empty, and else that of the settings. -/
theorem datacenterOr_eq (o : Options) (s : Settings) :
    o.datacenterOr s =
      match o.datacenter with
      | some name => if name = "" then s.datacenter else Text.ofString name
      | none => s.datacenter := by
  unfold Options.datacenterOr Log.override
  cases o.datacenter with
  | none => rfl
  | some name =>
    have hempty : (Text.ofString name).isEmpty = true ↔ name = "" := by
      rw [List.isEmpty_iff, Text.ofString_eq_nil_iff]
    simp only [Option.map_some, hempty]

end AlertRelay.Command
