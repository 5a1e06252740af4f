import AlertRelay.Alert

/-!
# What an incident key tells of its entity

The key of an alert joins the four parts of its entity with dashes, and a part may hold dashes
itself. So a key does not always tell entities apart. The lemmas say exactly when it does:

* `entity_eq_iff_sameDashes` — two entities with one key are the same exactly if their parts hold
  equally many dashes, one by one;
* `entity_eq_of_not_holdsDash`, `exists_other_entity` — an entity shares its key with no other
  exactly if none of its parts holds a dash.
-/

namespace AlertRelay

/-- What an alert is about. Service and tag are empty for a whole node. -/
structure Entity where
  datacenter : Text
  service : Text
  tag : Text
  node : Text
  deriving DecidableEq

/-- The entity of an alert from a datacenter. -/
def Alert.entity (datacenter : Text) (a : Alert) : Entity :=
  ⟨datacenter, a.service, a.tag, a.node⟩

/-- The sign that stands between the parts of a key. -/
def dash : Point := .char '-'

namespace Entity

/-- The parts of an entity in the order in which they stand in its key. -/
def parts (e : Entity) : List Text := [e.datacenter, e.service, e.tag, e.node]

def HoldsDash (e : Entity) : Prop := ∃ part ∈ e.parts, dash ∈ part

/-- Whether the parts of two entities hold equally many dashes, one by one. -/
def SameDashes (e f : Entity) : Prop := e.parts.map (·.count dash) = f.parts.map (·.count dash)

instance (e f : Entity) : Decidable (SameDashes e f) :=
  inferInstanceAs (Decidable (_ = _))

/-- Two entities have the same dashes if each part of the one has as many as that of the other. -/
theorem sameDashes_iff {e f : Entity} :
    SameDashes e f ↔ e.datacenter.count dash = f.datacenter.count dash ∧
      e.service.count dash = f.service.count dash ∧ e.tag.count dash = f.tag.count dash ∧
      e.node.count dash = f.node.count dash := by
  simp [SameDashes, parts]

/-- No part holds a dash if each has none. -/
theorem not_holdsDash_iff {e : Entity} :
    ¬ e.HoldsDash ↔ e.datacenter.count dash = 0 ∧ e.service.count dash = 0 ∧
      e.tag.count dash = 0 ∧ e.node.count dash = 0 := by
  simp [HoldsDash, parts, List.count_eq_zero]

end Entity

/-! ## Keys as texts with three marked dashes -/

/-- A key is its four parts with dashes between them. -/
theorem incidentKey_eq (d : Text) (a : Alert) :
    a.incidentKey d = d ++ dash :: (a.service ++ dash :: (a.tag ++ dash :: a.node)) := by
  show d ++ [dash] ++ (a.service ++ [dash] ++ (a.tag ++ [dash] ++ a.node)) = _
  simp

/-- Of two texts that go on after a separator, equally many separators before it make the parts
before and after it the same. -/
theorem append_sep_inj {α : Type} [DecidableEq α] {sep : α} {p q r s : List α}
    (h : p ++ sep :: r = q ++ sep :: s) (hcount : p.count sep = q.count sep) :
    p = q ∧ r = s := by
  -- One of the two first parts begins with the other, and what it has beyond it would begin with
  -- a separator that the other lacks.
  rcases List.append_eq_append_iff.mp h with ⟨m, hq, hr⟩ | ⟨m, hp, hs⟩
  · cases m with
    | nil =>
      rw [List.append_nil] at hq
      exact ⟨hq.symm, (List.cons.inj hr).2⟩
    | cons x m =>
      obtain rfl : sep = x := (List.cons.inj hr).1
      rw [hq, List.count_append, List.count_cons_self] at hcount
      omega
  · cases m with
    | nil =>
      rw [List.append_nil] at hp
      exact ⟨hp, (List.cons.inj hs).2.symm⟩
    | cons x m =>
      obtain rfl : sep = x := (List.cons.inj hs).1
      rw [hp, List.count_append, List.count_cons_self] at hcount
      omega

/-- A key holds the dashes of all parts and three more. -/
theorem count_dash_incidentKey (d : Text) (a : Alert) :
    (a.incidentKey d).count dash =
      d.count dash + a.service.count dash + a.tag.count dash + a.node.count dash + 3 := by
  simp only [incidentKey_eq, List.count_append, List.count_cons_self]
  omega

/-! ## When a key tells entities apart -/

variable {d d' : Text} {a a' : Alert}

/-- Two entities with one key are the same exactly if their parts hold equally many dashes. -/
theorem entity_eq_iff_sameDashes (h : a.incidentKey d = a'.incidentKey d') :
    a.entity d = a'.entity d' ↔ (a.entity d).SameDashes (a'.entity d') := by
  constructor
  · intro he
    rw [he]
    rfl
  · intro hsame
    obtain ⟨hdatacenter, hservice, htag, -⟩ := Entity.sameDashes_iff.mp hsame
    rw [incidentKey_eq, incidentKey_eq] at h
    obtain ⟨hd, h⟩ := append_sep_inj h hdatacenter
    obtain ⟨hs, h⟩ := append_sep_inj h hservice
    obtain ⟨ht, hn⟩ := append_sep_inj h htag
    simp [Alert.entity, hd, hs, ht, hn]

/-- An entity whose parts hold no dash shares its key with no other entity. -/
theorem entity_eq_of_not_holdsDash (h : a'.incidentKey d' = a.incidentKey d)
    (hfree : ¬ (a.entity d).HoldsDash) : a'.entity d' = a.entity d := by
  obtain ⟨hd, hs, ht, hn⟩ := Entity.not_holdsDash_iff.mp hfree
  have hcount := congrArg (List.count dash) h
  rw [count_dash_incidentKey, count_dash_incidentKey] at hcount
  simp only [Alert.entity] at hd hs ht hn
  apply (entity_eq_iff_sameDashes h).mpr
  apply Entity.sameDashes_iff.mpr
  simp only [Alert.entity]
  omega

/-- An entity with a dash in a part shares its key with another one: the part is cut at the dash,
and its second half moves to the part beside it. -/
theorem exists_other_entity (h : (a.entity d).HoldsDash) :
    ∃ (d' : Text) (a' : Alert), a'.incidentKey d' = a.incidentKey d ∧
      a'.entity d' ≠ a.entity d := by
  obtain ⟨part, hpart, hdash⟩ := h
  obtain ⟨p, q, rfl⟩ := List.append_of_mem hdash
  simp only [Entity.parts, Alert.entity, List.mem_cons, List.not_mem_nil, or_false] at hpart
  rcases hpart with hd | hs | ht | hn
  · refine ⟨p, { a with service := q, tag := a.service ++ dash :: a.tag }, ?_, ?_⟩
    · simp [incidentKey_eq, ← hd]
    · simp [Alert.entity, ← hd]
  · refine ⟨d, { a with service := p, tag := q ++ dash :: a.tag }, ?_, ?_⟩
    · simp [incidentKey_eq, ← hs]
    · simp [Alert.entity, ← hs]
  · refine ⟨d, { a with tag := p, node := q ++ dash :: a.node }, ?_, ?_⟩
    · simp [incidentKey_eq, ← ht]
    · simp [Alert.entity, ← ht]
  · refine ⟨d, { a with tag := a.tag ++ dash :: p, node := q }, ?_, ?_⟩
    · simp [incidentKey_eq, ← hn]
    · simp [Alert.entity]

end AlertRelay
