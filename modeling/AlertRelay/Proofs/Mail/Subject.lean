import AlertRelay.Mail.Message
import AlertRelay.Proofs.Mail.FreeText
import AlertRelay.Proofs.Text.Lines

/-!
# What an alert can do to the headers of its mail

The subject of a mail is the message of the alert on one line, but a header is read before it is
written, and encoded words in the line are decoded. So whatever the lines of a message are, they
cannot end the header (`of_mem_subjectLine`), while an encoded word can bring in a line end, and a
half of a surrogate pair that nothing can be written for (`encoded_words_break_subjects`). Apart
from that, and from halves in the alert itself, composing depends on the recipient alone and the
subject stays on its line (`headers_withstand_plain_alerts`).
-/

namespace AlertRelay.Mail

open Text

/-! ## The subject line -/

/-- A point of a subject line is a blank, or a point of the message that ends no line. -/
theorem of_mem_subjectLine {message : Text} {p : Point} (hp : p ∈ subjectLine message) :
    p = .char ' ' ∨ p ∈ message ∧ p.is isLineEnd = false := by
  rcases mem_joinWith hp with hblank | ⟨piece, hpiece, hp⟩
  · exact .inl (List.mem_singleton.mp hblank)
  · obtain ⟨line, hline, rfl⟩ := List.mem_map.mp (List.mem_of_mem_filter hpiece)
    exact .inr (of_mem_lines hline (mem_of_mem_strip hp))

/-- A subject line is a single line. -/
theorem not_holdsLineEnd_subjectLine (message : Text) :
    ¬ (subjectLine message).HoldsLineEnd := by
  rintro ⟨p, hp, hend⟩
  rcases of_mem_subjectLine hp with rfl | ⟨-, hno⟩
  · cases hend
  · rw [hno] at hend
    cases hend

theorem holdsHalf_eq_false_iff {t : Text} : t.holdsHalf = false ↔ ∀ p ∈ t, p.isHalf = false := by
  simp [holdsHalf]

theorem holdsHalf_subjectLine {message : Text} (h : message.holdsHalf = false) :
    (subjectLine message).holdsHalf = false := by
  rw [holdsHalf_eq_false_iff] at h ⊢
  intro p hp
  rcases of_mem_subjectLine hp with rfl | ⟨hp, -⟩
  · rfl
  · exact h p hp

/-! ## What can be written -/

theorem mapM_isSome_iff {α β : Type} {f : α → Option β} {xs : List α} :
    (xs.mapM f).isSome = true ↔ ∀ x ∈ xs, (f x).isSome = true := by
  induction xs with
  | nil => simp
  | cons x xs ih =>
    rw [List.mapM_cons, List.forall_mem_cons, ← ih]
    cases f x <;> cases xs.mapM f <;> simp

/-- Whether a half in a text keeps a byte, so that the text has bytes. -/
def HasBytes (t : Text) : Prop := ∀ p ∈ t, p.isHalf = true → (keptByte? p).isSome = true

theorem hasBytes_of_not_holdsHalf {t : Text} (h : t.holdsHalf = false) : HasBytes t := by
  intro p hp hhalf
  rw [holdsHalf_eq_false_iff.mp h p hp] at hhalf
  cases hhalf

/-- A text has bytes unless a half in it keeps none. -/
theorem utf8Escaped?_isSome_iff {t : Text} : (utf8Escaped? t).isSome = true ↔ HasBytes t := by
  rw [utf8Escaped?, Option.isSome_map, mapM_isSome_iff]
  refine forall_congr' fun p => imp_congr_right fun _ => ?_
  cases p with
  | char c => simp [utf8Point?, Point.isHalf]
  | half n => simp [utf8Point?, Point.isHalf]

theorem headerValue_of_not_holdsHalf {t : Text} (h : t.holdsHalf = false) :
    headerValue t = .ok t := by
  rw [headerValue, h]
  rfl

/-- The value of a header can be written exactly if its halves keep bytes. -/
theorem exists_headerValue_iff {t : Text} : (∃ v, headerValue t = .ok v) ↔ HasBytes t := by
  cases hhalf : t.holdsHalf with
  | false => exact ⟨fun _ => hasBytes_of_not_holdsHalf hhalf,
      fun _ => ⟨t, headerValue_of_not_holdsHalf hhalf⟩⟩
  | true =>
    rw [← utf8Escaped?_isSome_iff, headerValue, hhalf]
    cases hbytes : utf8Escaped? t with
    | none => simp
    | some bytes => simp

/-- A text can be written unless it holds a half of a surrogate pair. -/
theorem exists_writtenChars_iff {t : Text} :
    (∃ cs, writtenChars t = .ok cs) ↔ t.holdsHalf = false := by
  have hchars : (chars? t).isSome = true ↔ t.holdsHalf = false := by
    rw [chars?, mapM_isSome_iff, holdsHalf_eq_false_iff]
    refine forall_congr' fun p => imp_congr_right fun _ => ?_
    cases p <;> simp [Point.char?, Point.isHalf]
  rw [← hchars, writtenChars]
  cases chars? t <;> simp

/-! ## Composing -/

/-- Whether the text of an alert can be written in a mail. -/
structure Writable (a : Alert) : Prop where
  subject : HasBytes (readText (subjectLine a.message))
  details : a.details.holdsHalf = false

/-- A mail that is composed has an address, a subject and details that could be written. -/
theorem exists_of_compose_eq_ok {nesting : Nesting} {recipient : Text} {a : Alert} {m : Message}
    (h : compose nesting recipient a = .ok m) :
    ∃ address details, addressValue nesting recipient = .ok address ∧
      headerValue (readText (subjectLine a.message)) = .ok m.subject ∧
      writtenChars a.details = .ok details := by
  unfold compose at h
  cases haddress : addressValue nesting recipient with
  | error f =>
    rw [haddress] at h
    cases h
  | ok address =>
    cases hsubject : subjectValue (subjectLine a.message) with
    | error f =>
      rw [haddress, hsubject] at h
      cases h
    | ok subject =>
      cases hdetails : writtenChars a.details with
      | error f =>
        rw [haddress, hsubject, hdetails] at h
        cases h
      | ok details =>
        rw [haddress, hsubject, hdetails] at h
        obtain rfl := Except.ok.inj h
        exact ⟨address, details, rfl, hsubject, rfl⟩

/-- A mail can be composed exactly if there is an address and the text can be written. -/
theorem exists_compose_iff {nesting : Nesting} {recipient : Text} {a : Alert} :
    (∃ m, compose nesting recipient a = .ok m) ↔
      (∃ address, addressValue nesting recipient = .ok address) ∧ Writable a := by
  constructor
  · rintro ⟨m, h⟩
    obtain ⟨address, details, haddress, hsubject, hdetails⟩ := exists_of_compose_eq_ok h
    exact ⟨⟨address, haddress⟩, exists_headerValue_iff.mp ⟨_, hsubject⟩,
      exists_writtenChars_iff.mp ⟨_, hdetails⟩⟩
  · rintro ⟨⟨address, haddress⟩, hwritable⟩
    obtain ⟨subject, hsubject⟩ := exists_headerValue_iff.mpr hwritable.subject
    obtain ⟨details, hdetails⟩ := exists_writtenChars_iff.mpr hwritable.details
    have hvalue : subjectValue (subjectLine a.message) = .ok subject := hsubject
    refine ⟨⟨address, subject, Body.ofText details⟩, ?_⟩
    rw [compose, haddress, hvalue, hdetails]
    rfl

/-! ## Plain alerts -/

/-- Whether nothing but text that can be written comes out of an alert: no half of a surrogate pair
stands in it, and no encoded word of its subject line brings in a half or a line end. -/
structure Plain (a : Alert) : Prop where
  message : a.message.holdsHalf = false
  details : a.details.holdsHalf = false
  words : ∀ t ∈ encodedTexts (subjectLine a.message), t.holdsHalf = false ∧ ¬ t.HoldsLineEnd

variable {recipient : Text} {a : Alert} {m : Message}

/-- No half is read where there is none in the message or in an encoded word. -/
theorem holdsHalf_readText (hmessage : a.message.holdsHalf = false)
    (hwords : ∀ t ∈ encodedTexts (subjectLine a.message), t.holdsHalf = false) :
    (readText (subjectLine a.message)).holdsHalf = false := by
  rw [holdsHalf_eq_false_iff]
  intro p hp
  rcases mem_readText hp with hp | ⟨t, ht, hp⟩
  · exact holdsHalf_eq_false_iff.mp (holdsHalf_subjectLine hmessage) p hp
  · exact holdsHalf_eq_false_iff.mp (hwords t ht) p hp

theorem Plain.writable (h : Plain a) : Writable a where
  subject := hasBytes_of_not_holdsHalf (holdsHalf_readText h.message fun t ht => (h.words t ht).1)
  details := h.details

/-- Line ends come into the text that is read from encoded words alone. -/
theorem holdsLineEnd_readText_iff {message : Text} :
    (readText (subjectLine message)).HoldsLineEnd ↔
      ∃ t ∈ encodedTexts (subjectLine message), t.HoldsLineEnd := by
  constructor
  · rintro ⟨p, hp, hend⟩
    rcases mem_readText hp with hp | ⟨t, ht, hp⟩
    · exact absurd ⟨p, hp, hend⟩ (not_holdsLineEnd_subjectLine message)
    · exact ⟨t, ht, p, hp, hend⟩
  · rintro ⟨t, ht, p, hp, hend⟩
    exact ⟨p, mem_readText_of_mem_encodedTexts ht hp, hend⟩

/-- An alert without halves whose subject line opens no encoded word is plain. -/
theorem plain_of_no_mark (hmessage : a.message.holdsHalf = false)
    (hdetails : a.details.holdsHalf = false)
    (hmark : ¬ Text.ofString "=?" <:+: subjectLine a.message) : Plain a where
  message := hmessage
  details := hdetails
  words := by simp [encodedTexts_of_no_mark hmark]

/-- Without halves, the subject of a mail is what its line is read as. -/
theorem subject_of_compose (h : compose nesting recipient a = .ok m)
    (hmessage : a.message.holdsHalf = false)
    (hwords : ∀ t ∈ encodedTexts (subjectLine a.message), t.holdsHalf = false) :
    m.subject = readText (subjectLine a.message) := by
  obtain ⟨-, -, -, hsubject, -⟩ := exists_of_compose_eq_ok h
  rw [headerValue_of_not_holdsHalf (holdsHalf_readText hmessage hwords)] at hsubject
  exact (Except.ok.inj hsubject).symm

/-- Whether there is a mail at all is up to the recipient, as long as alerts are plain; each alert
that is not falls short of a mail exactly if its text cannot be written. A mail has one subject, and
line ends come into it through encoded words and halves only. -/
theorem headers_withstand_plain_alerts (nesting : Nesting) (recipient : Text) :
    ((∀ a, Plain a → ∃ m, compose nesting recipient a = .ok m) ∨
      ∃ f, ∀ a, compose nesting recipient a = .error f) ∧
    (∀ a, (∃ m, compose nesting recipient a = .ok m) ↔
      (∃ address, addressValue nesting recipient = .ok address) ∧ Writable a) ∧
    ∀ a m, compose nesting recipient a = .ok m →
      m.headers.filter (·.1 == "Subject") = [("Subject", m.subject)] ∧
      (Plain a → ¬ m.subject.HoldsLineEnd) ∧
      (a.message.holdsHalf = false →
        (∀ t ∈ encodedTexts (subjectLine a.message), t.holdsHalf = false) →
        (m.subject.HoldsLineEnd ↔
          ∃ t ∈ encodedTexts (subjectLine a.message), t.HoldsLineEnd)) ∧
      (a.message.holdsHalf = false → ¬ Text.ofString "=?" <:+: subjectLine a.message →
        m.subject = subjectLine a.message) := by
  refine ⟨?_, fun a => exists_compose_iff, fun a m h => ⟨?_, ?_, ?_, ?_⟩⟩
  · cases haddress : addressValue nesting recipient with
    | ok address =>
      left
      intro a hplain
      exact exists_compose_iff.mpr ⟨⟨address, haddress⟩, hplain.writable⟩
    | error f =>
      right
      refine ⟨f, fun a => ?_⟩
      rw [compose, haddress]
      rfl
  · rfl
  · intro hplain hend
    have hhalf : ∀ t ∈ encodedTexts (subjectLine a.message), t.holdsHalf = false :=
      fun t ht => (hplain.words t ht).1
    rw [subject_of_compose h hplain.message hhalf, holdsLineEnd_readText_iff] at hend
    obtain ⟨t, ht, hend⟩ := hend
    exact (hplain.words t ht).2 hend
  · intro hmessage hhalf
    rw [subject_of_compose h hmessage hhalf]
    exact holdsLineEnd_readText_iff
  · intro hmessage hmark
    have hnone : encodedTexts (subjectLine a.message) = [] := encodedTexts_of_no_mark hmark
    rw [subject_of_compose h hmessage (by simp [hnone])]
    exact readText_of_no_word hnone

/-- A node in trouble, with a message. -/
def trouble (message : Text) : Alert := ⟨"node1", [], [], .critical, message, []⟩

/-- An encoded line feed ends the line of a subject, and to a recipient who gets that mail, a mail
with an encoded half cannot be composed. -/
theorem encoded_words_break_subjects :
    (∃ m, compose {} "ops@example.org" (trouble "=?utf-8?q?a=0Ab?=") = .ok m ∧
      m.subject.HoldsLineEnd) ∧
    ∃ f, compose {} "ops@example.org" (trouble "=?utf-7?q?+2AA-?=") = .error f := by
  constructor
  · have hsubject : (compose {} "ops@example.org" (trouble "=?utf-8?q?a=0Ab?=")).toOption.map
        (·.subject) = some (Text.ofString "a\nb") := by
      decide +kernel
    cases h : compose {} "ops@example.org" (trouble "=?utf-8?q?a=0Ab?=") with
    | error f =>
      rw [h] at hsubject
      cases hsubject
    | ok m =>
      rw [h] at hsubject
      have heq : m.subject = Text.ofString "a\nb" := Option.some.inj hsubject
      exact ⟨m, rfl, .char '\n', by rw [heq]; decide, rfl⟩
  · have hnone : (compose {} "ops@example.org" (trouble "=?utf-7?q?+2AA-?=")).toOption = none := by
      decide +kernel
    cases h : compose {} "ops@example.org" (trouble "=?utf-7?q?+2AA-?=") with
    | error f => exact ⟨f, rfl⟩
    | ok m =>
      rw [h] at hnone
      cases hnone

end AlertRelay.Mail
