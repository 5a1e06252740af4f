import AlertRelay.Channel.Console
import AlertRelay.Proofs.Run
import AlertRelay.Proofs.Text.Lines
import AlertRelay.Proofs.Text.Strings

/-!
# What a console writes before it ends a delivery

A console writes an alert line by line: its message, and its details cut at every line feed. These
lines are known by what they hold (`writtenAs_iff`): nothing of the details is lost, and none of
them is cut too seldom. All of them are written, at the severity of the configured level, before the
delivery ends in any way, and at a name that is no level nothing is written
(`deliver_ends_after_lines`).
-/

namespace AlertRelay

/-! ## Programs that show entries and end -/

namespace Program

variable {α : Type} {p : Program α} {es : List Entry} {x : Except Failure α}

/-- Whether a program shows entries, changes nothing else, and only then ends with a result. It does
so without a wait, be it run on its own or in its turn among others. -/
structure EndsAfter (p : Program α) (es : List Entry) (x : Except Failure α) : Prop where
  run : ∀ w, p.run w = (x, { w with trace := w.trace ++ es })
  advance : ∀ w, p.advance w = (.ended x, { w with trace := w.trace ++ es })

theorem endsAfter_ofExcept (x : Except Failure α) : (ofExcept x).EndsAfter [] x := by
  cases x with
  | ok a => constructor <;> simp [ofExcept, advance]
  | error f => constructor <;> simp [ofExcept, advance]

/-- An entry that is noted first is seen first. -/
theorem EndsAfter.note (h : p.EndsAfter es x) (e : Entry) :
    (Program.note e >>= fun _ => p).EndsAfter (e :: es) x := by
  have hworld : ∀ w : World,
      { w.see e with trace := (w.see e).trace ++ es } = { w with trace := w.trace ++ e :: es } := by
    intro w
    simp [World.see]
  constructor
  · intro w
    rw [← hworld]
    exact h.run (w.see e)
  · intro w
    rw [← hworld]
    exact h.advance (w.see e)

end Program

namespace Console

open Program

/-! ## The lines of an alert -/

/-- Whether lines are an alert as it is written: its message first, and then its details, cut at
every line feed and nowhere else. -/
structure WrittenAs (a : Alert) (written : List Text) : Prop where
  message : written.head? = some a.message
  details : Text.joinWith [.char '\n'] written.tail = a.details
  cut : ∀ line ∈ written.tail, .char '\n' ∉ line
  none : a.details = [] → written.tail = []

theorem tail_lines (a : Alert) :
    (lines a).tail = if a.details.isEmpty then [] else Text.fields (.char '\n') a.details := rfl

theorem writtenAs_lines (a : Alert) : WrittenAs a (lines a) where
  message := rfl
  details := by
    rw [tail_lines]
    split
    · next hempty => exact (List.isEmpty_iff.mp hempty).symm
    · exact Text.joinWith_fields _ _
  cut := by
    rw [tail_lines]
    split
    · exact fun _ h => absurd h List.not_mem_nil
    · exact fun _ => Text.not_mem_of_mem_fields
  none := by
    intro hnone
    rw [tail_lines, hnone]
    rfl

/-- The lines are the only ones that an alert can be written as. -/
theorem writtenAs_iff {a : Alert} {written : List Text} :
    WrittenAs a written ↔ written = lines a := by
  constructor
  · intro h
    obtain ⟨rest, rfl⟩ := List.head?_eq_some_iff.mp h.message
    have hdetails : Text.joinWith [.char '\n'] rest = a.details := h.details
    rw [lines]
    congr 1
    split
    · next hempty => exact h.none (List.isEmpty_iff.mp hempty)
    · next hne =>
      -- Details that are not empty have at least one line.
      have hrest : rest ≠ [] := by
        rintro rfl
        exact hne (by rw [← hdetails]; rfl)
      rw [← hdetails, Text.fields_joinWith hrest h.cut]
  · rintro rfl
    exact writtenAs_lines a

/-! ## The levels -/

/-- The names of the levels, each with the severity of the calls that are made at it. -/
def severities : List (String × Severity) :=
  [("panic", .critical), ("fatal", .critical), ("error", .error), ("warn", .warning),
    ("warning", .warning), ("info", .info), ("debug", .debug)]

/-- How a delivery at a level ends when the alert is written. -/
def endingAt (level : String) (name : Text) (a : Alert) : Except Failure Outcome :=
  if level = "panic" then .error (.panic a.message)
  else if level = "fatal" then .error (.stop (.int 1))
  else .ok ⟨name, true, 1, [], []⟩

def lineCall (severity : Severity) (logger : Logger) (datacenter : Text) (a : Alert)
    (line : Text) : LogCall :=
  ⟨severity, logger, line,
    [("datacenter", .text datacenter), ("node", .text a.node), ("service", .text a.service)], none⟩

def Level.ending (level : Level) (name : Text) (a : Alert) : Except Failure Outcome :=
  match level with
  | .panic => .error (.panic a.message)
  | .fatal => .error (.stop (.int 1))
  | _ => .ok ⟨name, true, 1, [], []⟩

/-- Each name that levels go by is that of a level, with its severity and its ending. -/
theorem exists_ofName? {level : String} {severity : Severity} (h : (level, severity) ∈ severities) :
    ∃ known, Level.ofName? (Text.ofString level) = some known ∧ known.severity = severity ∧
      ∀ name a, known.ending name a = endingAt level name a := by
  simp only [severities, List.mem_cons, Prod.mk.injEq, List.not_mem_nil, or_false] at h
  rcases h with ⟨rfl, rfl⟩ | ⟨rfl, rfl⟩ | ⟨rfl, rfl⟩ | ⟨rfl, rfl⟩ | ⟨rfl, rfl⟩ | ⟨rfl, rfl⟩ |
    ⟨rfl, rfl⟩
  all_goals exact ⟨_, rfl, rfl, fun _ _ => rfl⟩

/-- No other name is that of a level. -/
theorem ofName?_eq_none {name : Text} (h : ∀ entry ∈ severities, name ≠ Text.ofString entry.1) :
    Level.ofName? name = none := by
  have hno : ∀ entry ∈ severities, name.string? ≠ some entry.1 := by
    intro entry hentry hname
    exact h entry hentry (Text.string?_eq_some_iff.mp hname)
  simp only [severities, List.forall_mem_cons] at hno
  obtain ⟨hpanic, hfatal, herror, hwarn, hwarning, hinfo, hdebug, -⟩ := hno
  unfold Level.ofName?
  split
  · next hname => exact absurd hname hpanic
  · next hname => exact absurd hname hfatal
  · next hname => exact absurd hname herror
  · next hname => exact absurd hname hwarn
  · next hname => exact absurd hname hwarning
  · next hname => exact absurd hname hinfo
  · next hname => exact absurd hname hdebug
  · rfl

/-! ## Deliveries -/

/-- The lines are written in front of what follows. -/
theorem endsAfter_logLines {p : Program Outcome} {es : List Entry} {x : Except Failure Outcome}
    (h : p.EndsAfter es x) (logger : Logger) (severity : Severity)
    (fields : List (String × Value)) (written : List Text) :
    (logLines logger severity fields written >>= fun _ => p).EndsAfter
      ((written.map fun line => .log ⟨severity, logger, line, fields, none⟩) ++ es) x := by
  induction written with
  | nil => exact h
  | cons line rest ih => exact ih.note (.log ⟨severity, logger, line, fields, none⟩)

/-- At a level that is known, every line is written before the delivery ends. -/
theorem endsAfter_deliver {c : ConsoleConfig} {known : Level}
    (h : Level.ofName? (levelName c) = some known) (name : Text) (logger : Logger)
    (datacenter : Text) (a : Alert) :
    (deliver c name logger datacenter a).EndsAfter
      ((lines a).map fun line => .log (lineCall known.severity logger datacenter a line))
      (known.ending name a) := by
  have hend : (ofExcept (known.ending name a)).EndsAfter [] (known.ending name a) :=
    endsAfter_ofExcept _
  have hlines := endsAfter_logLines hend logger known.severity
    [("datacenter", .text datacenter), ("node", .text a.node), ("service", .text a.service)]
    (lines a)
  rw [List.append_nil] at hlines
  unfold deliver
  rw [h]
  cases known with
  | _ => exact hlines

/-- **A console writes the whole alert before the delivery ends.** An alert can be written in lines
in one way only. If the configured text, without the blanks around it and in small letters, names a
level, all of them are written, in order and at its severity, and only then does the delivery end:
in a panic, in a stop, or with a success. At any other text nothing is written, and the delivery
fails. -/
theorem deliver_ends_after_lines (c : ConsoleConfig) (name : Text) (logger : Logger)
    (datacenter : Text) (a : Alert) :
    ∃ written, (∀ ls, WrittenAs a ls ↔ ls = written) ∧
      (∀ level severity, (level, severity) ∈ severities →
        Text.lower (Text.strip c.logLevel) = Text.ofString level →
        ((handler c name logger).deliver datacenter a).EndsAfter
          (written.map fun line => .log (lineCall severity logger datacenter a line))
          (endingAt level name a)) ∧
      ((∀ entry ∈ severities, Text.lower (Text.strip c.logLevel) ≠ Text.ofString entry.1) →
        ((handler c name logger).deliver datacenter a).EndsAfter []
          (.ok ⟨name, false, 0,
            ["unknown log level: " ++ Text.quoted (Text.lower (Text.strip c.logLevel))], []⟩)) := by
  refine ⟨lines a, fun ls => writtenAs_iff, ?_, ?_⟩
  · intro level severity hlevel hname
    obtain ⟨known, hknown, rfl, hending⟩ := exists_ofName? hlevel
    rw [← hname] at hknown
    rw [← hending]
    exact endsAfter_deliver hknown name logger datacenter a
  · intro hother
    have hunknown : Level.ofName? (levelName c) = none := ofName?_eq_none hother
    show (deliver c name logger datacenter a).EndsAfter _ _
    unfold deliver
    rw [hunknown]
    exact endsAfter_ofExcept (.ok _)

/-- The level panic in capitals between blanks: four lines, one of them empty, and then the
panic. -/
theorem deliver_ends_after_lines_panic :
    let a : Alert := ⟨"node1", "web", "v2", .critical, "down", "one\n\ntwo"⟩
    let written : List Text := ["down", "one", "", "two"]
    ((handler ⟨" PANIC "⟩ "ops" .channels).deliver "dc1" a).EndsAfter
      (written.map fun line => .log (lineCall .critical .channels "dc1" a line))
      (.error (.panic "down")) := by
  intro a written
  obtain ⟨lines, hlines, hknown, -⟩ :=
    deliver_ends_after_lines ⟨" PANIC "⟩ "ops" .channels "dc1" a
  obtain rfl : written = lines := (hlines written).mp ⟨rfl, rfl, by decide, nofun⟩
  have hlevel : Text.lower (Text.strip " PANIC ") = Text.ofString "panic" := by decide +kernel
  exact hknown "panic" .critical (by simp [severities]) hlevel

end Console

end AlertRelay
