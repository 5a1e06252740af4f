import AlertRelay.Config.Settings
import AlertRelay.Failure
import AlertRelay.Text.Case

/-!
# Setting up the log

The level below which calls are not written is named by a text, which falls back to the level of
information if it names none. Two texts name something that is no level; setting up the log fails
for them after the old writers are gone.
-/

namespace AlertRelay.Log

inductive Format where
  | json
  | console
  deriving DecidableEq

/-- The format of a name: every name but one is that of the console. -/
def Format.ofName (name : Text) : Format := if name = "json" then .json else .console

def levels : List (String × Nat) :=
  [("CRITICAL", 50), ("FATAL", 50), ("ERROR", 40), ("WARNING", 30), ("WARN", 30), ("INFO", 20),
    ("DEBUG", 10), ("NOTSET", 0)]

def infoLevel : Nat := 20

def basicFormat : String := "%(levelname)s:%(name)s:%(message)s"

/-- What the name of the table of styles stands for, as it is written. -/
def stylesText : String :=
  "\x7b'%': (<class 'logging.PercentStyle'>, '%(levelname)s:%(name)s:%(message)s'), " ++
    "'\x7b': (<class 'logging.StrFormatStyle'>, " ++
    "'\x7blevelname\x7d:\x7bname\x7d:\x7bmessage\x7d'), " ++
    "'$': (<class 'logging.StringTemplateStyle'>, " ++
    "'$\x7blevelname\x7d:$\x7bname\x7d:$\x7bmessage\x7d')\x7d"

/-- The level that a text names in any case. -/
def levelOf (name : Text) : Except Fault Nat :=
  match Text.asciiUpper? name with
  | none => .ok infoLevel
  | some upper =>
    match levels.lookup upper with
    | some level => .ok level
    | none =>
      if upper = "BASIC_FORMAT" then
        .error ⟨"ValueError", "Unknown level: " ++ Text.quoted basicFormat⟩
      else if upper = "_STYLES" then
        .error ⟨"TypeError", "Level not an integer or a valid string: " ++ stylesText⟩
      else .ok infoLevel

/-- One who writes the calls of the log: in a format, and since a certain setting up of the log,
which tells it apart from every other. -/
structure Writer where
  format : Format
  number : Nat
  deriving DecidableEq

/-- The log: who writes its calls, the level from which on they are written, and how often the log
was set up. -/
structure Root where
  writers : List Writer := []
  level : Nat := 30
  setUps : Nat := 0
  deriving DecidableEq

/-- A text that takes the place of another unless it is empty or missing. -/
def override (given : Option Text) (configured : Text) : Text :=
  match given with
  | some s => if s.isEmpty then configured else s
  | none => configured

/-- Sets up the log by the settings, of which level and format can be overridden. A new writer takes
the place of all others. -/
def Root.setUp (root : Root) (c : LoggingConfig) (level format : Option Text) :
    Except Fault Unit × Root :=
  let writer : Writer := ⟨Format.ofName (override format c.format), root.setUps⟩
  let root := { root with writers := [writer], setUps := root.setUps + 1 }
  match levelOf (override level c.level) with
  | .ok n => (.ok (), { root with level := n })
  | .error f => (.error f, root)

end AlertRelay.Log
