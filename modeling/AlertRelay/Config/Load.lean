import AlertRelay.Config.Files
import AlertRelay.Config.Settings
import AlertRelay.Yaml.Document

/-!
# Loading settings

Settings come from a document in a file; without the file, or without a map in it, every setting has
its default. The settings that were loaded last are kept until they are reset; a load that fails
changes nothing, and getting the settings loads them only if none are kept.
-/

namespace AlertRelay.Config

inductive LoadError where
  | malformed
  | fault (f : Fault)
  | rejected (r : Rejection)

def defaultPath : String := "config/settings.yaml"

/-- The path of the file to load: an empty one names none. -/
def pathOrDefault (path : Option String) : String :=
  match path with
  | some path => if path.isEmpty then defaultPath else path
  | none => defaultPath

def directoryFault (path : String) : Fault :=
  ⟨"IsADirectoryError", "[Errno 21] Is a directory: " ++ Text.quoted (plainPath path)⟩

def nameFault (path : String) : Fault :=
  ⟨"OSError", "[Errno 36] File name too long: " ++ Text.quoted (plainPath path)⟩

def hasTextKeys (es : List (Value × Value)) : Bool :=
  es.all fun (k, _) => k matches .text _

/-- The entries of the settings in a value; one that is no map has none. -/
def settingEntries : Value → Except LoadError (List (Value × Value))
  | .map es =>
    if hasTextKeys es then .ok es else .error (.fault ⟨"TypeError", "keywords must be strings"⟩)
  | _ => .ok []

def settingsOfText (s : String) : Except LoadError Settings :=
  match Yaml.read s with
  | .error .malformed => .error .malformed
  | .error (.invalid f) => .error (.fault f)
  | .ok v => do (Settings.ofEntries (← settingEntries v)).mapError .rejected

def loadSettings (files : Files) (path : Option String) : Except LoadError Settings :=
  let path := pathOrDefault path
  match files.find path with
  | .missing => .ok {}
  | .nameTooLong => .error (.fault (nameFault path))
  | .directory => .error (.fault (directoryFault path))
  | .text s => settingsOfText s

/-! ### Kept settings -/

/-- Settings as they were loaded, told apart by the number of the load. -/
structure Loaded where
  number : Nat
  settings : Settings

structure Cache where
  kept : Option Loaded := none
  loads : Nat := 0

namespace Cache

/-- Loads settings and keeps them; a load that fails changes nothing. -/
def load (c : Cache) (files : Files) (path : Option String) : Except LoadError Loaded × Cache :=
  match loadSettings files path with
  | .error e => (.error e, c)
  | .ok settings =>
    let loaded := ⟨c.loads, settings⟩
    (.ok loaded, ⟨some loaded, c.loads + 1⟩)

/-- The kept settings; the default file is loaded if there are none. -/
def get (c : Cache) (files : Files) : Except LoadError Loaded × Cache :=
  match c.kept with
  | some loaded => (.ok loaded, c)
  | none => c.load files none

def reset (c : Cache) : Cache := { c with kept := none }

end Cache

end AlertRelay.Config
