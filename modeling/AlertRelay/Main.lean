import AlertRelay.Command.Run

/-!
# The command line

Reads the file of settings and carries out the command line in a rehearsal: every service accepts
what is posted to it, and no domain has a mail server. The log goes to standard error.
-/

namespace AlertRelay.Command

def helpText : String :=
  String.intercalate "\n"
    (("usage: " ++ programName ++ " [-h] --node NODE --message MESSAGE [options]") ::
      Switch.all.map fun s => "  " ++ s.name)

/-- The file that a path names, as the only file there is; none if it cannot be found. -/
def readFiles (path : String) : IO Config.Files := do
  try
    let text ← IO.FS.readFile path
    pure (Config.Files.ofPaths [(path, some text)])
  catch
    | .noFileOrDirectory _ _ _ => pure (Config.Files.ofPaths [])
    | _ => pure (Config.Files.ofPaths [(path, none)])

def settingsPath (arguments : List String) : String :=
  match Request.ofArguments arguments with
  | .ok (.run o) => Config.pathOrDefault o.config
  | _ => Config.defaultPath

/-- What is said of an end other than an exit code, and the exit code. -/
def Ending.report : Ending → List Text × UInt32
  | .exit (.int n) => ([], UInt32.ofNat (n % 256).toNat)
  | .exit .null => ([], 0)
  | .exit code => ([code.display], 1)
  | .failed (.fault f) => ([f.kind ++ ": " ++ f.text], 1)
  | .failed (.panic text) => (["panic: " ++ text], 1)
  | .failed (.stop _) => ([], 1)
  | .notLoaded .malformed => (["the settings are malformed"], 1)
  | .notLoaded (.fault f) => ([f.kind ++ ": " ++ f.text], 1)
  | .notLoaded (.rejected r) => (r.issues.map fun i => Text.ofString i.problem.message, 1)
  | .rejected r => (r.issues.map fun i => Text.ofString i.problem.message, 1)

/-- A text as a terminal shows it: a lone half of a surrogate pair by its number. -/
def shown (t : Text) : String :=
  String.ofList (t.flatMap fun
    | .char c => [c]
    | .half n => Text.numberEscape (Point.half n).toNat)

end AlertRelay.Command

open AlertRelay.Command in
def main (arguments : List String) : IO UInt32 := do
  match perform (← readFiles (settingsPath arguments)) {} arguments with
  | .help =>
    IO.println helpText
    pure 0
  | .misused e =>
    IO.eprintln (shown e.report)
    pure 2
  | .finished r =>
    let time := toString (← IO.monoMsNow) ++ "ms"
    let (said, code) := r.ending.report
    for line in r.lines time ++ said do
      IO.eprintln (shown line)
    pure code
