import GateOperator.Log.Format
import GateOperator.Program.Run

/-!
The command line. It gathers what a run finds, runs the program, and carries out what the run leaves. When
manifests are rendered, the paths of the files below the directory of manifests are read from the standard
input, one a line. No server of a cluster can be reached from here, so the operator only gets as far as
asking for one.
-/

namespace GateOperator

namespace CommandLine

/-- The variables that the program looks at. -/
def consulted : List String :=
  ["RUST_LOG", "RUST_LOG_FORMAT"] ++ OperatorSettings.parameters.filterMap (·.fallback)

/-- The variables that are set. -/
def readEnvironment : IO Arguments.Environment := do
  let values ← consulted.filterMapM fun name => return (← IO.getEnv name).map fun value => (name, value)
  return fun name => values.lookup name

/-- The content of a file that can be read. -/
def readFile? (path : String) : IO (Option ByteArray) := do
  try return some (← IO.FS.readBinFile path)
  catch _ => return none

/-- The tree of those files that can be read. -/
def readTree (paths : List String) : IO Files.Tree :=
  paths.foldlM
    (fun t path => return match ← readFile? path with
      | some content => t.plant path (.file content)
      | none => t)
    { root := .directory [(".", .directory [])], current := ["."] }

partial def readLines (input : IO.FS.Stream) : IO (List String) := do
  let line ← input.getLine
  if line.isEmpty then return []
  return (line.splitOn "\n").headD "" :: (← readLines input)

/-- The paths of the files that a command works on. -/
def filesOf : Except Arguments.ArgumentError Command → IO (List String)
  | .ok (.render r) => return r.inputs ++ (← readLines (← IO.getStdin))
  | .ok (.operator _) | .error _ => return []

/-- The files that a command may change. -/
def outputsOf : Except Arguments.ArgumentError Command → List String
  | .ok (.render r) => r.inputs
  | .ok (.operator _) | .error _ => []

/-- Writes a file that has changed. -/
def writeFile (before after : Files.Tree) (path : String) : IO Unit := do
  match before.readText path, after.readText path with
  | .ok old, .ok new => if old ≠ new then IO.FS.writeBinFile path new.toUTF8
  | _, _ => return

end CommandLine

end GateOperator

open GateOperator CommandLine in
/-- Runs the program. -/
def main (arguments : List String) : IO UInt32 := do
  let environment ← readEnvironment
  let command := Command.read environment arguments
  let files ← readTree (← filesOf command)
  let process := toString (← IO.monoMsNow)
  let r := Program.run { environment, files, process, server := none, isFree := fun _ => true } arguments
  (outputsOf command).forM (writeFile files r.files)
  (r.notice.toList).forM fun notice => IO.print notice
  (r.shown environment).forM fun e => IO.println (e.line (.ofSetting (environment "RUST_LOG_FORMAT")))
  (r.complaint.toList).forM IO.eprintln
  match r.ending with
  | .exit code => return code.toUInt32
  | .waiting | .running _ _ => return 0
