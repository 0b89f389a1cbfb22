import GateOperator.Arguments.Help
import GateOperator.Program.Launch
import GateOperator.Render.Entries

/-!
A run of the program: its arguments are read, and what they ask for is done. What is logged is shown as the
environment says.
-/

namespace GateOperator.Program

def version : String := "0.3.0"

/-- What is told when the version is asked for. -/
def versionText : String := Log.program ++ " " ++ version ++ "\n"

/-- What is said about arguments that start nothing. -/
def usageText (message : String) : String :=
  "error: " ++ message ++ "\n\nFor more information, try '--help'."

/-- What a run leaves whose arguments start nothing. -/
def refuse (around : Surroundings) (e : Arguments.ArgumentError) : Result :=
  match e, e.message? with
  | .help mode, _ => { files := around.files, notice := some (Arguments.helpText mode), ending := .exit 0 }
  | .version, _ => { files := around.files, notice := some versionText, ending := .exit 0 }
  | _, message => { files := around.files, complaint := message.map usageText, ending := .exit 2 }

/-- Launches the operator. -/
def operator (around : Surroundings) (s : OperatorSettings) : Result :=
  match (Launch.run s around).run [] with
  | (.ok ending, entries) => { files := around.files, entries, ending }
  | (.error complaint, entries) => { files := around.files, entries, complaint := complaint.text, ending := .exit 1 }

/-- What is logged when everything is rendered. -/
def renderedEntry (count : Nat) : Log.Entry where
  level := .info
  target := Log.program
  message := "Rendered FeatureGate manifests"
  fields := [("rendered", .int count)]

/-- Renders manifests. -/
def render (around : Surroundings) (r : RenderRequest) : Result :=
  let entries := Render.entries around.files r
  match Render.run around.files r with
  | (files, .ok count) => { files, entries := entries ++ [renderedEntry count], ending := .exit 0 }
  | (files, .error e) =>
    let (doing, cause) := e.parts Manifest.malformedText
    { files, entries, complaint := (Complaint.mk doing cause).text, ending := .exit 1 }

/-- Runs the program. -/
def run (around : Surroundings) (arguments : List String) : Result :=
  match Command.read around.environment arguments with
  | .error e => refuse around e
  | .ok (.operator settings) => operator around settings
  | .ok (.render request) => render around request

def Result.shown (r : Result) (environment : Arguments.Environment) : List Log.Entry :=
  r.entries.filter (Log.Filter.ofSetting (environment "RUST_LOG")).shows

end GateOperator.Program
