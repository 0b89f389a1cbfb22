import GateOperator.Arguments.Command
import GateOperator.Log.Basic

/-!
The help on the program and its modes.
-/

namespace GateOperator.Arguments

/-- Lines of two columns; the first one is as wide as its longest entry. -/
def columns (rows : List (String × String)) : List String :=
  let width := (rows.map fun row => row.1.length).foldl max 0
  rows.map fun row => "  " ++ row.1 ++ String.ofList (List.replicate (width - row.1.length + 2) ' ') ++ row.2

/-- The variable that an option falls back on, as it is told. -/
def fallbackText {σ : Type} (p : Parameter σ) : String :=
  match p.fallback with
  | none => ""
  | some name => " [env: " ++ name ++ "]"

/-- The lines about options. -/
def optionLines {σ : Type} (g : Grammar σ) : List String :=
  "Options:" :: columns (
    g.parameters.map (fun p => (p.shown, p.about ++ fallbackText p)) ++
    [("-h, --help", "Print help")] ++ if g.mode = none then [("-V, --version", "Print version")] else [])

/-- The lines about modes. -/
def modeLines : List String :=
  "Commands:" :: columns (
    Mode.all.map (fun m => (m.name, m.about)) ++
    [(Grammar.helpWord, "Print this message or the help of the given subcommand(s)")])

def programAbout : String :=
  "Cluster configuration operator for Kubernetes: feature gate resolution and status reconciliation"

/-- The help on a mode, or on the program itself. -/
def helpText (mode : Option Mode) : String :=
  let lines := match mode with
    | none =>
      [programAbout, "", "Usage: " ++ Log.program ++ " [OPTIONS]", "       " ++ Log.program ++ " <COMMAND>", ""] ++
        modeLines ++ [""] ++ optionLines Command.grammar
    | some .operator =>
      [Mode.operator.about, "", "Usage: " ++ Log.program ++ " operator [OPTIONS]", ""] ++
        optionLines Command.operatorGrammar
    | some .render =>
      [Mode.render.about, "", "Usage: " ++ Log.program ++
        " render [OPTIONS] --authoritative-feature-gate-dir <AUTHORITATIVE_FEATURE_GATE_DIR>" ++
        " --rendered-manifest-files <RENDERED_MANIFEST_FILES>...", ""] ++
        optionLines Command.renderGrammar
  "\n".intercalate lines ++ "\n"

end GateOperator.Arguments
