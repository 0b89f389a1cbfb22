import GateOperator.Arguments.Settings

/-!
What a command line asks for. The options of the operator may also be given without its mode. The
environment sets them in either way; it is looked at even when another mode is chosen, so what is wrong in it
is always told.
-/

namespace GateOperator

/-- What a command line asks for. -/
inductive Command where
  | operator (settings : OperatorSettings)
  | render (request : RenderRequest)

namespace Command

open Arguments

/-- What can be given to the program itself. -/
def grammar : Grammar OperatorSettings := ⟨none, OperatorSettings.parameters⟩

/-- What can be given to the operator. -/
def operatorGrammar : Grammar OperatorSettings := ⟨some .operator, OperatorSettings.parameters⟩

/-- What can be given when manifests are rendered. -/
def renderGrammar : Grammar RenderRequest := ⟨some .render, RenderRequest.parameters⟩

/-- Reads the settings of a mode. -/
def readMode {σ : Type} (g : Grammar σ) (start : σ) (env : Environment) (arguments : List String) :
    Except ArgumentError σ := do
  let (s, _) ← g.scan { settings := start } arguments
  g.finish env s

/-- Reads what a mode is asked for. -/
def ofMode (env : Environment) (arguments : List String) : Mode → Except ArgumentError Command
  | .operator => (readMode operatorGrammar {} env arguments).map operator
  | .render => (readMode renderGrammar .empty env arguments).map render

/-- Reads a command line. Without a mode the operator is asked for. -/
def read (env : Environment) (arguments : List String) : Except ArgumentError Command := do
  let (s, chosen) ← grammar.scan { settings := {} } arguments
  match chosen with
  | none => return operator (← grammar.finish env s)
  | some (mode, rest) =>
    let command ← ofMode env rest mode
    let _ ← grammar.finish env s
    return command

end Command

end GateOperator
