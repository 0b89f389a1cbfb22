import GateOperator.Json.Writer
import GateOperator.Log.Basic

/-!
Log entries as lines, for people or for programs.
-/

namespace GateOperator.Log

/-- How entries are shown. -/
inductive Format where
  | text
  | json
deriving DecidableEq

def Format.ofSetting (setting : Option String) : Format :=
  if setting.map (·.map Char.toLower) = some "json" then json else text

namespace Entry

def record (e : Entry) : Value := .record [
  ("level", .text e.level.text), ("fields", .record (("message", .text e.message) :: e.fields))]

/-- The words for the value of a field. -/
def fieldText : Value → String
  | .text s => s
  | v => Json.write v

def line (e : Entry) : Format → String
  | .json => Json.write e.record
  | .text => " ".intercalate
      (e.level.text :: (e.target ++ ":") :: e.message :: e.fields.map fun f => f.1 ++ "=" ++ fieldText f.2)

end Entry

end GateOperator.Log
