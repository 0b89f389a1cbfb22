import GateOperator.Data.Value
import GateOperator.Decimal.Shortest

/-!
Writing values as JSON on one line. Characters outside ASCII are written by their UTF-16 code units.
-/

namespace GateOperator.Json

/-- A code unit as an escape with four digits. -/
def unitEscape (unit : Nat) : String :=
  let digits := Nat.toDigits 16 unit
  "\\u" ++ String.ofList (List.replicate (4 - digits.length) '0' ++ digits)

/-- One character inside a text. -/
def escapeChar (c : Char) : String :=
  if c = '"' then "\\\""
  else if c = '\\' then "\\\\"
  else if c = '\n' then "\\n"
  else if c = '\r' then "\\r"
  else if c = '\t' then "\\t"
  else if 0x20 ≤ c.toNat ∧ c.toNat < 0x7F then c.toString
  else if c.toNat < 0x10000 then unitEscape c.toNat
  else
    let n := c.toNat - 0x10000
    unitEscape (0xD800 + n / 0x400) ++ unitEscape (0xDC00 + n % 0x400)

/-- A text in quotes. -/
def writeText (s : String) : String := s.foldl (fun out c => out ++ escapeChar c) "\"" ++ "\""

/-- A double; null where it has no number. -/
def writeReal (x : Float) : String :=
  String.ofList (Decimal.signed Decimal.scientific "null".toList "null".toList x)

mutual

/-- A value on one line. -/
def write : Value → String
  | .null => "null"
  | .bool b => if b then "true" else "false"
  | .int i => toString i
  | .real x => if x.isFinite then writeReal x else "null"
  | .text s => writeText s
  | .list [] => "[]"
  | .list (v :: items) => writeItems ("[" ++ write v) items
  | .record [] => "\x7b\x7d"
  | .record ((name, v) :: fields) => writeFields ("\x7b" ++ writeText name ++ ":" ++ write v) fields
  | .mapping _ => "null"
  | .tagged _ _ => "null"

/-- The items after the first, behind what has been written. -/
def writeItems (out : String) : List Value → String
  | [] => out ++ "]"
  | v :: items => writeItems (out ++ "," ++ write v) items

/-- The fields after the first, behind what has been written. -/
def writeFields (out : String) : List (String × Value) → String
  | [] => out ++ "\x7d"
  | (name, v) :: fields => writeFields (out ++ "," ++ writeText name ++ ":" ++ write v) fields

end

end GateOperator.Json
