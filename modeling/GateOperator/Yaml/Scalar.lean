import GateOperator.Data.Value
import GateOperator.Data.Word
import GateOperator.Decimal.Shortest

/-!
What plain scalars stand for: nothing, a truth value, a number, or else a text. Digits after a leading zero
are a text. Whole numbers fit 64 bits; those that do not but fit 128 bits are refused, and larger ones are
read as doubles.
-/

namespace GateOperator.Yaml

namespace Scalar

/-- The digits after a leading zero, behind a sign or not. -/
def isZeroPadded (text : List Char) : Bool :=
  let digits :=
    match text with
    | '-' :: rest => rest
    | '+' :: rest => rest
    | _ => text
  match digits with
  | '0' :: c :: rest => (c :: rest).all Char.isDigit
  | _ => false

/-- The words for nothing. -/
def isNullWord (text : String) : Bool := text = "null" || text = "Null" || text = "NULL" || text = "~"

/-- The truth value that a word stands for. -/
def bool? (text : String) : Option Bool :=
  if text = "true" || text = "True" || text = "TRUE" then some true
  else if text = "false" || text = "False" || text = "FALSE" then some false
  else none

/-- The value of a digit in a base. -/
def digit? (base : Nat) (c : Char) : Option Nat :=
  let n :=
    if '0' ≤ c ∧ c ≤ '9' then c.toNat - 0x30
    else if 'a' ≤ c ∧ c ≤ 'f' then c.toNat - 0x57
    else if 'A' ≤ c ∧ c ≤ 'F' then c.toNat - 0x37
    else 16
  if n < base then some n else none

/-- The value of one or more digits in a base. -/
def digits? (base : Nat) (text : List Char) : Option Nat :=
  if text.isEmpty then none else text.foldlM (fun n c => (digit? base c).map (n * base + ·)) 0

/-- The magnitude after the sign of a whole number: with the mark of a base, or decimal. -/
def magnitude? (isZeroPadded : Bool) : List Char → Option Nat
  | '0' :: 'x' :: rest => digits? 16 rest
  | '0' :: 'o' :: rest => digits? 8 rest
  | '0' :: 'b' :: rest => digits? 2 rest
  | text => if isZeroPadded then none else digits? 10 text

/-- The whole number that a text writes, of any size. -/
def integer? (text : List Char) : Option Int :=
  match text with
  | '-' :: rest => (magnitude? (isZeroPadded text) rest).map fun n => -(n : Int)
  | '+' :: rest => (magnitude? (isZeroPadded text) rest).map Int.ofNat
  | _ => (magnitude? (isZeroPadded text) text).map Int.ofNat

/-- The exponent at the end of a decimal number. -/
def exponent? : List Char → Option Int
  | [] => some 0
  | c :: rest =>
    if c = 'e' ∨ c = 'E' then
      match rest with
      | '-' :: digits => (digits? 10 digits).map fun n => -(n : Int)
      | '+' :: digits => (digits? 10 digits).map Int.ofNat
      | digits => (digits? 10 digits).map Int.ofNat
    else none

/-- The finite double that a decimal number without a sign writes. -/
def unsigned? (negative : Bool) (text : List Char) : Option Float := do
  let (whole, rest) := text.span Char.isDigit
  let (fraction, rest) :=
    match rest with
    | '.' :: rest => rest.span Char.isDigit
    | _ => ([], rest)
  if whole.isEmpty && fraction.isEmpty then none
  let exponent ← exponent? rest
  let digits := (whole ++ fraction).foldl (fun n c => n * 10 + (c.toNat - 0x30)) 0
  let x := Decimal.toFloat negative digits (exponent - fraction.length)
  if x.isFinite then some x else none

/-- The double that a text writes. -/
def real? (text : List Char) : Option Float :=
  let word (w : String) : Bool := text = w.toList
  let infinity : Float := 1.0 / 0.0
  match text with
  | '-' :: rest =>
    if word "-.inf" || word "-.Inf" || word "-.INF" then some (-infinity) else unsigned? true rest
  | '+' :: rest => if word "+.inf" || word "+.Inf" || word "+.INF" then some infinity else unsigned? false rest
  | _ =>
    if word ".inf" || word ".Inf" || word ".INF" then some infinity
    else if word ".nan" || word ".NaN" || word ".NAN" then some (0.0 / 0.0)
    else unsigned? false text

/-- What a whole number is read as; there is nothing for one that needs more than 64 and at most 128 bits. -/
inductive Whole where
  | fits (i : Int)
  | tooLarge
  | huge

/-- Where a whole number fits. -/
def whole (i : Int) : Whole :=
  if Word.Holds 64 i ∨ Word.HoldsSigned 64 i then .fits i
  else if Word.Holds 128 i ∨ Word.HoldsSigned 128 i then .tooLarge
  else .huge

/-- The value of a plain scalar without a tag. -/
def plain? (text : String) : Option Value :=
  let characters := text.toList
  if text = "" || isNullWord text then some .null
  else
    match bool? text with
    | some b => some (.bool b)
    | none =>
      let orReal : Option Value :=
        if isZeroPadded characters then some (.text text)
        else
          match real? characters with
          | some x => some (.real x)
          | none => some (.text text)
      match (integer? characters).map whole with
      | some (.fits i) => some (.int i)
      | some .tooLarge => none
      | some .huge => orReal
      | none => orReal

/-- The value of a scalar under one of the tags of YAML itself. -/
def tagged? (tag : String) (text : String) : Option Value :=
  let characters := text.toList
  if tag = "tag:yaml.org,2002:bool" then (bool? text).map .bool
  else if tag = "tag:yaml.org,2002:int" then
    match (integer? characters).map whole with
    | some (.fits i) => some (.int i)
    | _ => none
  else if tag = "tag:yaml.org,2002:float" then (real? characters).map .real
  else if tag = "tag:yaml.org,2002:null" then (if isNullWord text then some .null else none)
  else some (.text text)

end Scalar

end GateOperator.Yaml
