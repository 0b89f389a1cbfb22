import GateOperator.Data.Value
import GateOperator.Data.Word
import GateOperator.Decimal.Shortest

/-!
Reading JSON text. The text is first cut into tokens; then the tokens are gathered into a value with a
stack of the lists and records that are still open. At most 127 of them may be open at once. Integers
that do not fit 64 bits are read as doubles, and so is minus zero.
-/

namespace GateOperator.Json

/-- A token of JSON text. -/
inductive Token where
  | openRecord
  | closeRecord
  | openList
  | closeList
  | comma
  | colon
  | scalar (v : Value)

/-- What a reader of text is in the middle of. -/
inductive TextState where
  | plain
  | escaped
  /-- A code unit with `left` digits to come, after a high surrogate if there was one. -/
  | unit (left value : Nat) (high : Option Nat)
  /-- The backslash that must follow a high surrogate. -/
  | surrogate (high : Nat)
  /-- The letter that must follow it. -/
  | surrogateEscaped (high : Nat)

/-- The value of a hexadecimal digit. -/
def hexDigit? (c : Char) : Option Nat :=
  if '0' ≤ c ∧ c ≤ '9' then some (c.toNat - 0x30)
  else if 'a' ≤ c ∧ c ≤ 'f' then some (c.toNat - 0x57)
  else if 'A' ≤ c ∧ c ≤ 'F' then some (c.toNat - 0x37)
  else none

/-- The character that a backslash and a letter stand for. -/
def unescape? : Char → Option Char
  | '"' => some '"'
  | '\\' => some '\\'
  | '/' => some '/'
  | 'b' => some '\x08'
  | 'f' => some '\x0c'
  | 'n' => some '\n'
  | 'r' => some '\r'
  | 't' => some '\t'
  | _ => none

/-- A whole code unit: a character, or the next state when it is one half of a pair. -/
def ofUnit (value : Nat) : Option Nat → Option (Option Char × TextState)
  | none =>
    if 0xD800 ≤ value ∧ value < 0xDC00 then some (none, .surrogate value)
    else if 0xDC00 ≤ value ∧ value < 0xE000 then none
    else some (some (Char.ofNat value), .plain)
  | some high =>
    if 0xDC00 ≤ value ∧ value < 0xE000 then
      some (some (Char.ofNat (0x10000 + (high - 0xD800) * 0x400 + (value - 0xDC00))), .plain)
    else none

/-- Reads text up to its closing quote; `done` holds what was read, last character first. -/
def readText : TextState → List Char → List Char → Option (String × List Char)
  | _, _, [] => none
  | .plain, done, c :: rest =>
    if c = '"' then some (String.ofList done.reverse, rest)
    else if c = '\\' then readText .escaped done rest
    else if c.toNat < 0x20 then none
    else readText .plain (c :: done) rest
  | .escaped, done, c :: rest =>
    if c = 'u' then readText (.unit 4 0 none) done rest
    else
      match unescape? c with
      | some d => readText .plain (d :: done) rest
      | none => none
  | .unit left value high, done, c :: rest =>
    match hexDigit? c with
    | none => none
    | some d =>
      let value := value * 16 + d
      if 1 < left then readText (.unit (left - 1) value high) done rest
      else
        match ofUnit value high with
        | none => none
        | some (some c, state) => readText state (c :: done) rest
        | some (none, state) => readText state done rest
  | .surrogate high, done, c :: rest => if c = '\\' then readText (.surrogateEscaped high) done rest else none
  | .surrogateEscaped high, done, c :: rest =>
    if c = 'u' then readText (.unit 4 0 (some high)) done rest else none

/-- The value of a run of decimal digits, after `value`. -/
def digitsValue (value : Nat) (digits : List Char) : Nat :=
  digits.foldl (fun n c => n * 10 + (c.toNat - 0x30)) value

/-- The digits at the front, and what follows them. -/
def spanDigits (text : List Char) : List Char × List Char := text.span Char.isDigit

/-- An exponent after its letter: its value and what follows. -/
def readExponent (text : List Char) : Option (Int × List Char) :=
  let (negative, text) :=
    match text with
    | '-' :: rest => (true, rest)
    | '+' :: rest => (false, rest)
    | _ => (false, text)
  match spanDigits text with
  | ([], _) => none
  | (digits, rest) =>
    let n : Int := digitsValue 0 digits
    some (if negative then -n else n, rest)

/-- The part of a number after its whole digits. -/
def readFraction (negative : Bool) (whole : List Char) (text : List Char) : Option (Value × List Char) := do
  let (fraction, text) ←
    match text with
    | '.' :: rest =>
      match spanDigits rest with
      | ([], _) => none
      | (digits, rest) => some (digits, rest)
    | _ => some ([], text)
  let (exponent, text, isWhole) ←
    match text with
    | 'e' :: rest => (readExponent rest).map fun (e, rest) => (e, rest, false)
    | 'E' :: rest => (readExponent rest).map fun (e, rest) => (e, rest, false)
    | _ => some ((0 : Int), text, fraction.isEmpty)
  let digits := digitsValue (digitsValue 0 whole) fraction
  let small := if negative then digits ≠ 0 ∧ Word.HoldsSigned 64 (-digits) else Word.Holds 64 digits
  if isWhole ∧ small then some (.int (if negative then -digits else digits), text)
  else
    let x := Decimal.toFloat negative digits (exponent - fraction.length)
    if x.isFinite then some (.real x, text) else none

/-- A number; a leading zero stands alone. -/
def readNumber (negative : Bool) (text : List Char) : Option (Value × List Char) :=
  match spanDigits text with
  | ([], _) => none
  | (whole, rest) => if 1 < whole.length ∧ whole.head? = some '0' then none else readFraction negative whole rest

/-- A keyword whose first letter has been read. -/
def readKeyword (letters : List Char) (v : Value) (text : List Char) : Option (Value × List Char) :=
  if letters.isPrefixOf text then some (v, text.drop letters.length) else none

/-- Cuts a text into tokens, with at most `fuel` characters to go. -/
def scan : Nat → List Char → List Token → Option (List Token)
  | _, [], done => some done.reverse
  | 0, _ :: _, _ => none
  | fuel + 1, c :: rest, done =>
    match c with
    | ' ' | '\n' | '\t' | '\r' => scan fuel rest done
    | '\x7b' => scan fuel rest (.openRecord :: done)
    | '\x7d' => scan fuel rest (.closeRecord :: done)
    | '[' => scan fuel rest (.openList :: done)
    | ']' => scan fuel rest (.closeList :: done)
    | ',' => scan fuel rest (.comma :: done)
    | ':' => scan fuel rest (.colon :: done)
    | '"' =>
      match readText .plain [] rest with
      | some (s, rest) => scan fuel rest (.scalar (.text s) :: done)
      | none => none
    | _ =>
      let read :=
        if c = 't' then readKeyword ['r', 'u', 'e'] (.bool true) rest
        else if c = 'f' then readKeyword ['a', 'l', 's', 'e'] (.bool false) rest
        else if c = 'n' then readKeyword ['u', 'l', 'l'] .null rest
        else if c = '-' then readNumber true rest
        else readNumber false (c :: rest)
      match read with
      | some (v, rest) => scan fuel rest (.scalar v :: done)
      | none => none

/-- A list or record that is still open, with its parts last first. -/
inductive Frame where
  | list (items : List Value)
  /-- A record waiting for the name of its next field. -/
  | record (fields : List (String × Value))
  /-- A record waiting for the value of the field it names. -/
  | field (fields : List (String × Value)) (name : String)

/-- What may come next. -/
inductive Expect where
  | value
  /-- A value, or the end of the list just opened. -/
  | valueOrClose
  | name
  /-- A name, or the end of the record just opened. -/
  | nameOrClose
  | colon
  | commaOrClose

/-- The deepest that lists and records may stand in one another. -/
def depthLimit : Nat := 127

mutual

/-- Gathers the remaining tokens into a value. -/
def gather : Expect → List Frame → List Token → Option Value
  | _, _, [] => none
  | .value, stack, .scalar v :: rest => close v stack rest
  | .valueOrClose, stack, .scalar v :: rest => close v stack rest
  | .value, stack, .openList :: rest => enter (.list []) .valueOrClose stack rest
  | .valueOrClose, stack, .openList :: rest => enter (.list []) .valueOrClose stack rest
  | .value, stack, .openRecord :: rest => enter (.record []) .nameOrClose stack rest
  | .valueOrClose, stack, .openRecord :: rest => enter (.record []) .nameOrClose stack rest
  | .valueOrClose, .list items :: stack, .closeList :: rest => close (.list items.reverse) stack rest
  | .nameOrClose, .record fields :: stack, .closeRecord :: rest => close (.record fields.reverse) stack rest
  | .name, .record fields :: stack, .scalar (.text s) :: rest => gather .colon (.field fields s :: stack) rest
  | .nameOrClose, .record fields :: stack, .scalar (.text s) :: rest =>
    gather .colon (.field fields s :: stack) rest
  | .colon, stack, .colon :: rest => gather .value stack rest
  | .commaOrClose, .list items :: stack, .comma :: rest => gather .value (.list items :: stack) rest
  | .commaOrClose, .list items :: stack, .closeList :: rest => close (.list items.reverse) stack rest
  | .commaOrClose, .record fields :: stack, .comma :: rest => gather .name (.record fields :: stack) rest
  | .commaOrClose, .record fields :: stack, .closeRecord :: rest => close (.record fields.reverse) stack rest
  | _, _, _ => none
termination_by _ _ tokens => (tokens.length, 0)

/-- Goes one level deeper. -/
def enter (frame : Frame) (expect : Expect) (stack : List Frame) (rest : List Token) : Option Value :=
  if stack.length < depthLimit then gather expect (frame :: stack) rest else none
termination_by (rest.length, 1)

/-- Hands a finished value to the innermost open list or record. -/
def close (v : Value) (stack : List Frame) (rest : List Token) : Option Value :=
  match stack with
  | [] => if rest.isEmpty then some v else none
  | .list items :: stack => gather .commaOrClose (.list (v :: items) :: stack) rest
  | .field fields name :: stack => gather .commaOrClose (.record ((name, v) :: fields) :: stack) rest
  | .record _ :: _ => none
termination_by (rest.length, 1)

end

def read? (text : String) : Option Value :=
  let characters := text.toList
  scan characters.length characters [] >>= gather .value []

end GateOperator.Json
