import GateOperator.Yaml.Cursor

/-!
Reading quoted and plain scalars. Where such a scalar goes on over several lines, a single line end
between two of its parts becomes a space, and further line ends stay.
-/

namespace GateOperator.Yaml

/-- What stands between two parts of a scalar; the lists are last character first. -/
structure Gap where
  blanks : List Char := []
  /-- The text of the first line end. -/
  first : List Char := []
  /-- The texts of the line ends after it. -/
  more : List Char := []
  /-- The line has ended in the gap. -/
  broken : Bool := false

namespace Gap

/-- What the gap stands for in the scalar, last character first. -/
def text (g : Gap) : List Char :=
  if g.broken then
    if g.first = ['\n'] then (if g.more.isEmpty then [' '] else g.more) else g.more ++ g.first
  else g.blanks

/-- Reads blanks and line ends. A tab in front of column `limit` of a further line is refused. -/
def read (limit : Int) : Nat → Gap → Cursor → Option (Gap × Cursor)
  | 0, g, c => some (g, c)
  | fuel + 1, g, c =>
    match c.next? with
    | none => some (g, c)
    | some x =>
      if isBlank x then
        if g.broken then
          if x = '\t' ∧ (c.column : Int) < limit then none else read limit fuel g (c.skip 1)
        else read limit fuel { g with blanks := x :: g.blanks } (c.skip 1)
      else if isBreak x then
        if g.broken then read limit fuel { g with more := c.breakText ++ g.more } c.newLine
        else read limit fuel { g with blanks := [], first := c.breakText, broken := true } c.newLine
      else some (g, c)

end Gap

/-- The value of hexadecimal digits. -/
def hexValue? (digits : List Char) : Option Nat :=
  digits.foldlM (fun n c => do
    let d ←
      if '0' ≤ c ∧ c ≤ '9' then some (c.toNat - 0x30)
      else if 'a' ≤ c ∧ c ≤ 'f' then some (c.toNat - 0x57)
      else if 'A' ≤ c ∧ c ≤ 'F' then some (c.toNat - 0x37)
      else none
    some (n * 16 + d)) 0

/-- The character that a letter after a backslash stands for. -/
def escape? : Char → Option Char
  | '0' => some '\x00'
  | 'a' => some '\x07'
  | 'b' => some '\x08'
  | 't' => some '\t'
  | '\t' => some '\t'
  | 'n' => some '\n'
  | 'v' => some '\x0b'
  | 'f' => some '\x0c'
  | 'r' => some '\r'
  | 'e' => some '\x1b'
  | ' ' => some ' '
  | '"' => some '"'
  | '/' => some '/'
  | '\\' => some '\\'
  | 'N' => some '\u0085'
  | '_' => some '\u00a0'
  | 'L' => some '\u2028'
  | 'P' => some '\u2029'
  | _ => none

/-- The number of digits after a letter that gives a code point. -/
def escapeDigits? : Char → Option Nat
  | 'x' => some 2
  | 'u' => some 4
  | 'U' => some 8
  | _ => none

/-- The character that an escape stands for, and the number of characters after its backslash. -/
def readEscape (c : Cursor) : Option (Char × Nat) := do
  let letter ← c.at? 1
  match escape? letter, escapeDigits? letter with
  | some x, _ => some (x, 1)
  | none, some count =>
    let digits := (c.rest.drop 2).take count
    let n ← hexValue? digits
    if digits.length = count ∧ n ≤ 0x10FFFF ∧ ¬ (0xD800 ≤ n ∧ n < 0xE000) then some (Char.ofNat n, count + 1)
    else none
  | none, none => none

/-- Reads a part of a quoted scalar without blanks, up to its quote. Says whether it ended with an escaped
    line end. -/
def readQuotedPart (single : Bool) : Nat → List Char → Cursor → Option (List Char × Cursor × Bool)
  | 0, text, c => some (text, c, false)
  | fuel + 1, text, c =>
    match c.next? with
    | none => some (text, c, false)
    | some x =>
      if isBlank x || isBreak x then some (text, c, false)
      else if single then
        if x = '\'' then
          if c.at? 1 = some '\'' then readQuotedPart single fuel ('\'' :: text) (c.skip 2)
          else some (text, c, false)
        else readQuotedPart single fuel (x :: text) (c.skip 1)
      else if x = '"' then some (text, c, false)
      else if x = '\\' then
        match c.at? 1 with
        | none => none
        | some y =>
          if isBreak y then some (text, (c.skip 1).newLine, true)
          else
            match readEscape c with
            | none => none
            | some (z, count) => readQuotedPart single fuel (z :: text) (c.skip (count + 1))
      else readQuotedPart single fuel (x :: text) (c.skip 1)

/-- Reads the rest of a quoted scalar, whose opening quote has been read. -/
def readQuoted (single : Bool) : Nat → List Char → Cursor → Option (String × Cursor)
  | 0, _, _ => none
  | fuel + 1, text, c => do
    if c.seesDocumentMark then none
    let (text, c, escaped) ← readQuotedPart single c.size text c
    match c.next? with
    | none => none
    | some x =>
      if x = (if single then '\'' else '"') then some (String.ofList text.reverse, c.skip 1)
      else
        let (gap, c) ← Gap.read 0 c.size { broken := escaped } c
        readQuoted single fuel (gap.text ++ text) c

/-- Characters that end a plain scalar inside a flow collection. -/
def isFlowEnd (c : Char) : Bool := c = ',' || c = '[' || c = ']' || c = '\x7b' || c = '\x7d'

/-- Reads a part of a plain scalar without blanks. -/
def readPlainPart (inFlow : Bool) : Nat → List Char → Cursor → Option (List Char × Cursor)
  | 0, text, c => some (text, c)
  | fuel + 1, text, c =>
    match c.next? with
    | none => some (text, c)
    | some x =>
      if isBlank x || isBreak x then some (text, c)
      else if x = ':' then
        let y := c.at? 1
        if inFlow ∧ (y = some '?' ∨ y.any isFlowEnd) then none
        else if isGap y then some (text, c)
        else readPlainPart inFlow fuel (x :: text) (c.skip 1)
      else if inFlow && isFlowEnd x then some (text, c)
      else readPlainPart inFlow fuel (x :: text) (c.skip 1)

/-- Reads a plain scalar from a column on, and says whether a line has ended after its last part. -/
def readPlain (inFlow : Bool) (column : Int) : Nat → List Char → Gap → Cursor → Option (String × Cursor × Bool)
  | 0, _, _, _ => none
  | fuel + 1, text, gap, c => do
    let finish := some (String.ofList text.reverse, c, gap.broken)
    if c.seesDocumentMark || c.sees '#' then finish
    else
      let (part, after) ← readPlainPart inFlow c.size [] c
      if part.isEmpty then finish
      else
        let text := part ++ (gap.text ++ text)
        if (after.next?).all (fun x => !(isBlank x || isBreak x)) then
          some (String.ofList text.reverse, after, false)
        else
          let (gap, after) ← Gap.read column after.size {} after
          if !inFlow && (after.column : Int) < column then
            some (String.ofList text.reverse, after, gap.broken)
          else readPlain inFlow column fuel text gap after

end GateOperator.Yaml
