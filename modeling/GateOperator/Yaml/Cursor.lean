/-!
A place in a YAML text: what follows it, and its line and column. Five characters end a line, and a
carriage return takes the line feed after it along.
-/

namespace GateOperator.Yaml

/-- The character ends a line. -/
def isBreak (c : Char) : Bool :=
  c = '\n' || c = '\r' || c = '\u0085' || c = '\u2028' || c = '\u2029'

/-- The character is a space or a tab. -/
def isBlank (c : Char) : Bool := c = ' ' || c = '\t'

/-- A blank, the end of a line, or the end of the text. -/
def isGap : Option Char → Bool
  | none => true
  | some c => isBlank c || isBreak c

/-- The end of a line or of the text. -/
def isLineEnd : Option Char → Bool
  | none => true
  | some c => isBreak c

/-- Characters of handles and anchors. -/
def isWordChar (c : Char) : Bool := c.isAlphanum || c = '_' || c = '-'

/-- The character may stand in a YAML text. -/
def isAllowed (c : Char) : Bool :=
  let n := c.toNat
  n = 0x09 || n = 0x0A || n = 0x0D || (0x20 ≤ n && n ≤ 0x7E) || n = 0x85 || (0xA0 ≤ n && n ≤ 0xFFFD) ||
    0x10000 ≤ n

/-- The mark that may stand at the start of a line. -/
def byteOrderMark : Char := '\uFEFF'

/-- A place in a text. -/
structure Cursor where
  rest : List Char
  /-- The number of characters of the whole text. -/
  size : Nat
  index : Nat := 0
  line : Nat := 0
  column : Nat := 0

namespace Cursor

/-- The character `n` places on. -/
def at? (c : Cursor) (n : Nat) : Option Char := c.rest[n]?

def next? (c : Cursor) : Option Char := c.rest.head?

/-- The next character is this one. -/
def sees (c : Cursor) (x : Char) : Bool := c.next? = some x

/-- Moves on by `n` characters of the line. -/
def skip (c : Cursor) (n : Nat) : Cursor :=
  { c with rest := c.rest.drop n, index := c.index + n, column := c.column + n }

/-- The characters from here on that satisfy a test, and the place after them. -/
def span (c : Cursor) (test : Char → Bool) : List Char × Cursor :=
  let run := c.rest.takeWhile test
  (run, c.skip run.length)

/-- The place after the characters that satisfy a test. -/
def skipWhile (c : Cursor) (test : Char → Bool) : Cursor := (c.span test).2

/-- The place at the end of the line. -/
def skipLine (c : Cursor) : Cursor := c.skipWhile fun x => !isBreak x

/-- The number of characters that end the line here. -/
def breakLength (c : Cursor) : Nat :=
  match c.rest with
  | '\r' :: '\n' :: _ => 2
  | x :: _ => if isBreak x then 1 else 0
  | [] => 0

/-- The start of the next line, when the line ends here. -/
def newLine (c : Cursor) : Cursor :=
  { c with
    rest := c.rest.drop c.breakLength
    index := c.index + c.breakLength
    line := c.line + 1
    column := 0 }

/-- What the end of the line here stands for in a text: a line feed, or the separator that it is. -/
def breakText (c : Cursor) : List Char :=
  match c.rest with
  | x :: _ => if x = '\u2028' || x = '\u2029' then [x] else if isBreak x then ['\n'] else []
  | [] => []

/-- The line begins with three marks that stand alone. -/
def seesMarks (c : Cursor) (mark : Char) : Bool :=
  c.column = 0 && c.at? 0 = some mark && c.at? 1 = some mark && c.at? 2 = some mark && isGap (c.at? 3)

/-- The line begins or ends a document. -/
def seesDocumentMark (c : Cursor) : Bool := c.seesMarks '-' || c.seesMarks '.'

end Cursor

end GateOperator.Yaml
