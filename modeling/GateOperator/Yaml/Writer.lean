import GateOperator.Yaml.Cursor
import GateOperator.Yaml.Scalar

/-!
Writing values as YAML in blocks. Lists stand at the column of their map, everything else goes two columns
in. A text is plain where it reads back as itself; it is in single quotes where it would read as something
else, a block of its own when it has line feeds, and in double quotes when it has characters that cannot be
shown.
-/

namespace GateOperator.Yaml

/-- The character can be shown as it is. -/
def isShown (c : Char) : Bool :=
  let n := c.toNat
  n = 0x0A || (0x20 ≤ n && n ≤ 0x7E) || (0xA0 ≤ n && n ≤ 0xFFFD && c ≠ byteOrderMark)

/-- How a text is written. -/
inductive Style where
  | plain
  | single
  | double
  | literal
deriving DecidableEq

/-- What a text is made of, as far as its style depends on it. -/
structure Traits where
  /-- It begins like something else than a scalar, or holds what ends one. -/
  indicators : Bool
  hidden : Bool
  multiline : Bool
  edgeSpaceOrBreak : Bool
  endsInSpace : Bool
  breakThenSpace : Bool
  spaceThenBreak : Bool

namespace Traits

/-- Some character of the text after `before` ends a scalar: a colon before a gap or a number sign after
    one. -/
def hasIndicator : Char → List Char → Bool
  | _, [] => false
  | before, c :: rest =>
    (c = ':' && isGap rest.head?) || (c = '#' && isGap (some before)) || hasIndicator c rest

/-- The text begins like something else than a scalar. -/
def beginsWithIndicator (text : List Char) : Bool :=
  match text with
  | [] => false
  | c :: rest =>
    "#,[]\x7b\x7d&*!|>'\"%@`".contains c || ((c = '?' || c = ':' || c = '-') && isGap rest.head?) ||
      ['-', '-', '-'].isPrefixOf text || ['.', '.', '.'].isPrefixOf text

/-- Two characters that satisfy two tests stand side by side. -/
def hasPair (first second : Char → Bool) (text : List Char) : Bool :=
  (text.zip (text.drop 1)).any fun pair => first pair.1 && second pair.2

/-- The traits of a text that is not empty. -/
def of (text : List Char) : Traits where
  indicators := beginsWithIndicator text || (text.head?.any fun c => hasIndicator c (text.drop 1))
  hidden := text.any fun c => !isShown c
  multiline := text.any isBreak
  edgeSpaceOrBreak :=
    text.head?.any (fun c => c = ' ' || isBreak c) || text.getLast?.any (fun c => c = ' ' || isBreak c)
  endsInSpace := text.getLast? = some ' '
  breakThenSpace := hasPair isBreak (· = ' ') text
  spaceThenBreak := hasPair (· = ' ') isBreak text

/-- The text may be plain. -/
def allowsPlain (t : Traits) : Bool :=
  !(t.indicators || t.hidden || t.multiline || t.edgeSpaceOrBreak || t.breakThenSpace || t.spaceThenBreak)

/-- The text may stand in single quotes. -/
def allowsSingle (t : Traits) : Bool := !(t.hidden || t.breakThenSpace || t.spaceThenBreak)

/-- The text may be a block of its own. -/
def allowsLiteral (t : Traits) : Bool := !(t.hidden || t.endsInSpace)

end Traits

/-- A plain scalar of these characters would not be read as a text. -/
def readsAsOther (text : String) : Bool :=
  match Scalar.plain? text with
  | some (.text _) => Scalar.isZeroPadded text.toList
  | _ => true

def styleOf (text : String) : Style :=
  if text = "" then .single
  else
    let traits := Traits.of text.toList
    let wanted : Style :=
      if text.contains '\n' then .literal
      else if readsAsOther text then .single
      else .plain
    let orDouble : Style := if traits.allowsSingle then .single else .double
    match wanted with
    | .literal => if traits.allowsLiteral then .literal else .double
    | .plain => if traits.allowsPlain then .plain else orDouble
    | .single => orDouble
    | .double => .double

/-- Spaces up to a column. -/
def spaces (n : Nat) : List Char := List.replicate n ' '

/-- A code point as digits of a fixed width, after a letter. -/
def escapeNumber (letter : Char) (width n : Nat) : List Char :=
  let digits := (Nat.toDigits 16 n).map Char.toUpper
  '\\' :: letter :: (List.replicate (width - digits.length) '0' ++ digits)

/-- A character inside double quotes. -/
def escapeChar (c : Char) : List Char :=
  if isShown c && !isBreak c && c ≠ '"' && c ≠ '\\' then [c]
  else
    match c with
    | '\x00' => ['\\', '0']
    | '\x07' => ['\\', 'a']
    | '\x08' => ['\\', 'b']
    | '\t' => ['\\', 't']
    | '\n' => ['\\', 'n']
    | '\x0b' => ['\\', 'v']
    | '\x0c' => ['\\', 'f']
    | '\r' => ['\\', 'r']
    | '\x1b' => ['\\', 'e']
    | '"' => ['\\', '"']
    | '\\' => ['\\', '\\']
    | '\u0085' => ['\\', 'N']
    | '\u2028' => ['\\', 'L']
    | '\u2029' => ['\\', 'P']
    | c =>
      if c.toNat ≤ 0xFF then escapeNumber 'x' 2 c.toNat
      else if c.toNat ≤ 0xFFFF then escapeNumber 'u' 4 c.toNat
      else escapeNumber 'U' 8 c.toNat

/-- The characters of a text in single quotes; a line goes on at a column. -/
def singleQuoted (column : Nat) : Bool → List Char → List Char
  | broken, [] => if broken then spaces column else []
  | broken, c :: rest =>
    if isBreak c then c :: singleQuoted column true rest
    else
      let start := if broken && c ≠ ' ' then spaces column else []
      let shown := if c = '\'' then ['\'', '\''] else [c]
      start ++ shown ++ singleQuoted column (broken && c = ' ') rest

/-- The lines of a block at a column; empty lines stay empty. -/
def literalLines (column : Nat) : Bool → List Char → List Char
  | _, [] => []
  | broken, c :: rest =>
    if isBreak c then c :: literalLines column true rest
    else (if broken then spaces column else []) ++ c :: literalLines column false rest

/-- The marks of a block: its indentation when it begins with a blank, and what becomes of its end. -/
def literalMarks (text : List Char) : List Char :=
  let width := if text.head?.any fun c => c = ' ' || isBreak c then ['2'] else []
  let ending :=
    match text.reverse with
    | [] => ['-']
    | c :: before => if !isBreak c then ['-'] else if before.head?.all isBreak then ['+'] else []
  width ++ ending

/-- A text whose further lines stand at a column. -/
def writeText (column : Nat) (text : String) : List Char :=
  let characters := text.toList
  match styleOf text with
  | .plain => characters
  | .single => '\'' :: singleQuoted column false characters ++ ['\'']
  | .double => '"' :: characters.flatMap escapeChar ++ ['"']
  | .literal =>
    let lines := literalLines column true characters
    '|' :: literalMarks characters ++ '\n' :: (if lines.getLast? = some '\n' then lines.dropLast else lines)

/-- A double. -/
def writeReal (x : Float) : List Char := Decimal.signed Decimal.scientific ".nan".toList ".inf".toList x

/-- A key that cannot stand on one line with its value. -/
def isLongKey (key : String) : Bool := 128 < key.utf8ByteSize || key.any isBreak

/-- A key with the mark that leads to its value, at a column. -/
def writeKey (column : Nat) (key : String) : List Char :=
  if isLongKey key then
    '?' :: ' ' :: writeText (column + 2) key ++ '\n' :: spaces column ++ [':', ' ']
  else writeText (column + 2) key ++ [':']

/-- Lines without the start of the first one, which has been written. -/
def fromColumn (column : Nat) (lines : List Char) : List Char := lines.drop (column + 1)

mutual

/-- A value behind what stands on its line: behind a key at `column`, or else at `column` itself. -/
def writeValue (afterKey : Bool) (column : Nat) : Value → List Char
  | .list (v :: items) =>
    if afterKey then writeItems column (v :: items) else fromColumn column (writeItems column (v :: items))
  | .record (field :: fields) =>
    if afterKey then writeFields (column + 2) (field :: fields)
    else fromColumn column (writeFields column (field :: fields))
  | v =>
    let scalar :=
      match v with
      | .bool b => if b then "true".toList else "false".toList
      | .int i => (toString i).toList
      | .real x => writeReal x
      | .text s => writeText (if afterKey then column + 2 else column) s
      | .list _ => ['[', ']']
      | .record _ => ['\x7b', '\x7d']
      | _ => "null".toList
    if afterKey then ' ' :: scalar else scalar

/-- The items of a list, each on a line of its own at a column. -/
def writeItems (column : Nat) : List Value → List Char
  | [] => []
  | v :: items => '\n' :: spaces column ++ '-' :: ' ' :: writeValue false (column + 2) v ++ writeItems column items

/-- The fields of a record, each on a line of its own at a column. -/
def writeFields (column : Nat) : List (String × Value) → List Char
  | [] => []
  | (key, v) :: fields =>
    '\n' :: spaces column ++ writeKey column key ++
      (if isLongKey key then writeValue false (column + 2) v else writeValue true column v) ++
      writeFields column fields

end

/-- A value as a document. -/
def write (v : Value) : String := String.ofList (writeValue false 0 v ++ ['\n'])

end GateOperator.Yaml
