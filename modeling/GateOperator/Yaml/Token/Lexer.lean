import GateOperator.Yaml.Token.Block
import GateOperator.Yaml.Token.Tag

/-!
Cutting a YAML text into tokens. A key is only known as one when the colon after it is seen, so the place
of a token that may turn out to be a key is remembered: its key token, and the start of its map, are put
there later. Such a key stands on one line and has at most 1024 characters.
-/

namespace GateOperator.Yaml

/-- A place where a key may begin. -/
structure PendingKey where
  /-- Nothing but a key can stand here. -/
  required : Bool
  /-- The number of tokens before it. -/
  position : Nat
  index : Nat
  line : Nat
  column : Nat

/-- What has been read of a text, and what may come next. -/
structure Scan where
  cursor : Cursor
  /-- The tokens so far, last first. -/
  tokens : List Token := []
  count : Nat := 0
  /-- A key may begin at the cursor. -/
  keyAllowed : Bool := true
  /-- The possible key of the innermost flow collection, or of the block outside all of them. -/
  pending : Option PendingKey := none
  /-- The possible keys outside that collection. -/
  outer : List (Option PendingKey) := []
  /-- The column of the innermost block collection; there is none at -1. -/
  indent : Int := -1
  /-- The columns outside that collection. -/
  indents : List Int := []

namespace Scan

/-- The cursor stands inside a flow collection. -/
def inFlow (s : Scan) : Bool := !s.outer.isEmpty

/-- Adds a token. -/
def push (s : Scan) (t : Token) : Scan := { s with tokens := t :: s.tokens, count := s.count + 1 }

/-- Puts a token before those that came after the first `position`. -/
def insertAt (s : Scan) (position : Nat) (t : Token) : Scan :=
  let later := s.count - position
  { s with tokens := s.tokens.take later ++ t :: s.tokens.drop later, count := s.count + 1 }

/-- Gives up the possible key; one that is required must not be given up. -/
def dropKey (s : Scan) : Option Scan :=
  if s.pending.any (·.required) then none else some { s with pending := none }

/-- Notes that a key may begin at the cursor. -/
def saveKey (s : Scan) : Option Scan :=
  if !s.keyAllowed then some s
  else do
    let s ← s.dropKey
    return { s with pending := some {
      required := !s.inFlow && s.indent = s.cursor.column
      position := s.count
      index := s.cursor.index
      line := s.cursor.line
      column := s.cursor.column } }

/-- The possible key has fallen behind: it is on an earlier line or too far back. -/
def isStale (s : Scan) (k : PendingKey) : Bool := k.line < s.cursor.line || k.index + 1024 < s.cursor.index

/-- Gives up one possible key if it has fallen behind. -/
def refresh (s : Scan) : Option PendingKey → Option (Option PendingKey)
  | none => some none
  | some k => if s.isStale k then (if k.required then none else some none) else some (some k)

/-- Gives up all possible keys that have fallen behind. -/
def refreshKeys (s : Scan) : Option Scan := do
  return { s with pending := ← s.refresh s.pending, outer := ← s.outer.mapM s.refresh }

/-- Opens a block collection at a column, unless it is open; its token goes to `position`. -/
def openBlock (s : Scan) (column position : Nat) (t : Token) : Scan :=
  if !s.inFlow && s.indent < column then
    { s.insertAt position t with indents := s.indent :: s.indents, indent := column }
  else s

/-- Closes the block collections beyond a column. -/
def closeBlocks (column : Int) : List Int → Scan → Scan
  | [], s => s
  | outer :: indents, s =>
    if column < s.indent then closeBlocks column indents { s.push .blockEnd with indent := outer, indents := indents }
    else s

/-- Closes the block collections beyond a column; inside a flow collection columns do not count. -/
def unindent (s : Scan) (column : Int) : Scan := if s.inFlow then s else closeBlocks column s.indents s

/-- Moves to the next token, over blanks, comments and line ends. -/
def skipToToken : Nat → Scan → Scan
  | 0, s => s
  | fuel + 1, s =>
    let c := s.cursor
    let c := if c.column = 0 ∧ c.sees byteOrderMark then c.skip 1 else c
    let tabs := s.inFlow || !s.keyAllowed
    let c := c.skipWhile fun x => x = ' ' || (tabs && x = '\t')
    let c := if c.sees '#' then c.skipLine else c
    if c.next?.any isBreak then
      skipToToken fuel { s with cursor := c.newLine, keyAllowed := s.keyAllowed || !s.inFlow }
    else { s with cursor := c }

/-- Moves the cursor. -/
def goTo (s : Scan) (c : Cursor) : Scan := { s with cursor := c }

/-- Adds a token of `n` characters. -/
def take (s : Scan) (n : Nat) (t : Token) : Scan := (s.push t).goTo (s.cursor.skip n)

/-- A document mark, or the end of the text: all block collections end. -/
def endBlocks (s : Scan) : Option Scan := do
  let s ← (s.unindent (-1)).dropKey
  return { s with keyAllowed := false }

/-- The start of a flow collection. -/
def openFlow (s : Scan) (t : Token) : Option Scan := do
  let s ← s.saveKey
  return { s.take 1 t with outer := s.pending :: s.outer, pending := none, keyAllowed := true }

/-- The end of a flow collection. -/
def closeFlow (s : Scan) (t : Token) : Option Scan := do
  let s ← s.dropKey
  let s :=
    match s.outer with
    | [] => s
    | pending :: outer => { s with pending := pending, outer := outer }
  return { s.take 1 t with keyAllowed := false }

/-- A comma between the items of a flow collection. -/
def flowEntry (s : Scan) : Option Scan := do
  let s ← s.dropKey
  return { s.take 1 .flowEntry with keyAllowed := true }

/-- The hyphen before an item of a block list. -/
def blockEntry (s : Scan) : Option Scan := do
  if !s.inFlow && !s.keyAllowed then none
  let s ← (s.openBlock s.cursor.column s.count .blockList).dropKey
  return { s.take 1 .blockEntry with keyAllowed := true }

/-- The question mark before a key. -/
def explicitKey (s : Scan) : Option Scan := do
  if !s.inFlow && !s.keyAllowed then none
  let s ← (s.openBlock s.cursor.column s.count .blockMap).dropKey
  return { s.take 1 .key with keyAllowed := !s.inFlow }

/-- The colon before a value, after a key that is known as one only now or was marked before. -/
def colon (s : Scan) : Option Scan :=
  match s.pending with
  | some k =>
    let s := (s.insertAt k.position .key).openBlock k.column k.position .blockMap
    some { s.take 1 .value with pending := none, keyAllowed := false }
  | none =>
    if !s.inFlow && !s.keyAllowed then none
    else
      let s := s.openBlock s.cursor.column s.count .blockMap
      some { s.take 1 .value with keyAllowed := !s.inFlow }

/-- A token that may be a key, read from the cursor on. -/
def keyToken (s : Scan) (read : Option (Token × Cursor)) : Option Scan := do
  let s ← s.saveKey
  let (t, c) ← read
  return { (s.push t).goTo c with keyAllowed := false }

/-- A quoted scalar. -/
def quoted (s : Scan) (single : Bool) : Option Scan :=
  s.keyToken ((readQuoted single s.cursor.size [] (s.cursor.skip 1)).map fun (text, c) =>
    (.scalar false text, c))

/-- A block scalar. -/
def block (s : Scan) (literal : Bool) : Option Scan := do
  let s ← s.dropKey
  let (text, c) ← readBlock literal s.indent (s.cursor.skip 1)
  return { (s.push (.scalar false text)).goTo c with keyAllowed := true }

/-- A plain scalar; after a line end a key may follow it. -/
def plain (s : Scan) : Option Scan := do
  let s ← s.saveKey
  let (text, c, broken) ← readPlain s.inFlow (s.indent + 1) s.cursor.size [] {} s.cursor
  return { (s.push (.scalar true text)).goTo c with keyAllowed := broken }

/-- The characters that no plain scalar begins with. -/
def indicators : List Char := "-?:,[]\x7b\x7d#&*!|>'\"%@`".toList

/-- A plain scalar may begin at the cursor. -/
def beginsPlain (s : Scan) (x : Char) : Bool :=
  let y := s.cursor.at? 1
  (!isBlank x && !indicators.contains x) || (x = '-' && !y.any isBlank) || (!s.inFlow && (x = '?' || x = ':') && !isGap y)

/-- Reads the token that begins with a character at the cursor. -/
def token (s : Scan) (x : Char) : Option Scan :=
  let c := s.cursor
  let y := c.at? 1
  if c.column = 0 ∧ x = '%' then do
    let s ← s.endBlocks
    let (t, c) ← readDirective c
    return (s.push t).goTo c
  else if c.seesMarks '-' then (s.endBlocks).map (·.take 3 .documentStart)
  else if c.seesMarks '.' then (s.endBlocks).map (·.take 3 .documentEnd)
  else if x = '[' then s.openFlow .flowListStart
  else if x = '\x7b' then s.openFlow .flowMapStart
  else if x = ']' then s.closeFlow .flowListEnd
  else if x = '\x7d' then s.closeFlow .flowMapEnd
  else if x = ',' then s.flowEntry
  else if x = '-' ∧ isGap y then s.blockEntry
  else if x = '?' ∧ (s.inFlow ∨ isGap y) then s.explicitKey
  else if x = ':' ∧ (s.inFlow ∨ isGap y) then s.colon
  else if x = '*' then s.keyToken ((readName c).map fun (name, c) => (.reuse name, c))
  else if x = '&' then s.keyToken ((readName c).map fun (name, c) => (.anchor name, c))
  else if x = '!' then s.keyToken (readTag s.inFlow c)
  else if x = '|' ∧ !s.inFlow then s.block true
  else if x = '>' ∧ !s.inFlow then s.block false
  else if x = '\'' then s.quoted true
  else if x = '"' then s.quoted false
  else if s.beginsPlain x then s.plain
  else none

/-- Reads all tokens. -/
def run : Nat → Scan → Option (List Token)
  | 0, _ => none
  | fuel + 1, s => do
    let s ← (s.skipToToken (s.cursor.size + 1)).refreshKeys
    let s := s.unindent s.cursor.column
    match s.cursor.next? with
    | none => return (← s.endBlocks).tokens.reverse
    | some x => run fuel (← s.token x)

end Scan

/-- The tokens of a text; none when it holds a character that is not allowed, or cannot be cut. -/
def Token.ofText? (text : String) : Option (List Token) :=
  let characters := text.toList
  let characters := if characters.head? = some byteOrderMark then characters.drop 1 else characters
  if characters.all isAllowed then
    Scan.run (characters.length + 1) { cursor := { rest := characters, size := characters.length } }
  else none

end GateOperator.Yaml
