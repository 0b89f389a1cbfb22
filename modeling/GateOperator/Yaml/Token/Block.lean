import GateOperator.Yaml.Cursor

/-!
Reading block scalars, whose text is shown by indentation. A literal scalar keeps its line ends; a folded
one turns a single line end between two lines that do not begin with a blank into a space.
-/

namespace GateOperator.Yaml

/-- What becomes of the line ends at the end of a block scalar. -/
inductive Chomping where
  | strip
  | clip
  | keep

/-- The character that asks for a chomping. -/
def chomping? : Char → Option Chomping
  | '-' => some .strip
  | '+' => some .keep
  | _ => none

/-- The width that a digit asks for; zero is none. -/
def indentDigit? (c : Char) : Option Nat :=
  if '1' ≤ c ∧ c ≤ '9' then some (c.toNat - 0x30) else none

/-- Reads the marks of a block scalar, in either order. Zero is refused. -/
def readBlockMarks (c : Cursor) : Option (Chomping × Option Nat × Cursor) :=
  let refused (c : Cursor) : Bool := c.sees '0'
  match c.next?.bind chomping? with
  | some chomping =>
    let c := c.skip 1
    if refused c then none
    else
      match c.next?.bind indentDigit? with
      | some n => some (chomping, some n, c.skip 1)
      | none => some (chomping, none, c)
  | none =>
    if refused c then none
    else
      match c.next?.bind indentDigit? with
      | none => some (.clip, none, c)
      | some n =>
        let c := c.skip 1
        match c.next?.bind chomping? with
        | some chomping => some (chomping, some n, c.skip 1)
        | none => some (.clip, some n, c)

/-- Reads empty lines and the indentation of the next line, up to the column `limit` if it is known. Gives
    the line ends, last first, and the widest indentation seen. A tab in the indentation is refused. -/
def readEmptyLines (limit : Option Nat) : Nat → List Char → Nat → Cursor → Option (List Char × Nat × Cursor)
  | 0, breaks, widest, c => some (breaks, widest, c)
  | fuel + 1, breaks, widest, c =>
    let within (c : Cursor) : Bool := limit.all fun n => c.column < n
    let spaces := c.rest.takeWhile (· = ' ')
    let c := c.skip (limit.elim spaces.length fun n => min spaces.length (n - c.column))
    let widest := max widest c.column
    if within c && c.sees '\t' then none
    else if c.next?.any isBreak then readEmptyLines limit fuel (c.breakText ++ breaks) widest c.newLine
    else some (breaks, widest, c)

/-- Reads the lines of a block scalar that stand at column `indent`. `pending` is the line end before the
    line, `empties` are those of the empty lines before it, and `blank` says that the line before them
    began with a blank. All texts are last character first. -/
def readBlockLines (literal : Bool) (indent : Nat) :
    Nat → List Char → List Char → List Char → Bool → Cursor → Option (List Char × List Char × List Char × Cursor)
  | 0, text, pending, empties, _, c => some (text, pending, empties, c)
  | fuel + 1, text, pending, empties, blank, c =>
    match c.next? with
    | none => some (text, pending, empties, c)
    | some x =>
      if c.column ≠ indent then some (text, pending, empties, c)
      else
        let folds := !literal && pending = ['\n'] && !blank && !isBlank x
        let text := if folds then (if empties.isEmpty then ' ' :: text else text) else pending ++ text
        let text := empties ++ text
        let (line, c) := c.span fun y => !isBreak y
        let text := line.reverse ++ text
        let pending := c.breakText
        let c := if c.next?.any isBreak then c.newLine else c
        match readEmptyLines (some indent) c.size [] 0 c with
        | none => none
        | some (empties, _, c) => readBlockLines literal indent fuel text pending empties (isBlank x) c

/-- Reads the rest of a block scalar inside a collection at column `parent`, after its first character. -/
def readBlock (literal : Bool) (parent : Int) (c : Cursor) : Option (String × Cursor) := do
  let (chomping, width, c) ← readBlockMarks c
  let c := c.skipWhile isBlank
  let c := if c.sees '#' then c.skipLine else c
  if !isLineEnd c.next? then none
  let c := if c.next?.any isBreak then c.newLine else c
  let limit := width.map fun n => (max parent 0).toNat + n
  let (empties, widest, c) ← readEmptyLines limit c.size [] 0 c
  let indent := limit.getD (max widest (max (parent + 1).toNat 1))
  let (text, pending, empties, c) ← readBlockLines literal indent (c.size + 1) [] [] empties false c
  let text :=
    match chomping with
    | .strip => text
    | .clip => pending ++ text
    | .keep => empties ++ (pending ++ text)
  return (String.ofList text.reverse, c)

end GateOperator.Yaml
