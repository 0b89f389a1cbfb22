import GateOperator.Yaml.Node.Grammar
import GateOperator.Yaml.Scalar
import GateOperator.Yaml.Token.Lexer

/-!
Reading YAML text. Aliases are replaced by the nodes they name, at most a hundred times as often as the
document has parts; collections stand in one another at most 128 deep; and a map gives no name twice.
-/

namespace GateOperator.Yaml

mutual

/-- Two names of a map are the same value; the order of the entries of a map does not count. -/
def same : Value → Value → Bool
  | .null, .null => true
  | .bool a, .bool b => a = b
  | .int a, .int b => a = b
  | .real a, .real b => a == b || (a.isNaN && b.isNaN)
  | .text a, .text b => a = b
  | .list a, .list b => sameItems a b
  | .record a, .record b => a.length = b.length && sameFields a b
  | .mapping a, .mapping b => a.length = b.length && sameEntries a b
  | .tagged s a, .tagged t b => s = t && same a b
  | _, _ => false

/-- The lists hold the same values in the same order. -/
def sameItems : List Value → List Value → Bool
  | [], [] => true
  | a :: as, b :: bs => same a b && sameItems as bs
  | _, _ => false

/-- Each field of the first record is in the second. -/
def sameFields : List (String × Value) → List (String × Value) → Bool
  | [], _ => true
  | (name, a) :: as, bs => (bs.any fun b => name = b.1 && same a b.2) && sameFields as bs

/-- Each entry of the first map is in the second. -/
def sameEntries : List (Value × Value) → List (Value × Value) → Bool
  | [], _ => true
  | (key, a) :: as, bs => (bs.any fun b => same key b.1 && same a b.2) && sameEntries as bs

end

/-- Some value stands in a list twice. -/
def hasRepeated : List Value → Bool
  | [] => false
  | v :: vs => vs.any (same v) || hasRepeated vs

/-- A map of distinct names; a record when all names are texts. -/
def mapOf? (entries : List (Value × Value)) : Option Value :=
  match entries.mapM fun entry => entry.1.bareText?.map fun name => (name, entry.2) with
  | some fields => if (fields.map (·.1)).Nodup then some (.record fields) else none
  | none => if hasRepeated (entries.map (·.1)) then none else some (.mapping entries)

/-- Puts a value under a tag of its own; the tags of YAML itself do not count on collections. -/
def underTag? (tag : Option String) (v : Value) : Option Value :=
  match tag with
  | none => some v
  | some tag => if tag = "!" then none else if tag.startsWith "!" then some (.tagged tag v) else some v

def scalarValue? (tag : Option String) (isPlain : Bool) (text : String) : Option Value :=
  match tag with
  | none => if isPlain then Scalar.plain? text else some (.text text)
  | some tag =>
    if tag.startsWith "!" then
      underTag? (some tag) =<< (if isPlain then Scalar.plain? text else some (.text text))
    else Scalar.tagged? tag text

/-- Counts down the replacements of aliases that are left, or fails. -/
abbrev Budget := StateT Nat Option

/-- The value of a node in which collections may stand `depth` deep. -/
def nodeValue (anchored : List (Nat × Node)) (depth : Nat) (n : Node) : Budget Value := do
  let n ←
    match n with
    | .reuse id =>
      match ← get with
      | 0 => failure
      | left + 1 =>
        set left
        match anchored.lookup id with
        | some target => pure target
        | none => failure
    | n => pure n
  match n, depth with
  | .scalar tag isPlain text, _ => (scalarValue? tag isPlain text : Option Value)
  | .list tag items, depth + 1 =>
    let items ← items.mapM (nodeValue anchored depth)
    (underTag? tag (.list items) : Option Value)
  | .map tag entries, depth + 1 =>
    let entries ← entries.mapM fun entry => do
      let key ← nodeValue anchored depth entry.1
      let value ← nodeValue anchored depth entry.2
      return (key, value)
    let v ← (mapOf? entries : Option Value)
    (underTag? tag v : Option Value)
  | _, _ => failure
termination_by depth

def Document.value? (d : Document) : Option Value :=
  ((nodeValue d.anchored 128 d.root).run (100 * d.size)).map (·.1)

def read? (text : String) : Option Value :=
  Token.ofText? text >>= Document.ofTokens? >>= Document.value?

end GateOperator.Yaml
