import GateOperator.Address.Basic
import GateOperator.Data.Word

/-!
Reading addresses. Octets have no leading zeros. In an address of the newer kind one run of zero groups may
be left out, and the last two groups may be written as octets. Each reader gives what it has read from the
front of a text, and what follows it.
-/

namespace GateOperator.Address

/-- The value of a digit in a base up to sixteen. -/
def digit? (base : Nat) (c : Char) : Option Nat :=
  let value? :=
    if '0' ≤ c ∧ c ≤ '9' then some (c.toNat - '0'.toNat)
    else if 'a' ≤ c ∧ c ≤ 'f' then some (c.toNat - 'a'.toNat + 10)
    else if 'A' ≤ c ∧ c ≤ 'F' then some (c.toNat - 'A'.toNat + 10)
    else none
  value?.filter (· < base)

def value (base : Nat) (digits : List Char) : Nat :=
  digits.foldl (fun n c => n * base + (digit? base c).getD 0) 0

/-- A character that has to be there. -/
def mark (c : Char) : List Char → Option (List Char)
  | [] => none
  | d :: text => if d = c then some text else none

/-- What stands after a character that has to be there. -/
def after {α : Type} (c : Char) (read : List Char → Option (α × List Char)) (text : List Char) :
    Option (α × List Char) :=
  match mark c text with
  | none => none
  | some text => read text

/-- A number below a limit. -/
def number (base limit : Nat) (text : List Char) : Option (Nat × List Char) :=
  let digits := text.takeWhile fun c => (digit? base c).isSome
  if digits.isEmpty ∨ limit ≤ value base digits then none
  else some (value base digits, text.drop digits.length)

/-- An octet, without leading zeros. -/
def octet (text : List Char) : Option (Nat × List Char) :=
  let digits := text.takeWhile Char.isDigit
  if 3 < digits.length then none
  else if 1 < digits.length ∧ digits.head? = some '0' then none
  else number 10 (Word.size 8) text

/-- A group of up to four digits. -/
def sixteenBits (text : List Char) : Option (Nat × List Char) :=
  if 4 < (text.takeWhile fun c => (digit? 16 c).isSome).length then none else number 16 (Word.size 16) text

/-- Four octets with points between them. -/
def octets (text : List Char) : Option (List Nat × List Char) := do
  let (a, text) ← octet text
  let (b, text) ← after '.' octet text
  let (c, text) ← after '.' octet text
  let (d, text) ← after '.' octet text
  return ([a, b, c, d], text)

def readPort (text : List Char) : Option (Nat × List Char) := after ':' (number 10 (Word.size 16)) text

/-- A part that is separated from the one before it, unless it is the first. -/
def separated {α : Type} (first : Bool) (read : List Char → Option (α × List Char)) (text : List Char) :
    Option (α × List Char) :=
  if first then read text else after ':' read text

/-- The groups at the front of a text. -/
structure Groups where
  groups : List Nat
  /-- They end with octets. -/
  octets : Bool

/-- Reads up to `limit` groups; octets count for two. -/
def groups : Nat → Bool → List Char → Groups × List Char
  | 0, _, text => (⟨[], false⟩, text)
  | limit + 1, first, text =>
    match if limit = 0 then none else separated first octets text with
    | some ([a, b, c, d], text) => (⟨[a * 256 + b, c * 256 + d], true⟩, text)
    | _ =>
      match separated first sixteenBits text with
      | none => (⟨[], false⟩, text)
      | some (g, text) =>
        let (more, text) := groups limit false text
        (⟨g :: more.groups, more.octets⟩, text)

/-- Eight groups, of which a run of zeros may be left out. -/
def eightGroups (text : List Char) : Option (List Nat × List Char) :=
  let (head, rest) := groups 8 true text
  if head.groups.length = 8 then some (head.groups, rest)
  else if head.octets then none
  else do
    let rest ← mark ':' rest >>= mark ':'
    let (tail, rest) := groups (7 - head.groups.length) true rest
    return (head.groups ++ List.replicate (8 - head.groups.length - tail.groups.length) 0 ++ tail.groups, rest)

/-- The scope that may follow the groups. -/
def scope (text : List Char) : Nat × List Char := (after '%' (number 10 (Word.size 32)) text).getD (0, text)

/-- An address of the older kind. -/
def older (text : List Char) : Option (Address × List Char) := do
  let (octets, text) ← octets text
  let (port, text) ← readPort text
  return (⟨.v4 octets, port⟩, text)

/-- An address of the newer kind. -/
def newer (text : List Char) : Option (Address × List Char) := do
  let (groups, text) ← after '[' eightGroups text
  let (scope, text) := scope text
  let (port, text) ← after ']' readPort text
  return (⟨.v6 groups scope, port⟩, text)

/-- Reads an address, which has to be the whole text. -/
def read? (s : String) : Option Address :=
  match older s.toList <|> newer s.toList with
  | some (a, []) => some a
  | _ => none

end GateOperator.Address
