/-!
Addresses to listen on, and their text. The text of an address is canonical: the longest run of zero groups
of an address of the newer kind is left out, and the groups have no leading zeros.
-/

namespace GateOperator

/-- The address of a host. -/
inductive HostAddress where
  | v4 (octets : List Nat)
  /-- The scope is zero for an address that is the same everywhere. -/
  | v6 (groups : List Nat) (scope : Nat)
deriving DecidableEq

/-- A port of a host. -/
structure Address where
  host : HostAddress
  port : Nat
deriving DecidableEq

namespace Address

/-- Numbers with points between them. -/
def dotted (octets : List Nat) : String := ".".intercalate (octets.map toString)

/-- A group in base sixteen. -/
def group (n : Nat) : String := String.ofList (Nat.toDigits 16 n)

/-- Groups with colons between them. -/
def grouped (groups : List Nat) : String := ":".intercalate (groups.map group)

/-- A run of zero groups. -/
structure Run where
  start : Nat
  length : Nat
deriving DecidableEq

/-- The longest run of zeros, the first of several; `current` is the run that ends at `position`. -/
def longestRun (position : Nat) (current longest : Run) : List Nat → Run
  | [] => longest
  | 0 :: groups =>
    let current := if current.length = 0 then ⟨position, 1⟩ else ⟨current.start, current.length + 1⟩
    longestRun (position + 1) current (if longest.length < current.length then current else longest) groups
  | _ :: groups => longestRun (position + 1) ⟨0, 0⟩ longest groups

/-- The octets of a pair of groups. -/
def octetsOf (high low : Nat) : List Nat := [high / 256, high % 256, low / 256, low % 256]

/-- The text of eight groups. -/
def groupsText : List Nat → String
  | [0, 0, 0, 0, 0, 65535, high, low] => "::ffff:" ++ dotted (octetsOf high low)
  | groups =>
    let run := longestRun 0 ⟨0, 0⟩ ⟨0, 0⟩ groups
    if 1 < run.length then grouped (groups.take run.start) ++ "::" ++ grouped (groups.drop (run.start + run.length))
    else grouped groups

def hostText : HostAddress → String
  | .v4 octets => dotted octets
  | .v6 groups 0 => "[" ++ groupsText groups ++ "]"
  | .v6 groups scope => "[" ++ groupsText groups ++ "%" ++ toString scope ++ "]"

def text (a : Address) : String := hostText a.host ++ ":" ++ toString a.port

end Address

end GateOperator
