/-!
Semantic versions: three numbers, the identifiers of a pre-release, and the identifiers of build
metadata. Identifiers consist of ASCII letters, digits and hyphens.
-/

namespace GateOperator

/-- An identifier of a pre-release. -/
inductive Identifier where
  | numeric (n : Nat)
  | alphanumeric (s : String)
deriving DecidableEq

/-- A semantic version. -/
structure Version where
  major : Nat
  minor : Nat
  patch : Nat
  preRelease : List Identifier
  build : List String
deriving DecidableEq

end GateOperator
