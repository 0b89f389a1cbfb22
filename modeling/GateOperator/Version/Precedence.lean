import GateOperator.Version.Basic

/-!
The precedence of semantic versions. The numbers decide first; a pre-release is below its release, and
two pre-releases compare identifier by identifier, numbers below words and a shorter list below its
continuations. Build metadata takes no part.
-/

namespace GateOperator

/-- Numbers by value, words by code points, and every number below every word. -/
def Identifier.order : Identifier → Identifier → Ordering
  | numeric m, numeric n => compare m n
  | numeric _, alphanumeric _ => .lt
  | alphanumeric _, numeric _ => .gt
  | alphanumeric s, alphanumeric t => compare s t

namespace Version

/-- The first difference decides; a list is below its continuations. -/
def identifiersOrder : List Identifier → List Identifier → Ordering
  | [], [] => .eq
  | [], _ :: _ => .lt
  | _ :: _, [] => .gt
  | a :: as, b :: bs => (a.order b).then (identifiersOrder as bs)

/-- No pre-release at all is above every pre-release. -/
def preReleaseOrder : List Identifier → List Identifier → Ordering
  | [], [] => .eq
  | [], _ :: _ => .gt
  | _ :: _, [] => .lt
  | as, bs => identifiersOrder as bs

/-- Precedence of semantic versions. -/
def order (a b : Version) : Ordering :=
  (compare a.major b.major).then <| (compare a.minor b.minor).then <| (compare a.patch b.patch).then <|
    preReleaseOrder a.preRelease b.preRelease

/-- The version has at least the precedence of the required one. -/
def reaches (observed required : Version) : Bool := observed.order required != .lt

end Version

end GateOperator
