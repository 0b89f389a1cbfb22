/-!
Sets of code points, given as closed ranges. Membership is by the numeric value of a character.
-/

namespace GateOperator.Text

/-- A set of code points as a table of closed ranges. -/
abbrev CodePoints := Array (Nat × Nat)

namespace CodePoints

/-- Some range of the table holds the character. -/
def holds (table : CodePoints) (c : Char) : Bool :=
  table.any fun range => range.1 ≤ c.toNat && c.toNat ≤ range.2

end CodePoints

end GateOperator.Text
