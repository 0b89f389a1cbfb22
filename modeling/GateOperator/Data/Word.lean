/-!
The whole numbers that fit a word of so many bits, with a sign or without.
-/

namespace GateOperator.Word

/-- The number of values of a word. -/
def size (bits : Nat) : Nat := Nat.pow 2 bits

/-- A number fits a word without a sign. -/
abbrev Holds (bits : Nat) (i : Int) : Prop := 0 ≤ i ∧ i < size bits

/-- A number fits a word with a sign. -/
abbrev HoldsSigned (bits : Nat) (i : Int) : Prop := -(size (bits - 1) : Int) ≤ i ∧ i < size (bits - 1)

end GateOperator.Word
