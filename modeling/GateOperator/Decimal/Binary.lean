import GateOperator.Data.Word

/-!
The exact value of a double: a natural number times a power of two, with a sign.
-/

namespace GateOperator.Decimal

/-- The magnitude `significand · 2 ^ exponent`. -/
structure Binary where
  significand : Nat
  exponent : Int

namespace Binary

/-- The fraction bits of a double. -/
def fraction (bits : Nat) : Nat := bits % Word.size 52

/-- The biased exponent of a double. -/
def biased (bits : Nat) : Nat := bits / Word.size 52 % Word.size 11

/-- The magnitude written by the bits of a double; none for an infinity or no number. -/
def ofBits? (bits : Nat) : Option Binary :=
  if biased bits = 2047 then none
  else if biased bits = 0 then some ⟨fraction bits, -1074⟩
  else some ⟨Word.size 52 + fraction bits, (biased bits : Int) - 1075⟩

/-- The sign bit of a double. -/
def isNegative (bits : Nat) : Bool := bits / Word.size 63 % 2 = 1

/-- The doubles just below and just above lie at different distances, the lower at half the upper. -/
def isPower (b : Binary) : Bool := b.significand = Word.size 52 && b.exponent ≠ -1074

end Binary

end GateOperator.Decimal
