import GateOperator.Decimal.Binary

/-!
The shortest decimal that reads back as a given double. Of the decimals with the fewest digits in the
interval of reals that round to the double, it is the one nearest to the double.
-/

namespace GateOperator

/-- The decimal `digits · 10 ^ exponent`. -/
structure Decimal where
  digits : Nat
  exponent : Int
deriving DecidableEq

namespace Decimal

/-- A magnitude with the interval that rounds to it, all in the unit `2 ^ scale`. -/
structure Interval where
  low : Nat
  value : Nat
  high : Nat
  scale : Int
  closed : Bool

/-- The reals that round to a double: half way to its neighbours, with the ends when its significand is
    even. -/
def Interval.of (b : Binary) : Interval where
  low := 4 * b.significand - (if b.isPower then 1 else 2)
  value := 4 * b.significand
  high := 4 * b.significand + 2
  scale := b.exponent - 2
  closed := b.significand % 2 = 0

/-- The factor that turns the unit `2 ^ scale` into the grid step `10 ^ exponent`, as a fraction. -/
def gridFactor (scale exponent : Int) : Nat × Nat :=
  (Nat.pow 2 scale.toNat * Nat.pow 10 (-exponent).toNat, Nat.pow 2 (-scale).toNat * Nat.pow 10 exponent.toNat)

/-- A multiple of the grid step lies in the interval. -/
def Interval.holds (i : Interval) (factor : Nat × Nat) (d : Nat) : Bool :=
  let at' := d * factor.2
  if i.closed then i.low * factor.1 ≤ at' && at' ≤ i.high * factor.1
  else i.low * factor.1 < at' && at' < i.high * factor.1

/-- The grid point of the interval nearest to its value, if the interval holds a grid point. -/
def Interval.nearest? (i : Interval) (exponent : Int) : Option Decimal :=
  let factor := gridFactor i.scale exponent
  let scaled := i.value * factor.1
  let below := scaled / factor.2
  let above := below + 1
  match i.holds factor below, i.holds factor above with
  | true, true =>
    some ⟨if scaled - below * factor.2 ≤ above * factor.2 - scaled then below else above, exponent⟩
  | true, false => some ⟨below, exponent⟩
  | false, true => some ⟨above, exponent⟩
  | false, false => none

/-- The least `k` from `start` on, within `steps` tries, with the value below `10 ^ k`. -/
def Interval.magnitude (i : Interval) : Nat → Int → Int
  | 0, k => k
  | steps + 1, k =>
    let factor := gridFactor i.scale k
    if i.value * factor.1 < factor.2 then k else i.magnitude steps (k + 1)

/-- A start below the magnitude of the value, from its number of binary digits. -/
def Interval.start (i : Interval) : Int := ((i.value.log2 : Int) + i.scale) * 30103 / 100000 - 1

/-- Tries grids from coarse to fine. -/
def Interval.search (i : Interval) (magnitude : Int) : Nat → Nat → Option Decimal
  | 0, _ => none
  | left + 1, count =>
    match i.nearest? (magnitude - count) with
    | some d => some d
    | none => i.search magnitude left (count + 1)

/-- Drops the zeros at the end of the digits. -/
def trim (d : Decimal) : Nat → Decimal
  | 0 => d
  | steps + 1 => if d.digits % 10 = 0 ∧ d.digits ≠ 0 then trim ⟨d.digits / 10, d.exponent + 1⟩ steps else d

/-- The shortest decimal for a magnitude; seventeen digits always suffice. -/
def shortest (b : Binary) : Decimal :=
  if b.significand = 0 then ⟨0, 0⟩
  else
    let i := Interval.of b
    match i.search (i.magnitude 5 i.start) 17 1 with
    | some d => d.trim 20
    | none => ⟨0, 0⟩

/-- The digits as characters. -/
def characters (d : Decimal) : List Char := Nat.toDigits 10 d.digits

/-- Written out without an exponent, and without a point when it is whole. -/
def positional (d : Decimal) : List Char :=
  let cs := d.characters
  let point := (cs.length : Int) + d.exponent
  if 0 ≤ d.exponent then (if d.digits = 0 then ['0'] else cs ++ List.replicate d.exponent.toNat '0')
  else if 0 < point then cs.take point.toNat ++ '.' :: cs.drop point.toNat
  else '0' :: '.' :: List.replicate (-point).toNat '0' ++ cs

/-- Written with a point, and with an exponent when the point stands far outside the digits. -/
def scientific (d : Decimal) : List Char :=
  let cs := d.characters
  let point := (cs.length : Int) + d.exponent
  if d.digits = 0 then ['0', '.', '0']
  else if 0 ≤ d.exponent ∧ point ≤ 16 then cs ++ List.replicate d.exponent.toNat '0' ++ ['.', '0']
  else if 0 < point ∧ point ≤ 16 then cs.take point.toNat ++ '.' :: cs.drop point.toNat
  else if -5 < point ∧ point ≤ 0 then '0' :: '.' :: List.replicate (-point).toNat '0' ++ cs
  else
    let exponent := (toString (point - 1)).toList
    match cs with
    | [c] => c :: 'e' :: exponent
    | c :: rest => c :: '.' :: rest ++ 'e' :: exponent
    | [] => []

/-- Puts the sign of a double before its magnitude, with words for what has none. -/
def signed (write : Decimal → List Char) (notANumber infinite : List Char) (x : Float) : List Char :=
  let bits := x.toBits.toNat
  let sign := if Binary.isNegative bits then ['-'] else []
  match Binary.ofBits? bits with
  | some b => sign ++ write (shortest b)
  | none => if Binary.fraction bits = 0 then sign ++ infinite else notANumber

/-- A double without an exponent, as in the text exposition of metrics. -/
def ofFloat (x : Float) : String := String.ofList (signed positional "NaN".toList "inf".toList x)

/-- The double nearest to `digits · 10 ^ exponent`, infinite when it is beyond all doubles. -/
def toFloat (negative : Bool) (digits : Nat) (exponent : Int) : Float :=
  let size := ((Nat.toDigits 10 digits).length : Int) + exponent
  let magnitude : Float :=
    if digits = 0 ∨ size < -400 then 0.0
    else if 400 < size then 1.0 / 0.0
    else Float.ofScientific digits (exponent < 0) exponent.natAbs
  if negative then -magnitude else magnitude

end Decimal

end GateOperator
