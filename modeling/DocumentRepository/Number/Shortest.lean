import DocumentRepository.Number.Double

/-! # Shortest decimals

The fewest decimal digits that read back to a double: for one, two, … seventeen digits the two
neighbours of the value on that decimal grid are tried, and the first grid with a neighbour
among the reals that round to the value wins. -/
namespace DocumentRepository.Number

structure Decimal where
  digits : Nat
  exponent : Int
  deriving DecidableEq, Repr

inductive Tie where
  | up
  | even
  deriving DecidableEq, Repr

def compareScaled (a : Nat) (i : Int) (n : Nat) (j : Int) : Ordering :=
  compare ((a * tenTo i.toNat) <<< (-j).toNat) (n <<< j.toNat * tenTo (-i).toNat)

/-- Whether the gap below a finite double is half the gap above it. -/
def narrowBelow (x : Double) : Bool :=
  x.magnitude % (1 <<< 52) = 0 && 1 <<< 53 ≤ x.magnitude

/-- Whether a decimal lies among the reals that round to the absolute value of a double. The
ends of that interval belong to it when the significand is even. -/
def readsBack (x : Double) (d : Decimal) : Bool :=
  let m := x.scaled.significand
  let unit := x.scaled.exponent - 2
  let low := compareScaled d.digits d.exponent (if narrowBelow x then 4 * m - 1 else 4 * m - 2) unit
  let high := compareScaled d.digits d.exponent (4 * m + 2) unit
  let ends := m % 2 == 0
  (low == .gt || (ends && low == .eq)) && (high == .lt || (ends && high == .eq))

/-- The least power of ten above a positive scaled value, found from an estimate. -/
def decimalScale (value : Scaled) : Int :=
  let estimate : Int := ((value.significand.log2 : Int) + value.exponent) * 30103 / 100000
  if compareScaled 1 (estimate - 1) value.significand value.exponent == .gt then estimate - 1
  else if compareScaled 1 estimate value.significand value.exponent == .gt then estimate
  else if compareScaled 1 (estimate + 1) value.significand value.exponent == .gt then estimate + 1
  else estimate + 2

def floorOnGrid (value : Scaled) (grid : Int) : Nat :=
  ((value.significand * tenTo (-grid).toNat) <<< value.exponent.toNat) /
    (tenTo grid.toNat <<< (-value.exponent).toNat)

def nearestOnGrid (tie : Tie) (x : Double) (grid : Int) : Option Decimal :=
  let floor := floorOnGrid x.scaled grid
  let below : Decimal := ⟨floor, grid⟩
  let above : Decimal := ⟨floor + 1, grid⟩
  match readsBack x below, readsBack x above with
  | true, false => some below
  | false, true => some above
  | false, false => none
  | true, true =>
    match compareScaled (2 * floor + 1) grid (2 * x.scaled.significand) x.scaled.exponent with
    | .gt => some below
    | .lt => some above
    | .eq =>
      match tie with
      | .up => some above
      | .even => if floor % 2 = 0 then some below else some above

/-- Moves trailing zeros of the digits into the exponent, `fuel` of them at most. -/
def Decimal.strip : Nat → Decimal → Decimal
  | 0, d => d
  | fuel + 1, d =>
    if d.digits ≠ 0 ∧ d.digits % 10 = 0 then strip fuel ⟨d.digits / 10, d.exponent + 1⟩ else d

/-- The fewest digits that read back to the absolute value of a finite double. -/
def shortest (tie : Tie) (x : Double) : Decimal :=
  if x.scaled.significand = 0 then ⟨0, 0⟩
  else
    let scale := decimalScale x.scaled
    match (List.range 17).findSome? fun n => nearestOnGrid tie x (scale - (n + 1 : Nat)) with
    | some d => d.strip 20
    | none =>
      let (num, den) := x.scaled.quotient
      ⟨num * tenTo den.log2 / den, -(den.log2 : Int)⟩

end DocumentRepository.Number
