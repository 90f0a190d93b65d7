/-! # Rounding a quotient

A quotient of naturals is rounded to the nearest natural, a half going to the even
neighbour, and to the nearest value `m * 2 ^ q` of a binary format. -/
namespace DocumentRepository.Number

/-- The natural nearest to `num / den`; a half goes to the even neighbour. -/
def roundHalfEven (num den : Nat) : Nat :=
  let quotient := num / den
  let rest := num % den
  if den < 2 * rest ∨ (2 * rest = den ∧ quotient % 2 = 1) then quotient + 1 else quotient

structure BinaryFormat where
  precision : Nat
  leastExponent : Int

def BinaryFormat.double : BinaryFormat := ⟨53, -1074⟩

def BinaryFormat.single : BinaryFormat := ⟨24, -149⟩

def tenTo (n : Nat) : Nat := Nat.pow 10 n

def belowPower (num den : Nat) (e : Int) : Bool :=
  num <<< (-e).toNat < den <<< e.toNat

/-- The greatest `e` with `2 ^ e ≤ num / den`, for a positive quotient. -/
def quotientLog2 (num den : Nat) : Int :=
  let estimate : Int := (num.log2 : Int) - den.log2
  if belowPower num den estimate then estimate - 1 else estimate

structure Scaled where
  significand : Nat
  exponent : Int
  deriving DecidableEq, Repr

def Scaled.quotient (value : Scaled) : Nat × Nat :=
  (value.significand <<< value.exponent.toNat, 1 <<< (-value.exponent).toNat)

/-- The value of the format nearest to `num / den`, exponents being unbounded above. -/
def BinaryFormat.round (format : BinaryFormat) (num den : Nat) : Scaled :=
  if num = 0 then ⟨0, format.leastExponent⟩
  else
    let unit := max format.leastExponent (quotientLog2 num den - (format.precision - 1))
    ⟨roundHalfEven (num <<< (-unit).toNat) (den <<< unit.toNat), unit⟩

theorem roundHalfEven_one (n : Nat) : roundHalfEven n 1 = n := by
  simp [roundHalfEven, Nat.mod_one]

end DocumentRepository.Number
