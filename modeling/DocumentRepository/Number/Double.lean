import DocumentRepository.Number.Rounding

/-! # Doubles

A double is the word of its sign, exponent and fraction bits. The order is read off an
integer rank, on which both zeros agree; a NaN is comparable with nothing. -/
namespace DocumentRepository

open Number

structure Double where
  bits : UInt64
  deriving DecidableEq, Repr, Inhabited

namespace Double

def word (x : Double) : Nat := x.bits.toNat

def isNegative (x : Double) : Bool := 1 <<< 63 ≤ x.word

/-- The word without its sign; among numbers it grows with the absolute value. -/
def magnitude (x : Double) : Nat := x.word % (1 <<< 63)

def infiniteMagnitude : Nat := 0x7ff <<< 52

def isNaN (x : Double) : Bool := infiniteMagnitude < x.magnitude

def isFinite (x : Double) : Bool := x.magnitude < infiniteMagnitude

def rank (x : Double) : Int := if x.isNegative then -(x.magnitude : Int) else x.magnitude

/-- Numerical comparison; a NaN compares with nothing. -/
def compare? (x y : Double) : Option Ordering :=
  if x.isNaN || y.isNaN then none else some (compare x.rank y.rank)

/-- Numerical equality: the zeros agree, and a NaN equals nothing, itself included. -/
def equal (x y : Double) : Bool := !x.isNaN && !y.isNaN && x.rank == y.rank

def ofMagnitude (negative : Bool) (magnitude : Nat) : Double :=
  ⟨UInt64.ofNat (magnitude + if negative then 1 <<< 63 else 0)⟩

def scaled (x : Double) : Scaled :=
  let biased : Nat := x.magnitude >>> 52
  let fraction : Nat := x.magnitude % (1 <<< 52)
  if biased = 0 then ⟨fraction, -1074⟩ else ⟨1 <<< 52 + fraction, (biased : Int) - 1075⟩

/-- The double of a sign and a rounded absolute value; too large a value is infinite. -/
def ofScaled (negative : Bool) (value : Scaled) : Double :=
  let magnitude := (value.exponent + 1074).toNat <<< 52 + value.significand
  ofMagnitude negative (min magnitude infiniteMagnitude)

def ofQuotient (negative : Bool) (num den : Nat) : Double :=
  ofScaled negative (BinaryFormat.double.round num den)

def ofInt (i : Int) : Double := ofQuotient (i < 0) i.natAbs 1

def infinity (negative : Bool) : Double := ofMagnitude negative infiniteMagnitude

def zero (negative : Bool) : Double := ofMagnitude negative 0

/-- The double nearest to `± digits * 10 ^ exponent`. Exponents far beyond the format are
settled before any power of ten is taken. -/
def ofDecimal (negative : Bool) (digits : Nat) (exponent : Int) : Double :=
  let bound := exponent + (digits.log2 / 3 + 1 : Nat)
  if digits = 0 ∨ bound < -400 then zero negative
  else if 400 < exponent then infinity negative
  else ofQuotient negative (digits * tenTo exponent.toNat) (tenTo (-exponent).toNat)

def nan : Double := ofMagnitude false (infiniteMagnitude + 1 <<< 51)

/-- The least power of two that is no single. -/
def singleLimit : Nat := 1 <<< 128

def singleOfQuotient (negative : Bool) (num den : Nat) : Double :=
  let (n, d) := (BinaryFormat.single.round num den).quotient
  if singleLimit * d ≤ n then infinity negative else ofQuotient negative n d

def toSingle (x : Double) : Double :=
  if x.isFinite then
    let (n, d) := x.scaled.quotient
    singleOfQuotient x.isNegative n d
  else x

def singleOfInt (i : Int) : Double := singleOfQuotient (i < 0) i.natAbs 1

theorem equal_iff {x y : Double} :
    x.equal y = true ↔ x.isNaN = false ∧ y.isNaN = false ∧ x.rank = y.rank := by
  simp [equal, and_assoc]

theorem equal_comm (x y : Double) : x.equal y = y.equal x := by
  rw [Bool.eq_iff_iff, equal_iff, equal_iff]
  constructor <;> exact fun ⟨hx, hy, h⟩ => ⟨hy, hx, h.symm⟩

end Double

end DocumentRepository
