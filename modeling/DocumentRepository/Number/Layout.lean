import DocumentRepository.Number.Shortest

/-! # Number layout

A layout says how the digits of a double are laid out: from which exponents on they are
written positionally, whether a point is always written, and how the special values read. -/
namespace DocumentRepository.Number

/-- The decisions of a number format. Exponents are those of the leading digit. -/
structure Layout where
  tie : Tie
  /-- The exponents written positionally; all of them when absent. -/
  positional : Option (Int × Int)
  /-- Whether a whole number written positionally ends in a point and a zero. -/
  pointAlways : Bool
  nan : String
  infinity : String
  negativeInfinity : String

/-- Digits with the point before the `places` last of them, zeros filling up. -/
def pointed (digits : String) (places : Nat) : String :=
  let padded := String.ofList (List.replicate (places + 1 - digits.length) '0') ++ digits
  let whole := padded.length - places
  String.ofList (padded.toList.take whole) ++ "." ++ String.ofList (padded.toList.drop whole)

def positionalText (pointAlways : Bool) (d : Decimal) : String :=
  let digits := toString d.digits
  if 0 ≤ d.exponent then
    digits ++ String.ofList (List.replicate d.exponent.toNat '0') ++ if pointAlways then ".0" else ""
  else pointed digits (-d.exponent).toNat

def scientificText (d : Decimal) : String :=
  let digits := (toString d.digits).toList
  let exponent := d.exponent + (digits.length - 1 : Nat)
  let fraction := if digits.length ≤ 1 then "" else "." ++ String.ofList (digits.drop 1)
  String.ofList (digits.take 1) ++ fraction ++ "e" ++ (if exponent < 0 then "" else "+") ++ toString exponent

def Layout.write (n : Layout) (x : Double) : String :=
  if x.isNaN then n.nan
  else if !x.isFinite then if x.isNegative then n.negativeInfinity else n.infinity
  else
    let d := shortest n.tie x
    let leading := d.exponent + ((toString d.digits).length - 1 : Nat)
    let body :=
      match n.positional with
      | none => positionalText n.pointAlways d
      | some (least, limit) =>
        if (least ≤ leading ∧ leading < limit) ∨ d.digits = 0 then positionalText n.pointAlways d else scientificText d
    if x.isNegative then "-" ++ body else body

def plain : Layout where
  tie := .up
  positional := none
  pointAlways := false
  nan := "NaN"
  infinity := "inf"
  negativeInfinity := "-inf"

end DocumentRepository.Number
