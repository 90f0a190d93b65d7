/-! # Sets of characters

A set of characters is a list of ranges of code points. Large sets are written as texts of run
lengths in base 36. -/
namespace DocumentRepository.Text

structure CodeRange where
  first : Nat
  last : Nat
  deriving DecidableEq, Repr

def CodeRange.contains (r : CodeRange) (n : Nat) : Bool := r.first ≤ n && n ≤ r.last

abbrev Ranges := List CodeRange

def CodeRange.around (r hole : CodeRange) : Ranges :=
  (if r.first < hole.first then [⟨r.first, min r.last (hole.first - 1)⟩] else []) ++
    if hole.last < r.last then [⟨max r.first (hole.last + 1), r.last⟩] else []

namespace Ranges

def contains (rs : Ranges) (c : Char) : Bool := rs.any (·.contains c.toNat)

def joined (rs : Ranges) : Ranges :=
  let step := fun (found : List CodeRange) (r : CodeRange) =>
    match found with
    | s :: rest => if r.first ≤ s.last + 1 then ⟨s.first, max s.last r.last⟩ :: rest else r :: found
    | [] => [r]
  ((rs.mergeSort fun r s => r.first ≤ s.first).foldl step []).reverse

def without (rs holes : Ranges) : Ranges :=
  holes.foldl (fun rest hole => rest.flatMap (·.around hole)) rs

end Ranges

def base36Value (c : Char) : Nat :=
  if '0' ≤ c ∧ c ≤ '9' then c.toNat - '0'.toNat else c.toNat - 'a'.toNat + 10

def readNumbers (text : String) : List Nat :=
  let step := fun (state : Nat × List Nat) (c : Char) =>
    if c = ' ' then (0, state.1 :: state.2) else (36 * state.1 + base36Value c, state.2)
  let (last, read) := text.toList.foldl step (0, [])
  (last :: read).reverse

/-- The ranges of run lengths: code points outside and code points inside, in turn. -/
def rangesFrom (start : Nat) : List Nat → Ranges
  | outside :: inside :: rest =>
    ⟨start + outside, start + outside + inside - 1⟩ :: rangesFrom (start + outside + inside) rest
  | _ => []

def ofRuns (text : String) : Ranges := rangesFrom 0 (readNumbers text)

/-- Runs named by letters: a name of capital letters and a length, one when left out. -/
structure LetterRuns where
  name : List Char
  length : Nat
  start : Nat
  found : List CodeRange

def LetterRuns.close (wanted : List Char → Bool) (s : LetterRuns) : LetterRuns :=
  if s.name.isEmpty then s
  else
    let length := if s.length = 0 then 1 else s.length
    let found := if wanted s.name then ⟨s.start, s.start + length - 1⟩ :: s.found else s.found
    ⟨[], 0, s.start + length, found⟩

/-- The ranges of the runs whose name is wanted; names have `width` characters. -/
def ofLetterRuns (wanted : List Char → Bool) (width : Nat) (text : String) : Ranges :=
  let step := fun (s : LetterRuns) (c : Char) =>
    if c.isDigit || c.isLower then { s with length := 36 * s.length + base36Value c }
    else if s.name.length < width then { s with name := s.name ++ [c] }
    else { s.close wanted with name := [c] }
  Ranges.joined ((text.toList.foldl step ⟨[], 0, 0, []⟩).close wanted).found

end DocumentRepository.Text
