import DocumentRepository.Text.CaseTable
import DocumentRepository.Text.Property

/-! # Case

Small and capital forms of characters and texts. `fold` names the class of characters that
agree but for case, and `orbit` lists such a class. -/
namespace DocumentRepository.Text

def CaseRun.contains (run : CaseRun) (n : Nat) : Bool :=
  run.first ≤ n && n ≤ run.last && (n - run.first) % run.step == 0

def shifted? : List CaseRun → Nat → Option Nat
  | [], _ => none
  | run :: rest, n =>
    if n < run.first then none
    else if run.contains n then some (n + run.shift).toNat
    else shifted? rest n

def lowerChar (c : Char) : List Char :=
  match lowerSpecials.lookup c.toNat with
  | some ns => ns.map Char.ofNat
  | none => [Char.ofNat ((shifted? lowerRuns c.toNat).getD c.toNat)]

def upperChar (c : Char) : List Char :=
  match upperSpecials.lookup c.toNat with
  | some ns => ns.map Char.ofNat
  | none => [Char.ofNat ((shifted? upperRuns c.toNat).getD c.toNat)]

/-- The representative of the code points that agree with this one but for case. -/
def fold (n : Nat) : Nat := (shifted? foldRuns n).getD n

/-- The code points that agree with this one but for case, itself included. -/
def orbit (n : Nat) : List Nat :=
  fold n :: foldRuns.filterMap fun run =>
    let origin := ((fold n : Int) - run.shift).toNat
    if run.contains origin then some origin else none

def caseIgnorable : Ranges := (property? "caseignorable").getD []

def cased : Ranges := (property? "cased").getD []

/-- Whether a cased character follows behind characters that case ignores. -/
def reachesCased (cs : List Char) : Bool :=
  ((cs.dropWhile caseIgnorable.contains).head?.map cased.contains).getD false

/-- The small form of a text; `before` holds the characters already read, the last one first.
A capital sigma at the end of a word has a form of its own. -/
def lowerFrom (before : List Char) : List Char → List Char
  | [] => []
  | c :: rest =>
    let image :=
      if c = 'Σ' then if reachesCased before && !reachesCased rest then ['ς'] else ['σ']
      else lowerChar c
    image ++ lowerFrom (c :: before) rest

def lower (s : String) : String := String.ofList (lowerFrom [] s.toList)

def upper (s : String) : String := String.ofList (s.toList.flatMap upperChar)

def capitalizeFirst : List Char → List Char
  | [] => []
  | c :: rest => c.toUpper :: rest

end DocumentRepository.Text
