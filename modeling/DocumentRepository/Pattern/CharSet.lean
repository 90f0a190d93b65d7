import DocumentRepository.Text.Age
import DocumentRepository.Text.Breaks
import DocumentRepository.Text.CaseMap
import DocumentRepository.Text.Category
import DocumentRepository.Text.Script

/-! # Sets of characters in a pattern

A set is built from ranges by the operations that patterns can write. Its members are code
points. -/
namespace DocumentRepository.Pattern
open Text

inductive CharSet where
  | ranges (rs : Ranges)
  | alike (n : Nat)
  | union (a b : CharSet)
  | inter (a b : CharSet)
  | diff (a b : CharSet)
  | symm (a b : CharSet)
  | compl (a : CharSet)
  /-- The code points that agree with a member but for case. -/
  | folded (a : CharSet)
  /-- As `folded`, for the ASCII letters only. -/
  | foldedAscii (a : CharSet)
  deriving Repr

namespace CharSet

def otherAsciiCase (n : Nat) : Nat :=
  if 65 ≤ n ∧ n ≤ 90 then n + 32 else if 97 ≤ n ∧ n ≤ 122 then n - 32 else n

def contains : CharSet → Nat → Bool
  | ranges rs, n => rs.any (·.contains n)
  | alike m, n => fold n == fold m
  | union a b, n => a.contains n || b.contains n
  | inter a b, n => a.contains n && b.contains n
  | diff a b, n => a.contains n && !b.contains n
  | symm a b, n => a.contains n != b.contains n
  | compl a, n => !a.contains n
  | folded a, n => (orbit n).any a.contains
  | foldedAscii a, n => a.contains n || a.contains (otherAsciiCase n)

def single (c : Char) : CharSet := ranges [⟨c.toNat, c.toNat⟩]

def empty : CharSet := ranges []

def all : CharSet := ranges [⟨0, 0x10FFFF⟩]

def except (cs : List Char) : CharSet := compl (ranges (cs.map fun c => ⟨c.toNat, c.toNat⟩))

def ofPairs (pairs : List (Char × Char)) : CharSet :=
  ranges (pairs.map fun p => ⟨p.1.toNat, p.2.toNat⟩)

def foldIf (caseless unicode : Bool) (a : CharSet) : CharSet :=
  if caseless then (if unicode then folded a else foldedAscii a) else a

def complIf (negated : Bool) (a : CharSet) : CharSet := if negated then compl a else a

/-! ## Sets with a name -/

def asciiDigit : CharSet := ofPairs [('0', '9')]
def asciiSpace : CharSet := ofPairs [('\t', '\r'), (' ', ' ')]
def asciiWord : CharSet := ofPairs [('0', '9'), ('A', 'Z'), ('_', '_'), ('a', 'z')]

def property (name : String) : Ranges := (property? name).getD []

def category (name : String) : Ranges := (category? name).getD []

def digit : CharSet := ranges (category "nd")

def space : CharSet := ranges (property "whitespace")

/-- The characters of words: letters, marks, digits, joining punctuation and join controls. -/
def word : CharSet :=
  ranges (property "alphabetic" ++ category "m" ++ category "nd" ++ category "pc" ++ property "joincontrol").joined

def asciiClasses : List (String × CharSet) := [
  ("alnum", ofPairs [('0', '9'), ('A', 'Z'), ('a', 'z')]),
  ("alpha", ofPairs [('A', 'Z'), ('a', 'z')]),
  ("ascii", ofPairs [('\x00', '\x7f')]),
  ("blank", ofPairs [('\t', '\t'), (' ', ' ')]),
  ("cntrl", ofPairs [('\x00', '\x1f'), ('\x7f', '\x7f')]),
  ("digit", asciiDigit),
  ("graph", ofPairs [('!', '~')]),
  ("lower", ofPairs [('a', 'z')]),
  ("print", ofPairs [(' ', '~')]),
  ("punct", ofPairs [('!', '/'), (':', '@'), ('[', '\x60'), ('\x7b', '~')]),
  ("space", asciiSpace),
  ("upper", ofPairs [('A', 'Z')]),
  ("word", asciiWord),
  ("xdigit", ofPairs [('0', '9'), ('A', 'F'), ('a', 'f')])]

/-- A name as it is looked up: blanks, underscores and hyphens, case and a leading "is" do not
count. -/
def normalName (name : List Char) : String :=
  let leads := (name.take 2).map Char.toLower = ['i', 's']
  let body := if leads then name.drop 2 else name
  let kept := (body.filter fun c => c.toNat < 128 && c != ' ' && c != '_' && c != '-').map Char.toLower
  if leads && kept = ['c'] then "isc" else String.ofList kept

def categoryNamed? (name : String) : Option CharSet :=
  if name = "any" then some all
  else if name = "assigned" then some (compl (ranges (category "cn")))
  else if name = "ascii" then some (ofPairs [('\x00', '\x7f')])
  else (category? name).map ranges

/-- The set of a name alone. Three short names are categories and not properties. -/
def named? (name : String) : Option CharSet :=
  let asProperty := if ["cf", "sc", "lc"].contains name then none else (property? name).map ranges
  asProperty <|> categoryNamed? name <|> (script? name).map ranges

def valued? (name value : String) : Option CharSet :=
  match name with
  | "gc" | "generalcategory" => categoryNamed? value
  | "sc" | "script" => (script? value).map ranges
  | "scx" | "scriptextensions" => (scriptExtensions? value).map ranges
  | "age" => (age? value).map ranges
  | "gcb" | "graphemeclusterbreak" => (graphemeBreaks.class? value).map ranges
  | "wb" | "wordbreak" => (wordBreaks.class? value).map ranges
  | "sb" | "sentencebreak" => (sentenceBreaks.class? value).map ranges
  | _ => none

/-! ## Members -/

def codePoints : Ranges := [⟨0, 0x10FFFF⟩]

def casedPoints : List Nat :=
  foldRuns.flatMap fun run =>
    (List.range ((run.last - run.first) / run.step + 1)).flatMap fun i =>
      let n := run.first + i * run.step
      [n, fold n]

def among (ns : List Nat) (member : Nat → Bool) : Ranges := (ns.filter member).map fun n => ⟨n, n⟩

def members : CharSet → Ranges
  | ranges rs => rs.joined
  | alike n => Ranges.joined ((orbit n).map fun m => ⟨m, m⟩)
  | union a b => (a.members ++ b.members).joined
  | inter a b => a.members.without (codePoints.without b.members)
  | diff a b => a.members.without b.members
  | symm a b => (a.members.without b.members ++ b.members.without a.members).joined
  | compl a => codePoints.without a.members
  | folded a => (a.members ++ among casedPoints (folded a).contains).joined
  | foldedAscii a => (a.members ++ among (List.range 128) (foldedAscii a).contains).joined

end CharSet
end DocumentRepository.Pattern
