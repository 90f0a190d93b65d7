import DocumentRepository.Pattern.Bracket
import DocumentRepository.Pattern.Room

/-! # Reading a pattern

A pattern is alternatives of items in a row; an item is a character, a set, a condition on the
place or a group, and can be repeated. Flags hold up to the end of the group they stand in. -/
namespace DocumentRepository.Pattern
open Text

structure Fragment where
  node : Node
  depth : Nat

namespace Fragment

def ofNode (node : Node) : Fragment := ⟨node, 0⟩

/-- Several fragments are one level deeper than the deepest of them. -/
def joinedDepth (fs : List Fragment) : Nat :=
  let deepest := (fs.map (·.depth)).foldl max 0
  if fs.length < 2 then deepest else deepest + 1

def inRow (fs : List Fragment) : Fragment := ⟨Node.ofList (fs.map (·.node)), joinedDepth fs⟩

def oneOf (fs : List Fragment) : Fragment := ⟨Node.anyOf (fs.map (·.node)), joinedDepth fs⟩

def repeated (least : Nat) (most : Option Nat) (f : Fragment) : Fragment :=
  ⟨.times f.node least most, f.depth + 1⟩

def grouped (captures : Bool) (f : Fragment) : Fragment :=
  ⟨if captures then .group f.node else f.node, f.depth + 1⟩

end Fragment

/-- An item of a row; a group of flags cannot be repeated. -/
structure Item where
  fragment : Fragment
  repeatable : Bool

/-- A group's content so far, the last alternative and the last item first. -/
structure Row where
  alternatives : List Fragment
  items : List Item

namespace Row

def empty : Row := ⟨[], []⟩

def add (row : Row) (f : Fragment) : Row := { row with items := ⟨f, true⟩ :: row.items }

def addFlags (row : Row) : Row :=
  { row with items := ⟨Fragment.ofNode .empty, false⟩ :: row.items }

def alternative (row : Row) : Row :=
  ⟨Fragment.inRow (row.items.reverse.map (·.fragment)) :: row.alternatives, []⟩

def close (row : Row) : Fragment := Fragment.oneOf row.alternative.alternatives.reverse

def repeatLast (row : Row) (least : Nat) (most : Option Nat) : Option Row :=
  match row.items with
  | ⟨f, true⟩ :: rest => some { row with items := ⟨f.repeated least most, true⟩ :: rest }
  | _ => none

end Row

/-! ## Counts -/

def readDigits (f : Flags) : Nat → List Char → List Char × List Char
  | 0, cs => ([], cs)
  | _, [] => ([], [])
  | k + 1, c :: rest =>
    if c.isDigit then
      let (digits, rest) := readDigits f k (f.skip rest)
      (c :: digits, rest)
    else ([], c :: rest)

def readCount (f : Flags) (cs : List Char) : Option Nat × List Char :=
  let (digits, rest) := readDigits f cs.length (cs.dropWhile isBlank)
  let n := digits.foldl (fun n c => 10 * n + (c.toNat - '0'.toNat)) 0
  let count := if digits.isEmpty || UInt32.size ≤ n then none else some n
  (count, f.skip (rest.dropWhile isBlank))

def readBounds (f : Flags) (cs : List Char) : Option (Nat × Option Nat × List Char) := do
  let (least, rest) := readCount f (f.skip cs)
  let (bounds, rest) ← match rest with
    | ',' :: more =>
      match f.skip more with
      | '\x7d' :: _ => pure ((← least, none), f.skip more)
      | more => do
        let low ← least
        let (most, rest) := readCount f more
        pure ((low, some (← most)), rest)
    | _ => do pure ((← least, some (← least)), rest)
  match rest with
  | '\x7d' :: rest =>
    if bounds.2.all (bounds.1 ≤ ·) then return (bounds.1, bounds.2, f.skip rest) else none
  | _ => none

/-- A question mark behind a repetition prefers short matches and changes no answer. -/
def dropPreference : List Char → List Char
  | '?' :: rest => rest
  | cs => cs

/-! ## Groups -/

inductive Opening where
  | capture (name : Option String)
  | scoped (flags : Flags)
  | flags (flags : Flags)

/-- The letters of flags up to the end of the flag group. A letter or the sign stands at most
once, and a letter follows the sign. -/
def readFlags (f : Flags) (seen : List Char) (last : Char) :
    List Char → Option (Flags × Bool × List Char)
  | [] => none
  | c :: rest =>
    if c = ':' || c = ')' then
      if last = '-' then none else some (f, c = ')' , rest)
    else if seen.contains c then none
    else if c = '-' then readFlags f (c :: seen) c rest
    else do readFlags (← f.switch (!seen.contains '-') c) (c :: seen) c rest

def isNumeric (c : Char) : Bool := (CharSet.category "n").contains c

def isNameChar (first : Bool) (c : Char) : Bool :=
  c = '_' || (CharSet.property "alphabetic").contains c
    || (!first && (c = '.' || c = '[' || c = ']' || isNumeric c))

def readName (cs : List Char) : Option (Opening × List Char) :=
  let name := cs.takeWhile (· != '>')
  match cs.dropWhile (· != '>'), name with
  | '>' :: rest, c :: more =>
    if isNameChar true c && more.all (isNameChar false) then
      some (.capture (some (String.ofList name)), rest)
    else none
  | _, _ => none

/-- The opening of a group, behind its parenthesis. Conditions on what is ahead or behind are
not part of the language. -/
def readOpening (f : Flags) (cs : List Char) : Option (Opening × List Char) :=
  match f.skip cs with
  | '?' :: 'P' :: '<' :: rest => readName rest
  | '?' :: '=' :: _ => none
  | '?' :: '!' :: _ => none
  | '?' :: '<' :: '=' :: _ => none
  | '?' :: '<' :: '!' :: _ => none
  | '?' :: '<' :: rest => readName rest
  | '?' :: ')' :: _ => none
  | '?' :: rest => do
    let (flags, alone, rest) ← readFlags f [] '?' rest
    return (if alone then .flags flags else .scoped flags, rest)
  | cs => some (.capture none, cs)

/-! ## The whole -/

def lineStart (f : Flags) : Look :=
  if !f.multiline then .textStart else if f.crlf then .crlfStart else .lineStart

def lineEnd (f : Flags) : Look :=
  if !f.multiline then .textEnd else if f.crlf then .crlfEnd else .lineEnd

def addAtom (f : Flags) (row : Row) (atom : Atom) : Option Row :=
  (atom.node? f).map fun node => row.add (Fragment.ofNode node)

/-- The content of a group, or of the whole pattern if `inner` is false, with the names of groups
that were used so far. Every step takes a character, so a bound above the number of characters
is never met. -/
def readRow : Nat → Bool → Flags → List String → Row → List Char →
    Option (Fragment × List String × List Char)
  | 0, _, _, _, _, _ => none
  | k + 1, inner, f, names, row, cs => do
    match f.skip cs with
    | [] => if inner then none else some (row.close, names, [])
    | ')' :: rest => if inner then some (row.close, names, rest) else none
    | '|' :: rest => readRow k inner f names row.alternative rest
    | '(' :: rest =>
      let (opening, rest) ← readOpening f rest
      match opening with
      | .flags flags => readRow k inner flags names row.addFlags rest
      | .scoped flags =>
        let (inside, names, rest) ← readRow k true flags names Row.empty rest
        readRow k inner f names (row.add (inside.grouped false)) rest
      | .capture name =>
        let names ← match name with
          | none => some names
          | some name => if names.contains name then none else some (name :: names)
        let (inside, names, rest) ← readRow k true f names Row.empty rest
        readRow k inner f names (row.add (inside.grouped true)) rest
    | '[' :: rest =>
      let (inside, rest) ← readBracket f rest
      let fragment := { Fragment.ofNode (.set inside.set) with depth := inside.depth }
      readRow k inner f names (row.add fragment) rest
    | '?' :: rest => readRow k inner f names (← row.repeatLast 0 (some 1)) (dropPreference rest)
    | '*' :: rest => readRow k inner f names (← row.repeatLast 0 none) (dropPreference rest)
    | '+' :: rest => readRow k inner f names (← row.repeatLast 1 none) (dropPreference rest)
    | '\x7b' :: rest =>
      let (least, most, rest) ← readBounds f rest
      readRow k inner f names (← row.repeatLast least most) (dropPreference rest)
    | '\\' :: rest =>
      let (atom, rest) ← readEscape f rest
      readRow k inner f names (← addAtom f row atom) rest
    | '.' :: rest => readRow k inner f names (← addAtom f row .dot) rest
    | '^' :: rest => readRow k inner f names (← addAtom f row (.look (lineStart f))) rest
    | '$' :: rest => readRow k inner f names (← addAtom f row (.look (lineEnd f))) rest
    | c :: rest => readRow k inner f names (← addAtom f row (.literal c false)) rest

def depthLimit : Nat := 250

def readNode? (caseless : Bool) (source : String) : Option Node := do
  let cs := source.toList
  let (whole, _, _) ← readRow (cs.length + 1) false { Flags.plain with caseless } [] Row.empty cs
  if whole.depth ≤ depthLimit && whole.node.fits then return whole.node else none

end DocumentRepository.Pattern
