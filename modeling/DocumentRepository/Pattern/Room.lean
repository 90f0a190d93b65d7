import DocumentRepository.Pattern.Node

/-! # The room of a pattern

A matcher for a pattern is a graph of states that reads the bytes of a text. There are two of
them, one that reads forwards and one that reads backwards. The room of a pattern is what the
states take; a pattern that takes too much is refused. -/
namespace DocumentRepository.Pattern
open Text

/-! ## Characters as bytes -/

abbrev ByteSequence := List CodeRange

/-- The sequences of digits to the base 64 that stand for the numbers of a range. So many digits
stand behind the first one, which has no bound. -/
def digitSequences : Nat → CodeRange → List ByteSequence
  | 0, r => [[r]]
  | k + 1, r =>
    let unit := 1 <<< (6 * (k + 1))
    let startsWhole := r.first % unit = 0
    let endsWhole := r.last % unit = unit - 1
    let first := r.first / unit
    let last := r.last / unit
    let under := fun (digit : Nat) (inside : CodeRange) =>
      (digitSequences k inside).map (⟨digit, digit⟩ :: ·)
    if first = last then under first ⟨r.first % unit, r.last % unit⟩
    else
      let low := if startsWhole then first else first + 1
      let behind := if endsWhole then last + 1 else last
      (if startsWhole then [] else under first ⟨r.first % unit, unit - 1⟩) ++
        (if low < behind then [⟨low, behind - 1⟩ :: List.replicate (k + 1) ⟨0, 63⟩] else []) ++
        (if endsWhole then [] else under last ⟨0, r.last % unit⟩)

/-- The characters that are encoded in so many bytes and one, and what the first byte adds to its
digit. -/
def encodings : List (Nat × CodeRange × Nat) := [
  (0, ⟨0, 0x7F⟩, 0),
  (1, ⟨0x80, 0x7FF⟩, 0xC0),
  (2, ⟨0x800, 0xD7FF⟩, 0xE0),
  (2, ⟨0xE000, 0xFFFF⟩, 0xE0),
  (3, ⟨0x10000, 0x10FFFF⟩, 0xF0)]

def CodeRange.shift (distance : Nat) (r : CodeRange) : CodeRange := ⟨r.first + distance, r.last + distance⟩

def ofDigits (lead : Nat) : ByteSequence → ByteSequence
  | [] => []
  | r :: rest => CodeRange.shift lead r :: rest.map (CodeRange.shift 0x80)

def byteSequences (r : CodeRange) : List ByteSequence :=
  encodings.flatMap fun (behind, span, lead) =>
    let first := max r.first span.first
    let last := min r.last span.last
    if first ≤ last then (digitSequences behind ⟨first, last⟩).map (ofDigits lead) else []

/-! ## Trees of bytes -/

def addBranch (s : ByteSequence) (found : List (CodeRange × List ByteSequence)) :
    List (CodeRange × List ByteSequence) :=
  match s, found with
  | [], _ => found
  | r :: rest, (q, rests) :: others => if r = q then (q, rest :: rests) :: others else (r, [rest]) :: found
  | r :: rest, [] => [(r, [rest])]

def branches (ss : List ByteSequence) : List (CodeRange × List ByteSequence) := ss.foldr addBranch []

/-- The places of the tree of some sequences where a byte can be read. Each is what is left of the
sequences there. The number bounds their length. -/
def treePlaces : Nat → List ByteSequence → List (List ByteSequence)
  | 0, _ => []
  | k + 1, ss =>
    if ss.all List.isEmpty then [] else ss :: (branches ss).flatMap fun branch => treePlaces k branch.2

/-! ## The room of sets -/

inductive Direction where
  | forwards
  | backwards
  deriving DecidableEq, Repr

def stateRoom : Nat := 32

def stepRoom : Nat := 8

def jumpRoom : Nat := 4

/-- The room of the states that read one of several characters. Forwards, places of the tree from
which the same can follow share a state. Backwards, each branch of the tree is a state. -/
def treeRoom (d : Direction) (rs : Ranges) : Nat :=
  let ss := rs.flatMap byteSequences
  let places := treePlaces 4 ss
  match d with
  | .forwards =>
    places.eraseDups.foldl (fun room place => room + stateRoom + stepRoom * (branches place).length) stateRoom
  | .backwards =>
    places.foldl (fun room place => room + stateRoom * (branches place).length)
      (2 * stateRoom + jumpRoom * ss.length)

/-- The room of the states for a set. A single character is a row of bytes; ASCII characters need
one step each. -/
def CharSet.room (d : Direction) (s : CharSet) : Nat :=
  let rs := s.members
  let one := match rs with
    | [r] => if r.first = r.last then some (Char.ofNat r.first) else none
    | _ => none
  match one with
  | some c => stateRoom * c.utf8Size
  | none => if rs.all (·.last < 128) then 2 * stateRoom + stepRoom * rs.length else treeRoom d rs

/-! ## The room of nodes -/

namespace Node

def isNothing : Node → Bool
  | empty => true
  | seq a b => a.isNothing && b.isNothing
  | times a least most => most = some 0 || (a.isNothing && least != 0)
  | _ => false

def asSet? : Node → Option CharSet
  | set s => some s
  | alt a b => do return .union (← a.asSet?) (← b.asSet?)
  | _ => none

/-- The bounds of a repetition. Of what has no character one copy does. -/
def bounds (a : Node) (least : Nat) (most : Option Nat) : Nat × Option Nat :=
  if a.consumes then (least, most) else (min least 1, some (min (most.getD 1) 1))

/-- The room of copies of a node that takes some room itself. Each copy that can be left out, or
that more copies can follow, needs a state for the choice. -/
def copiesRoom (a : Node) (room least : Nat) (most : Option Nat) : Nat :=
  let choice := stateRoom + 2 * jumpRoom
  match a.bounds least most with
  | (0, none) => if a.canBeEmpty then room + 2 * choice + stateRoom else room + choice
  | (k, none) => k * room + choice
  | (_, some 0) => stateRoom
  | (0, some 1) => room + choice + stateRoom
  | (0, some m) => m * (room + choice) + 2 * stateRoom
  | (k, some m) => if k = m then k * room else k * room + (m - k) * (room + choice) + stateRoom

/-- The room of a node by itself, and the room of its alternatives beside others. -/
def rooms (d : Direction) (setRoom : CharSet → Nat) : Node → Nat × Nat
  | empty => (stateRoom, stateRoom + jumpRoom)
  | set s => (setRoom s, setRoom s + jumpRoom)
  | look _ => (stateRoom, stateRoom + jumpRoom)
  | seq a b =>
    let room :=
      if a.isNothing then (b.rooms d setRoom).1
      else if b.isNothing then (a.rooms d setRoom).1
      else (a.rooms d setRoom).1 + (b.rooms d setRoom).1
    (room, room + jumpRoom)
  | alt a b =>
    let beside := (a.rooms d setRoom).2 + (b.rooms d setRoom).2
    let room := match (alt a b).asSet? with
      | some s => setRoom s
      | none => beside + 2 * stateRoom
    (room, beside)
  | times a least most =>
    let room := copiesRoom a (a.rooms d setRoom).1 least most
    (room, room + jumpRoom)
  | group a =>
    let ends := if d = .forwards then 2 * stateRoom else 0
    let room := (a.rooms d setRoom).1 + ends
    (room, room + jumpRoom)

/-- The room of the whole matcher: it can begin anywhere, forwards it marks both ends of the match,
and it ends in a state of its own. -/
def room (d : Direction) (setRoom : CharSet → Nat) (node : Node) : Nat :=
  let anywhere := 3 * stateRoom + stepRoom + 2 * jumpRoom
  let whole := (group node).rooms d setRoom
  anywhere + whole.1 + stateRoom

def roomLimit : Nat := 10 * 1024 * 1024

def ampleRoom : CharSet → Nat
  | .ranges [r] => if r.first = r.last then 4 * stateRoom else 1 <<< 18
  | _ => 1 <<< 18

def fits (node : Node) : Bool :=
  node.room .forwards ampleRoom ≤ roomLimit ||
    (node.room .forwards (·.room .forwards) ≤ roomLimit && node.room .backwards (·.room .backwards) ≤ roomLimit)

end Node
end DocumentRepository.Pattern
