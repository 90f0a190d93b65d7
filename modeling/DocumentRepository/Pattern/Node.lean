import DocumentRepository.Pattern.CharSet

/-! # Patterns as sets of positions

A position of a text lies before, between or after its characters. A node carries a set of
positions to the set of the positions where a match that starts there can end. Sets are bit
masks: position `i` is bit `i`. -/
namespace DocumentRepository.Pattern

/-! ## Places -/

structure Place where
  before : Option Char
  after : Option Char
  deriving DecidableEq, Repr

def placesFrom (before : Option Char) : List Char → List Place
  | [] => [⟨before, none⟩]
  | c :: rest => ⟨before, some c⟩ :: placesFrom (some c) rest

def places (text : List Char) : List Place := placesFrom none text

inductive WordSide where
  | boundary | inside | start | finish | halfStart | halfFinish
  deriving DecidableEq, Repr

inductive Look where
  | textStart | textEnd
  | lineStart | lineEnd
  /-- As `lineStart` and `lineEnd`, where a carriage return with or without a line feed ends
  lines too. -/
  | crlfStart | crlfEnd
  | word (side : WordSide) (unicode : Bool)
  deriving DecidableEq, Repr

def WordSide.holds : WordSide → Bool → Bool → Bool
  | boundary, b, a => b != a
  | inside, b, a => b == a
  | start, b, a => !b && a
  | finish, b, a => b && !a
  | halfStart, b, _ => !b
  | halfFinish, _, a => !a

def isWord (unicode : Bool) (c : Option Char) : Bool :=
  c.any fun c => (if unicode then CharSet.word else CharSet.asciiWord).contains c.toNat

def Look.holds (p : Place) : Look → Bool
  | textStart => p.before.isNone
  | textEnd => p.after.isNone
  | lineStart => p.before.all (· = '\n')
  | lineEnd => p.after.all (· = '\n')
  | crlfStart => p.before.all fun c => c = '\n' || (c = '\r' && p.after != some '\n')
  | crlfEnd => p.after.all fun c => c = '\r' || (c = '\n' && p.before != some '\r')
  | word side unicode => side.holds (isWord unicode p.before) (isWord unicode p.after)

/-! ## Masks -/

/-- The number whose bits are given, the lowest first. -/
def mask : List Bool → Nat
  | [] => 0
  | b :: rest => 2 * mask rest + b.toNat

theorem testBit_mask (bs : List Bool) (i : Nat) : (mask bs).testBit i = bs.getD i false := by
  induction bs generalizing i with
  | nil => simp [mask]
  | cons b rest ih =>
    cases i with
    | zero => cases b <;> simp [mask, Nat.testBit_zero]
    | succ i =>
      have hhalf : (2 * mask rest + b.toNat) / 2 = mask rest := by
        cases b
        · simp
        · simp
          omega
      simp [mask, Nat.testBit_succ, hhalf, ih]

/-! ## Nodes -/

inductive Node where
  | empty
  | set (s : CharSet)
  | look (l : Look)
  | seq (a b : Node)
  | alt (a b : Node)
  /-- At least and at most so many matches in a row; no upper bound if there is none. -/
  | times (a : Node) (least : Nat) (most : Option Nat)
  /-- A group that can be referred to; it matches like what is inside. -/
  | group (a : Node)
  deriving Repr

/-- Exactly `k` steps, unless a step changes nothing. -/
def walk (step : Nat → Nat) : Nat → Nat → Nat
  | 0, ps => ps
  | k + 1, ps =>
    let next := step ps
    if next = ps then ps else walk step k next

/-- At most `k` steps, unless a step adds nothing. -/
def spread (step : Nat → Nat) : Nat → Nat → Nat
  | 0, ps => ps
  | k + 1, ps =>
    let next := ps ||| step ps
    if next = ps then ps else spread step k next

namespace Node

/-- Where matches can end that start at the positions of a set. -/
def ends (text : List Char) : Node → Nat → Nat
  | empty, ps => ps
  | set s, ps => (ps &&& mask (text.map fun c => s.contains c.toNat)) <<< 1
  | look l, ps => ps &&& mask ((places text).map l.holds)
  | seq a b, ps => b.ends text (a.ends text ps)
  | alt a b, ps => a.ends text ps ||| b.ends text ps
  | times a least most, ps =>
    let further := match most with
      | some most => most - least
      | none => text.length + 1
    spread (a.ends text) further (walk (a.ends text) least ps)
  | group a, ps => a.ends text ps

def occursIn (node : Node) (text : List Char) : Bool :=
  node.ends text (1 <<< (text.length + 1) - 1) != 0

def ofList : List Node → Node
  | [] => empty
  | [a] => a
  | a :: rest => seq a (ofList rest)

def anyOf : List Node → Node
  | [] => empty
  | [a] => a
  | a :: rest => alt a (anyOf rest)

def consumes : Node → Bool
  | empty => false
  | set _ => true
  | look _ => false
  | seq a b => a.consumes || b.consumes
  | alt a b => a.consumes || b.consumes
  | times a _ most => a.consumes && most != some 0
  | group a => a.consumes

def canBeEmpty : Node → Bool
  | empty => true
  | set _ => false
  | look _ => true
  | seq a b => a.canBeEmpty && b.canBeEmpty
  | alt a b => a.canBeEmpty || b.canBeEmpty
  | times a least _ => least = 0 || a.canBeEmpty
  | group a => a.canBeEmpty

end Node
end DocumentRepository.Pattern
