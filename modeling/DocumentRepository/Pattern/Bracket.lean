import DocumentRepository.Pattern.Escape

/-! # Sets in brackets

Items of a bracket are joined; the operators `&&`, `--` and `~~` stand between joined items and
take what is on their left as one operand. -/
namespace DocumentRepository.Pattern
open Text

structure Operand where
  set : CharSet
  depth : Nat

structure Items where
  set : CharSet
  count : Nat
  depth : Nat

namespace Items

def empty : Items := ⟨CharSet.empty, 0, 0⟩

def add (items : Items) (set : CharSet) (depth : Nat) : Items :=
  ⟨if items.count = 0 then set else .union items.set set, items.count + 1, max items.depth depth⟩

def operand (items : Items) : Operand :=
  ⟨items.set, if items.count < 2 then items.depth else items.depth + 1⟩

end Items

structure Bracket where
  left : Option (Operand × (CharSet → CharSet → CharSet))
  items : Items

def setOperator? : Char → Option (CharSet → CharSet → CharSet)
  | '&' => some .inter
  | '-' => some .diff
  | '~' => some .symm
  | _ => none

namespace Bracket

def operand (f : Flags) (b : Bracket) : Operand :=
  let right := b.items.operand
  match b.left with
  | none => right
  | some (left, op) =>
    ⟨op (left.set.foldIf f.caseless f.unicode) (right.set.foldIf f.caseless f.unicode),
      1 + max left.depth right.depth⟩

end Bracket

def asciiClass? (f : Flags) (cs : List Char) : Option (Option CharSet × List Char) :=
  match cs with
  | ':' :: rest =>
    let (negated, rest) := match rest with
      | '^' :: more => (true, more)
      | _ => (false, rest)
    match rest.dropWhile (· != ':') with
    | ':' :: ']' :: behind => do
      let found ← CharSet.asciiClasses.lookup (String.ofList (rest.takeWhile (· != ':')))
      let set := (found.foldIf f.caseless f.unicode).complIf negated
      return (if negated && !f.unicode then none else some set, behind)
    | _ => none
  | _ => none

def readAtom (f : Flags) : List Char → Option (Atom × List Char)
  | [] => none
  | '\\' :: rest => readEscape f rest
  | c :: rest => some (.literal c false, rest)

/-- Without Unicode only ASCII characters can stand in brackets. -/
def bracketLiteral? (f : Flags) : Atom → Option Char
  | .literal c _ => if f.unicode || c.toNat < 128 then some c else none
  | _ => none

def bracketSet? (f : Flags) : Atom → Option CharSet
  | .set s => some s
  | atom => (bracketLiteral? f atom).map CharSet.single

/-- The next character that counts, to tell a range from a hyphen. -/
def peek (f : Flags) (cs : List Char) : Option Char :=
  if f.verbose then
    match cs.dropWhile isBlank with
    | '#' :: rest => (rest.dropWhile isBlank).head?
    | rest => rest.head?
  else cs.head?

def readItem (f : Flags) (cs : List Char) : Option (CharSet × List Char) := do
  let (first, rest) ← readAtom f cs
  match f.skip rest with
  | [] => none
  | '-' :: more =>
    let next := peek f more
    if next = some ']' || next = some '-' then return (← bracketSet? f first, '-' :: more)
    else
      let (last, rest) ← readAtom f (f.skip more)
      let low ← bracketLiteral? f first
      let high ← bracketLiteral? f last
      if low ≤ high then return (CharSet.ofPairs [(low, high)], rest) else none
  | rest => return (← bracketSet? f first, rest)

def readHyphens (f : Flags) : Nat → Items → List Char → Items × List Char
  | k + 1, items, '-' :: rest => readHyphens f k (items.add (CharSet.single '-') 0) (f.skip rest)
  | _, items, cs => (items, cs)

/-- The front of a bracket: whether it is negated, and the characters that stand there for
themselves. -/
def readFront (f : Flags) (cs : List Char) : Bool × Items × List Char :=
  let (negated, cs) := match f.skip cs with
    | '^' :: rest => (true, f.skip rest)
    | cs => (false, cs)
  let (items, cs) := readHyphens f cs.length Items.empty cs
  match cs with
  | ']' :: rest =>
    if items.count = 0 then (negated, items.add (CharSet.single ']') 0, f.skip rest)
    else (negated, items, cs)
  | _ => (negated, items, cs)

def closeBracket (f : Flags) (negated : Bool) (inside : Operand) : Option Operand :=
  if negated && !f.unicode then none
  else some ⟨(inside.set.foldIf f.caseless f.unicode).complIf negated, inside.depth + 1⟩

/-- What stands in a bracket, up to the closing one. Every step takes a character, so a bound of
the number of characters is never met. -/
def readInside (f : Flags) : Nat → Bracket → List Char → Option (Operand × List Char)
  | 0, _, _ => none
  | k + 1, b, cs => do
    match f.skip cs with
    | [] => none
    | '[' :: rest =>
      match asciiClass? f rest with
      | some (found, rest) =>
        let set ← found
        readInside f k { b with items := b.items.add set 0 } rest
      | none =>
        let (negated, items, rest) := readFront f rest
        let (inside, rest) ← readInside f k ⟨none, items⟩ rest
        let nested ← closeBracket f negated inside
        readInside f k { b with items := b.items.add nested.set nested.depth } rest
    | ']' :: rest => some (b.operand f, rest)
    | c :: rest =>
      let op := if rest.head? = some c then setOperator? c else none
      match op with
      | some op => readInside f k ⟨some (b.operand f, op), Items.empty⟩ rest.tail
      | none =>
        let (set, rest) ← readItem f (c :: rest)
        readInside f k { b with items := b.items.add set 0 } rest

def readBracket (f : Flags) (cs : List Char) : Option (Operand × List Char) := do
  let (negated, items, rest) := readFront f cs
  let (inside, rest) ← readInside f (rest.length + 1) ⟨none, items⟩ rest
  return (← closeBracket f negated inside, rest)

end DocumentRepository.Pattern
