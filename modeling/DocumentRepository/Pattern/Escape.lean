import DocumentRepository.Pattern.Node
import DocumentRepository.Text.Blank

/-! # The smallest parts of a written pattern

Flags, the characters that verbose patterns skip, and what a backslash introduces. Every reader
takes the characters that are left and gives what it read with the characters behind it. -/
namespace DocumentRepository.Pattern
open Text

structure Flags where
  caseless : Bool
  multiline : Bool
  dotAll : Bool
  crlf : Bool
  unicode : Bool
  verbose : Bool
  deriving DecidableEq, Repr

namespace Flags

def plain : Flags := ⟨false, false, false, false, true, false⟩

/-- Switches the flag of a letter. The letter `U` prefers short matches, which never changes
whether there is a match. -/
def switch (f : Flags) (on : Bool) (letter : Char) : Option Flags :=
  match letter with
  | 'i' => some { f with caseless := on }
  | 'm' => some { f with multiline := on }
  | 's' => some { f with dotAll := on }
  | 'R' => some { f with crlf := on }
  | 'u' => some { f with unicode := on }
  | 'x' => some { f with verbose := on }
  | 'U' => some f
  | _ => none

end Flags

/-! ## Blanks and comments of verbose patterns -/

def skipBlanks : Bool → List Char → List Char
  | _, [] => []
  | true, c :: rest => skipBlanks (c != '\n') rest
  | false, c :: rest =>
    if isBlank c then skipBlanks false rest
    else if c = '#' then skipBlanks true rest
    else c :: rest

def Flags.skip (f : Flags) (cs : List Char) : List Char :=
  if f.verbose then skipBlanks false cs else cs

def Flags.advance (f : Flags) (cs : List Char) : List Char := f.skip cs.tail

/-! ## Escapes -/

/-- A literal written as a byte stands apart: beyond ASCII it is no character of its own. -/
inductive Atom where
  | literal (c : Char) (isByte : Bool)
  | set (s : CharSet)
  | look (l : Look)
  | dot
  deriving Repr

def isMeta (c : Char) : Bool := "\\.+*?()|[]\x7b\x7d^$#&-~".toList.contains c

def isSuperfluous (c : Char) : Bool :=
  c.toNat < 128 && !c.isAlphanum && c != '<' && c != '>'

def hexValue? (c : Char) : Option Nat :=
  if '0' ≤ c ∧ c ≤ '9' then some (c.toNat - '0'.toNat)
  else if 'a' ≤ c ∧ c ≤ 'f' then some (c.toNat - 'a'.toNat + 10)
  else if 'A' ≤ c ∧ c ≤ 'F' then some (c.toNat - 'A'.toNat + 10)
  else none

def charAt? (n : Nat) : Option Char :=
  if n < 0xD800 ∨ (0xDFFF < n ∧ n < 0x110000) then some (Char.ofNat n) else none

def readHexDigits (f : Flags) : Nat → Nat → List Char → Option (Nat × List Char)
  | 0, n, cs => some (n, cs)
  | k + 1, n, cs => do
    let c ← cs.head?
    let d ← hexValue? c
    readHexDigits f k (16 * n + d) (f.advance cs)

/-- Digits up to a closing brace, at least one. The first argument bounds their number. -/
def readHexBraced (f : Flags) : Nat → Option Nat → List Char → Option (Nat × List Char)
  | _, _, [] => none
  | 0, _, _ => none
  | k + 1, n, c :: rest =>
    if c = '\x7d' then n.map fun n => (n, f.skip rest)
    else do
      let d ← hexValue? c
      readHexBraced f k (some (16 * n.getD 0 + d)) (f.skip rest)

def readHex (f : Flags) (letter : Char) (cs : List Char) : Option (Atom × List Char) := do
  let digits := if letter = 'x' then 2 else if letter = 'u' then 4 else 8
  match f.skip cs with
  | [] => none
  | '\x7b' :: rest =>
    let (n, rest) ← readHexBraced f (rest.length + 1) none (f.skip rest)
    let c ← charAt? n
    return (.literal c false, rest)
  | cs =>
    let (n, rest) ← readHexDigits f digits 0 cs
    let c ← charAt? n
    return (.literal c (letter = 'x'), rest)

def readBraced (f : Flags) : Nat → List Char → Option (List Char × List Char)
  | _, [] => none
  | 0, _ => none
  | k + 1, c :: rest =>
    if c = '\x7d' then some ([], rest)
    else (readBraced f k (f.skip rest)).map fun p => (c :: p.1, p.2)

def cut? (separator : List Char) : List Char → Option (List Char × List Char)
  | [] => none
  | c :: rest =>
    if separator.isPrefixOf (c :: rest) then some ([], (c :: rest).drop separator.length)
    else (cut? separator rest).map fun p => (c :: p.1, p.2)

def namedSet? (text : List Char) : Option CharSet :=
  match cut? ['!', '='] text <|> cut? [':'] text <|> cut? ['='] text with
  | some (name, value) => CharSet.valued? (CharSet.normalName name) (CharSet.normalName value)
  | none => CharSet.named? (CharSet.normalName text)

def readNamedSet (f : Flags) (negated : Bool) (cs : List Char) : Option (Atom × List Char) := do
  let (name, rest) ← match f.skip cs with
    | [] => none
    | '\x7b' :: rest => readBraced f (rest.length + 1) (f.skip rest)
    | c :: rest => if c = '\\' then none else some ([c], f.skip rest)
  let found ← if f.unicode then namedSet? name else none
  return (.set ((found.foldIf f.caseless true).complIf negated), rest)

/-- The set of a letter, such as the digits for `d`; a capital letter negates. Without Unicode a
negated set would hold bytes that are no characters. -/
def letterSet? (f : Flags) (letter : Char) : Option CharSet := do
  let named ← match letter.toLower with
    | 'd' => some (if f.unicode then CharSet.digit else CharSet.asciiDigit)
    | 's' => some (if f.unicode then CharSet.space else CharSet.asciiSpace)
    | 'w' => some (if f.unicode then CharSet.word else CharSet.asciiWord)
    | _ => none
  if letter.isUpper && !f.unicode then none
  else return named.complIf letter.isUpper

def wordSides : List (String × WordSide) := [
  ("start", .start),
  ("end", .finish),
  ("start-half", .halfStart),
  ("end-half", .halfFinish)]

def isSideChar (c : Char) : Bool := c.isAlpha || c = '-'

def readSideName (f : Flags) : Nat → List Char → Option (List Char × List Char)
  | _, [] => none
  | 0, _ => none
  | k + 1, c :: rest =>
    if c = '\x7d' then some ([], rest)
    else if isSideChar c then (readSideName f k (f.skip rest)).map fun p => (c :: p.1, p.2)
    else none

/-- A word boundary. A brace behind it names a side, unless it begins a count. -/
def readBoundary (f : Flags) (cs : List Char) : Option (Atom × List Char) :=
  match cs with
  | '\x7b' :: rest =>
    match f.skip rest with
    | [] => none
    | c :: more =>
      if isSideChar c then do
        let (name, rest) ← readSideName f (more.length + 2) (c :: more)
        let side ← wordSides.lookup (String.ofList name)
        return (.look (.word side f.unicode), rest)
      else some (.look (.word .boundary f.unicode), cs)
  | _ => some (.look (.word .boundary f.unicode), cs)

def readEscape (f : Flags) (cs : List Char) : Option (Atom × List Char) := do
  match cs with
  | [] => none
  | c :: rest =>
    if c = 'x' || c = 'u' || c = 'U' then readHex f c rest
    else if c = 'p' || c = 'P' then readNamedSet f (c = 'P') rest
    else if ['d', 's', 'w', 'D', 'S', 'W'].contains c then
      return (.set (← letterSet? f c), rest)
    else if isMeta c || isSuperfluous c then return (.literal c false, rest)
    else match c with
      | 'a' => return (.literal '\x07' false, rest)
      | 'f' => return (.literal '\x0c' false, rest)
      | 't' => return (.literal '\t' false, rest)
      | 'n' => return (.literal '\n' false, rest)
      | 'r' => return (.literal '\r' false, rest)
      | 'v' => return (.literal '\x0b' false, rest)
      | 'A' => return (.look .textStart, rest)
      | 'z' => return (.look .textEnd, rest)
      | 'b' => readBoundary f rest
      | 'B' => return (.look (.word .inside f.unicode), rest)
      | '<' => return (.look (.word .start f.unicode), rest)
      | '>' => return (.look (.word .finish f.unicode), rest)
      | _ => none

/-- A literal's character, if it is one: without Unicode a byte beyond ASCII is not, and a character
beyond ASCII has no other case. -/
def literal? (f : Flags) (c : Char) (isByte : Bool) : Option Char :=
  if (isByte || f.caseless) && !f.unicode && 128 ≤ c.toNat then none else some c

def literalSet (f : Flags) (c : Char) : CharSet :=
  if !f.caseless then CharSet.single c
  else if f.unicode then .alike c.toNat
  else .foldedAscii (CharSet.single c)

def dotSet (f : Flags) : CharSet :=
  if f.dotAll then CharSet.all
  else if f.crlf then CharSet.except ['\r', '\n']
  else CharSet.except ['\n']

def Atom.node? (f : Flags) : Atom → Option Node
  | literal c isByte => (literal? f c isByte).map fun c => .set (literalSet f c)
  | set s => some (.set s)
  | look l => some (.look l)
  | dot => if f.unicode then some (.set (dotSet f)) else none

end DocumentRepository.Pattern
