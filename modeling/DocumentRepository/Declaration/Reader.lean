import DocumentRepository.Declaration.Token

/-! # Reading tokens

A reader takes tokens from those that are ahead and gives what it read, or fails. On the way it
writes down how a declaration shows what was read, which is mostly the same tokens. Questions
about the tokens ahead say which way to go. -/
namespace DocumentRepository.Declaration

abbrev Tokens := List Token

/-! ## Looking ahead -/

namespace Tokens

/-- Whether marks stand at the front, each but the last touching the next. -/
def beginWith : List Char → Tokens → Bool
  | [], _ => true
  | [c], .punct mark _ :: _ => c == mark
  | c :: cs, .punct mark joint :: rest => c == mark && joint && beginWith cs rest
  | _ :: _, _ => false

def marks (ts : Tokens) (text : String) : Bool := beginWith text.toList ts

def word (ts : Tokens) (text : String) : Bool :=
  match ts with
  | .ident found :: _ => found == text
  | _ => false

def words (ts : Tokens) (texts : List String) : Bool := texts.any ts.word

def anyWord : Tokens → Bool
  | .ident _ :: _ => true
  | _ => false

def name : Tokens → Bool
  | .ident found :: _ => isName found
  | _ => false

def pathWord : Tokens → Bool
  | .ident found :: _ => isPathWord found
  | _ => false

def lifetime : Tokens → Bool
  | .lifetime _ :: _ => true
  | _ => false

def group (ts : Tokens) (b : Bracket) : Bool :=
  match ts with
  | .group found _ :: _ => found == b
  | _ => false

def literal : Tokens → Bool
  | .text .. :: _ => true
  | .number _ :: _ => true
  | .literal _ :: _ => true
  | .ident found :: _ => found == "true" || found == "false"
  | .punct '-' _ :: .number _ :: _ => true
  | _ => false

def second (ts : Tokens) : Tokens := ts.drop 1

def third (ts : Tokens) : Tokens := ts.drop 2

end Tokens

/-! ## Readers -/

/-- The tokens ahead, and what is written down, the last token first. -/
structure Cursor where
  ahead : Tokens
  written : List Token
  deriving Repr, Inhabited

abbrev Reader := StateT Cursor Option

namespace Reader

def ahead : Reader Tokens := return (← get).ahead

def write (ts : List Token) : Reader Unit := modify fun c => { c with written := ts.reverse ++ c.written }

def token : Reader Token := fun c =>
  match c.ahead with
  | [] => none
  | t :: rest => some (t, ⟨rest, t :: c.written⟩)

def skip : Nat → Reader Unit
  | 0 => pure ()
  | k + 1 => do
    let _ ← token
    skip k

def marks (text : String) : Reader Unit := do
  guard ((← ahead).marks text)
  skip text.length

def marks? (text : String) : Reader Bool := do
  if (← ahead).marks text then
    skip text.length
    return true
  else return false

def word (text : String) : Reader Unit := do
  guard ((← ahead).word text)
  skip 1

def word? (text : String) : Reader Bool := do
  if (← ahead).word text then
    skip 1
    return true
  else return false

def anyWord : Reader String := do
  match ← token with
  | .ident found => return found
  | _ => failure

def name : Reader String := do
  guard (← ahead).name
  anyWord

def nameOrBlank : Reader String := do
  let ts ← ahead
  guard (ts.name || ts.word "_")
  anyWord

def lifetime : Reader Unit := do
  guard (← ahead).lifetime
  skip 1

def literal : Reader Unit := do
  let ts ← ahead
  guard ts.literal
  skip (if ts.marks "-" then 2 else 1)

def text : Reader String := do
  match ← token with
  | .text _ value => return value
  | _ => failure

def rest : Reader Unit := do
  skip (← ahead).length

def inside {α : Type} (b : Bracket) (read : Reader α) : Reader α := fun c =>
  match c.ahead with
  | .group found ts :: rest =>
    if found = b then
      match read ⟨ts, []⟩ with
      | some (a, ⟨[], written⟩) => some (a, ⟨rest, .group b written.reverse :: c.written⟩)
      | _ => none
    else none
  | _ => none

def group (b : Bracket) : Reader Unit := inside b rest

def anyGroup : Reader Bracket := do
  match ← token with
  | .group b _ => return b
  | _ => failure

/-! ## Trying and keeping -/

/-- What a reader would give, and the tokens that it would leave; nothing is read. -/
def peek? {α : Type} (read : Reader α) : Reader (Option (α × Tokens)) := fun c =>
  some ((read c).map fun p => (p.1, p.2.ahead), c)

def attempt {α : Type} (read : Reader α) : Reader (Option α) := fun c =>
  match read c with
  | some (a, c) => some (some a, c)
  | none => some (none, c)

/-- What a reader gives, with what it would write down; nothing is written. -/
def unwritten {α : Type} (read : Reader α) : Reader (α × List Token) := fun c =>
  (read ⟨c.ahead, []⟩).map fun p => ((p.1, p.2.written.reverse), ⟨p.2.ahead, c.written⟩)

def kept {α : Type} (read : Reader α) : Reader (α × List Token) := do
  let (a, ts) ← unwritten read
  write ts
  return (a, ts)

def whole? {α : Type} (read : Reader α) (ts : Tokens) : Option α :=
  match read ⟨ts, []⟩ with
  | some (a, ⟨[], _⟩) => some a
  | _ => none

/-! ## Repetition

Each round takes a token, so that a bound above the number of tokens is never met. -/

def repeatWithin (round : Reader Bool) : Nat → Reader Unit
  | 0 => failure
  | k + 1 => do if ← round then repeatWithin round k

def repeatWhile (round : Reader Bool) : Reader Unit := do
  repeatWithin round ((← ahead).length + 1)

/-- Reads items with marks between them until it has to stop. A mark can stand behind the last
item; each item comes with whether one stands behind it. -/
def separatedWithin {α : Type} (mark : String) (stop : Tokens → Bool) (item : Reader α) : Nat → Reader (List (α × Bool))
  | 0 => failure
  | k + 1 => do
    if stop (← ahead) then return []
    let a ← item
    if stop (← ahead) then return [(a, false)]
    marks mark
    return (a, true) :: (← separatedWithin mark stop item k)

def separated {α : Type} (mark : String) (stop : Tokens → Bool) (item : Reader α) : Reader (List (α × Bool)) := do
  separatedWithin mark stop item ((← ahead).length + 1)

def list {α : Type} (item : Reader α) : Reader (List α) :=
  return (← separated "," List.isEmpty item).map (·.1)

/-- Reads items for as long as a mark follows and it need not stop. -/
def chainWithin {α : Type} (mark : String) (stop : Tokens → Bool) (item : Reader α) : Nat → Reader (List α)
  | 0 => failure
  | k + 1 => do
    if stop (← ahead) then return []
    let a ← item
    if ← marks? mark then return a :: (← chainWithin mark stop item k) else return [a]

def chain {α : Type} (mark : String) (stop : Tokens → Bool) (item : Reader α) : Reader (List α) := do
  chainWithin mark stop item ((← ahead).length + 1)

end Reader

end DocumentRepository.Declaration
