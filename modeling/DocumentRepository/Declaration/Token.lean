/-! # Tokens of declarations

Entities and contracts can be declared in Rust. A source text is a list of tokens; brackets of
each kind enclose a list of their own. -/
namespace DocumentRepository.Declaration

inductive Bracket where
  | round
  | square
  | curly
  deriving DecidableEq, Repr, Inhabited

namespace Bracket

def opening : Bracket → Char
  | .round => '('
  | .square => '['
  | .curly => '\x7b'

def closing : Bracket → Char
  | .round => ')'
  | .square => ']'
  | .curly => '\x7d'

def ofOpening? (c : Char) : Option Bracket := [round, square, curly].find? (·.opening == c)

def ofClosing? (c : Char) : Option Bracket := [round, square, curly].find? (·.closing == c)

end Bracket

inductive Token where
  /-- A name or keyword; a raw name keeps its `r#`. -/
  | ident (name : String)
  | lifetime (name : String)
  /-- A text literal, as it is written and what it stands for. -/
  | text (source value : String)
  | number (source : String)
  | literal (source : String)
  /-- A mark, and whether another mark touches it. -/
  | punct (mark : Char) (joint : Bool)
  | group (bracket : Bracket) (inside : List Token)
  deriving Repr, Inhabited

namespace Token

mutual

def source : Token → List Char
  | .ident name => name.toList
  | .lifetime name => '\x27' :: name.toList
  | .text source _ => source.toList
  | .number source => source.toList
  | .literal source => source.toList
  | .punct mark _ => [mark]
  | .group bracket inside => bracket.opening :: sources inside ++ [bracket.closing]

def sources : List Token → List Char
  | [] => []
  | t :: rest => t.source ++ sources rest

end

mutual

/-- The number of tokens, those in brackets counted too. -/
def size : Token → Nat
  | .group _ inside => sizes inside + 1
  | _ => 1

def sizes : List Token → Nat
  | [] => 0
  | t :: rest => t.size + sizes rest

end

def joined (ts : List Token) : String := String.ofList ((sources ts).filter (· != ' '))

end Token

/-! ## Words -/

def keywords : List String :=
  ["_", "abstract", "as", "async", "await", "become", "box", "break", "const", "continue", "crate", "do", "dyn",
    "else", "enum", "extern", "false", "final", "fn", "for", "if", "impl", "in", "let", "loop", "macro", "match",
    "mod", "move", "mut", "override", "priv", "pub", "ref", "return", "Self", "self", "static", "struct", "super",
    "trait", "true", "try", "type", "typeof", "unsafe", "unsized", "use", "virtual", "where", "while", "yield"]

def isName (word : String) : Bool := !keywords.contains word

/-- The keywords that can be parts of a plain path. -/
def isPathWord (word : String) : Bool := isName word || ["super", "self", "Self", "crate"].contains word

/-! ## Whole numbers -/

structure WholeNumber where
  value : Nat
  suffix : String
  deriving DecidableEq, Repr, Inhabited

namespace WholeNumber

def hexDigit? (c : Char) : Option Nat :=
  if c.isDigit then some (c.toNat - '0'.toNat)
  else if 'a' ≤ c ∧ c ≤ 'f' then some (c.toNat - 'a'.toNat + 10)
  else if 'A' ≤ c ∧ c ≤ 'F' then some (c.toNat - 'A'.toNat + 10)
  else none

def beginsExponent (behind : List Char) : Bool :=
  match behind.dropWhile (· = '_') with
  | c :: _ => c.isDigit || c = '+' || c = '-'
  | [] => false

/-- Reads digits behind those that make `value`, if there were any. A point or an exponent shows
that the number is no whole one. -/
def readDigits (base : Nat) (value : Option Nat) : List Char → Option WholeNumber
  | [] => value.map fun n => ⟨n, ""⟩
  | c :: rest =>
    if c = '_' then readDigits base value rest
    else
      match (hexDigit? c).filter (fun d => d < base || c.isDigit) with
      | some d => if d < base then readDigits base (some (base * value.getD 0 + d)) rest else none
      | none =>
        if base = 10 && (c = '.' || ((c = 'e' || c = 'E') && beginsExponent rest)) then none
        else value.map fun n => ⟨n, String.ofList (c :: rest)⟩

def read? (source : String) : Option WholeNumber :=
  match source.toList with
  | '0' :: 'x' :: rest => readDigits 16 none rest
  | '0' :: 'o' :: rest => readDigits 8 none rest
  | '0' :: 'b' :: rest => readDigits 2 none rest
  | cs => readDigits 10 none cs

end WholeNumber

end DocumentRepository.Declaration
