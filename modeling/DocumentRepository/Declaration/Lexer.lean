import DocumentRepository.Declaration.Literal
import DocumentRepository.Text.Quoted
import DocumentRepository.Text.Blank

/-! # From texts to tokens

A source text is cut into tokens, then brackets are closed. Comments leave nothing, except for
documentation, which is an attribute in another form. -/
namespace DocumentRepository.Declaration
open Text

inductive Lexeme where
  | token (t : Token)
  | opening (b : Bracket)
  | closing (b : Bracket)

/-! ## Comments -/

def splitLine : List Char → List Char × List Char
  | [] => ([], [])
  | '\n' :: rest => ([], '\n' :: rest)
  | '\r' :: '\n' :: rest => ([], '\n' :: rest)
  | c :: rest =>
    let (line, rest) := splitLine rest
    (c :: line, rest)

/-- The characters behind a comment that lasts as many levels deep as the number says. -/
def skipNested : Nat → List Char → Option (List Char)
  | 0, cs => some cs
  | _ + 1, [] => none
  | k + 1, '*' :: '/' :: rest => skipNested k rest
  | k + 1, '/' :: '*' :: rest => skipNested (k + 2) rest
  | k + 1, _ :: rest => skipNested (k + 1) rest

def hasBareReturn : List Char → Bool
  | [] => false
  | '\r' :: '\n' :: rest => hasBareReturn rest
  | c :: rest => c = '\r' || hasBareReturn rest

/-- What a comment says. Documentation belongs to what is around it or to what follows. -/
inductive Comment where
  | plain
  | documentation (around : Bool) (text : List Char)

/-- The comment that holds these characters behind its first mark, which is a slash or a star.
Another such mark, or an exclamation mark, makes it documentation; two more do not. -/
def Comment.ofInside (mark : Char) : List Char → Comment
  | '!' :: text => .documentation true text
  | c :: text => if c = mark ∧ text.head? ≠ some mark then .documentation false text else .plain
  | [] => .plain

def readComment? : List Char → Option (Comment × List Char)
  | '/' :: rest =>
    let (line, rest) := splitLine rest
    some (.ofInside '/' line, rest)
  | '*' :: '*' :: '/' :: rest => some (.plain, rest)
  | '*' :: rest => do
    let behind ← skipNested 1 rest
    let inside := rest.take (rest.length - behind.length - 2)
    return (if inside = ['*'] then .plain else .ofInside '*' inside, behind)
  | _ => none

def Comment.lexemes? : Comment → Option (List Lexeme)
  | .plain => some []
  | .documentation around text =>
    let value := String.ofList text
    let bang : List Lexeme := if around then [.token (.punct '!' false)] else []
    if hasBareReturn text then none
    else some ([.token (.punct '#' false)] ++ bang ++ [.opening .square, .token (.ident "doc"),
      .token (.punct '=' false), .token (.text (quoted value) value), .closing .square])

/-! ## Lexing -/

def isMark (c : Char) : Bool := "~!@#$%^&*-=+|;:,<.>/?\x27".toList.contains c

def beginsMark : List Char → Bool
  | '/' :: c :: _ => c != '/' && c != '*'
  | c :: _ => isMark c
  | [] => false

/-- What separates tokens: blanks, and the marks of a direction of writing. -/
def separates (c : Char) : Bool := isBlank c || c = '\u200e' || c = '\u200f'

/-- A lifetime behind its quotation mark. The mark stands alone where a literal follows. -/
def readLifetime? (cs : List Char) : Option (Token × List Char) := do
  let (_, behind) ← word? cs
  let raw := "r#".toList.isPrefixOf cs
  if behind.head? = some '\x27' ∨ (behind.head? = some '#' ∧ !raw) then none
  else if (literal? cs).isSome then some (.punct '\x27' true, cs)
  else (name? cs).map fun p => (.lifetime p.1, p.2)

def readToken? : List Char → Option (Token × List Char)
  | [] => none
  | c :: rest =>
    match literal? (c :: rest) with
    | some found => some found
    | none =>
      if c = '\x27' then readLifetime? rest
      else if isMark c then some (.punct c (beginsMark rest), rest)
      else (name? (c :: rest)).map fun p => (.ident p.1, p.2)

/-- What stands for a literal that went wrong. -/
def spoiledLiteral : String := "(/*ERROR*/)"

/-- The lexemes of a text. Every step takes a character, so a bound above the number of
characters is never met. -/
def lexWithin : Nat → List Char → Option (List Lexeme)
  | 0, _ => none
  | _, [] => some []
  | k + 1, c :: rest =>
    if separates c then lexWithin k rest
    else if c = '/' && (rest.head? = some '/' || rest.head? = some '*') then do
      let (comment, behind) ← readComment? rest
      return (← comment.lexemes?) ++ (← lexWithin k behind)
    else if spoiledLiteral.toList.isPrefixOf (c :: rest) then
      (lexWithin k ((c :: rest).drop spoiledLiteral.length)).map (.token (.literal spoiledLiteral) :: ·)
    else
      match Bracket.ofOpening? c, Bracket.ofClosing? c with
      | some b, _ => (lexWithin k rest).map (.opening b :: ·)
      | none, some b => (lexWithin k rest).map (.closing b :: ·)
      | none, none => do
        let (t, behind) ← readToken? (c :: rest)
        return .token t :: (← lexWithin k behind)

/-- Lexemes with their brackets closed. The stack holds, for each open bracket, the tokens in
front of it, the last one first. -/
def nest : List (Bracket × List Token) → List Token → List Lexeme → Option (List Token)
  | [], found, [] => some found.reverse
  | _ :: _, _, [] => none
  | stack, found, .token t :: rest => nest stack (t :: found) rest
  | stack, found, .opening b :: rest => nest ((b, found) :: stack) [] rest
  | [], _, .closing _ :: _ => none
  | (b, before) :: stack, found, .closing c :: rest =>
    if b = c then nest stack (.group b found.reverse :: before) rest else none

/-- The tokens of a text. A mark of the byte order may stand in front. -/
def tokens? (source : String) : Option (List Token) :=
  let cs := match source.toList with
    | '\ufeff' :: rest => rest
    | cs => cs
  (lexWithin (cs.length + 1) cs).bind (nest [] [])

end DocumentRepository.Declaration
