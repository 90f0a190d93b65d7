import DocumentRepository.Declaration.Token
import DocumentRepository.Text.Property

/-! # Literals and names in a source text

Each reader takes the characters that are left and gives those behind what it read. A literal
that is not closed, or that holds what its kind does not admit, is none. -/
namespace DocumentRepository.Declaration
open Text

/-! ## Names -/

def identStarts : Ranges := (property? "xidstart").getD []

def identParts : Ranges := (property? "xidcontinue").getD []

def startsIdent (c : Char) : Bool := c = '_' || (if c.toNat < 128 then c.isAlpha else identStarts.contains c)

def continuesIdent (c : Char) : Bool := c = '_' || (if c.toNat < 128 then c.isAlphanum else identParts.contains c)

def plainWord? : List Char → Option (String × List Char)
  | [] => none
  | c :: rest =>
    if startsIdent c then some (String.ofList (c :: rest.takeWhile continuesIdent), rest.dropWhile continuesIdent)
    else none

/-- A word, which can be a raw one. Words that lead a path cannot be raw. -/
def word? : List Char → Option (String × List Char)
  | 'r' :: '#' :: rest => do
    let (word, rest) ← plainWord? rest
    if ["_", "super", "self", "Self", "crate"].contains word then none else some ("r#" ++ word, rest)
  | cs => plainWord? cs

def dropSuffix (cs : List Char) : List Char :=
  match plainWord? cs with
  | some (_, rest) => rest
  | none => cs

/-! ## Quoted literals -/

inductive Quotation where
  | text
  /-- Bytes, which are written as ASCII characters and by their numbers. -/
  | bytes
  /-- Text with a zero for its end, so that none stands inside. -/
  | terminated
  deriving DecidableEq, Repr

def Quotation.admits : Quotation → Char → Bool
  | .text, _ => true
  | .bytes, c => c.toNat < 128
  | .terminated, c => c != '\x00'

/-- The code point between braces, behind the opening one. It has one digit to six, and
underscores behind the first of them. -/
def readBracedCode (n digits : Nat) : List Char → Option (Char × List Char)
  | [] => none
  | c :: rest =>
    if c = '_' then if digits = 0 then none else readBracedCode n digits rest
    else if c = '\x7d' then if digits ≠ 0 ∧ n.isValidChar then some (Char.ofNat n, rest) else none
    else
      match WholeNumber.hexDigit? c with
      | some d => if digits < 6 then readBracedCode (16 * n + d) (digits + 1) rest else none
      | none => none

def readEscape? (q : Quotation) : List Char → Option (Char × List Char)
  | 'n' :: rest => some ('\n', rest)
  | 'r' :: rest => some ('\r', rest)
  | 't' :: rest => some ('\t', rest)
  | '\\' :: rest => some ('\\', rest)
  | '\x27' :: rest => some ('\x27', rest)
  | '"' :: rest => some ('"', rest)
  | '0' :: rest => some ('\x00', rest)
  | 'x' :: a :: b :: rest => do
    let code := 16 * (← WholeNumber.hexDigit? a) + (← WholeNumber.hexDigit? b)
    if q = .text ∧ 128 ≤ code then none else some (Char.ofNat code, rest)
  | 'u' :: c :: rest => if c = '\x7b' ∧ q ≠ .bytes then readBracedCode 0 0 rest else none
  | _ => none

def Quotation.escape? (q : Quotation) (cs : List Char) : Option (Char × List Char) :=
  (readEscape? q cs).filter fun p => q != .terminated || p.1 != '\x00'

/-- Drops line ends and the blanks behind them. A carriage return needs its line feed. -/
def skipIndent : List Char → Option (List Char)
  | [] => none
  | '\r' :: '\n' :: rest => skipIndent rest
  | c :: rest =>
    if c = '\r' then none
    else if c = '\n' || c = ' ' || c = '\t' then skipIndent rest
    else some (c :: rest)

/-- The value of a quotation behind its opening mark, and what follows the closing one. A
carriage return with its line feed stands for the line feed, and a backslash at the end of a line
for nothing. The number bounds how many characters there are. -/
def Quotation.read (q : Quotation) : Nat → List Char → Option (List Char × List Char)
  | 0, _ => none
  | _, [] => none
  | k + 1, c :: rest =>
    let next := fun (c : Char) (rest : List Char) => (q.read k rest).map fun p => (c :: p.1, p.2)
    if c = '"' then some ([], rest)
    else if c = '\r' then
      match rest with
      | '\n' :: rest => next '\n' rest
      | _ => none
    else if c = '\\' then
      match rest with
      | [] => none
      | d :: _ =>
        if d = '\n' || d = '\r' then (skipIndent rest).bind (q.read k)
        else (q.escape? rest).bind fun p => next p.1 p.2
    else if q.admits c then next c rest
    else none

def Quotation.read? (q : Quotation) (cs : List Char) : Option (List Char × List Char) := q.read (cs.length + 1) cs

def Quotation.readRaw (q : Quotation) (hashes : Nat) : List Char → Option (List Char × List Char)
  | [] => none
  | c :: rest =>
    if c = '"' ∧ rest.take hashes = List.replicate hashes '#' then some ([], rest.drop hashes)
    else if c = '\r' ∧ rest.head? ≠ some '\n' then none
    else if q.admits c then (q.readRaw hashes rest).map fun p => (c :: p.1, p.2)
    else none

/-- A raw quotation behind its `r`. It has at most 255 hashes. -/
def Quotation.readRaw? (q : Quotation) (cs : List Char) : Option (List Char × List Char) :=
  let hashes := (cs.takeWhile (· = '#')).length
  match cs.dropWhile (· = '#') with
  | '"' :: rest => if hashes ≤ 255 then q.readRaw hashes rest else none
  | _ => none

def Quotation.readOne? (q : Quotation) : List Char → Option (List Char)
  | '\\' :: rest =>
    match q.escape? rest with
    | some (_, '\x27' :: rest) => some rest
    | _ => none
  | c :: '\x27' :: rest => if q.admits c then some rest else none
  | _ => none

/-! ## Numbers -/

def dropDigits (cs : List Char) : List Char := cs.dropWhile fun c => c.isDigit || c = '_'

def readExponent (signed digits : Bool) : List Char → Option (List Char)
  | [] => if digits then some [] else none
  | c :: rest =>
    if (c = '+' || c = '-') && !digits then if signed then none else readExponent true false rest
    else if c.isDigit then readExponent signed true rest
    else if c = '_' then readExponent signed digits rest
    else if digits then some (c :: rest)
    else none

/-- The digits of a number with a point or an exponent. No second point and no name follows a
point; an `e` behind a point that begins no exponent begins a suffix. -/
def readFraction? (cs : List Char) : Option (List Char) :=
  match dropDigits cs with
  | '.' :: rest =>
    let touched := match rest with
      | c :: _ => c = '.' || startsIdent c
      | [] => false
    if touched then none
    else
      match dropDigits rest with
      | c :: rest => if c = 'e' || c = 'E' then some ((readExponent false false rest).getD (c :: rest)) else some (c :: rest)
      | [] => some []
  | c :: rest => if c = 'e' || c = 'E' then readExponent false false rest else none
  | [] => none

/-- The digits of a whole number. A digit that its base lacks spoils it, a letter begins a suffix. -/
def readWhole (base : Nat) (seen : Bool) : List Char → Option (List Char)
  | [] => if seen then some [] else none
  | c :: rest =>
    if c = '_' then if !seen && base = 10 then none else readWhole base seen rest
    else
      match WholeNumber.hexDigit? c with
      | some d =>
        if d < base then readWhole base true rest
        else if seen && !c.isDigit then some (c :: rest)
        else none
      | none => if seen then some (c :: rest) else none

def readWhole? : List Char → Option (List Char)
  | '0' :: 'x' :: rest => readWhole 16 false rest
  | '0' :: 'o' :: rest => readWhole 8 false rest
  | '0' :: 'b' :: rest => readWhole 2 false rest
  | cs => readWhole 10 false cs

def endNumber? (cs : List Char) : Option (List Char) :=
  let rest := dropSuffix cs
  match rest with
  | c :: _ => if continuesIdent c then none else some rest
  | [] => some rest

def number? (cs : List Char) : Option (List Char) :=
  match (readFraction? cs).bind endNumber? with
  | some rest => some rest
  | none => (readWhole? cs).bind endNumber?

/-! ## Literals -/

def consumed (cs rest : List Char) : String := String.ofList (cs.take (cs.length - rest.length))

def literal? (cs : List Char) : Option (Token × List Char) :=
  let text := fun (p : List Char × List Char) =>
    let rest := dropSuffix p.2
    (Token.text (consumed cs rest) (String.ofList p.1), rest)
  let other := fun (rest : List Char) =>
    let rest := dropSuffix rest
    (Token.literal (consumed cs rest), rest)
  match cs with
  | '"' :: rest => (Quotation.text.read? rest).map text
  | 'r' :: rest => (Quotation.text.readRaw? rest).map text
  | 'b' :: '"' :: rest => (Quotation.bytes.read? rest).map fun p => other p.2
  | 'b' :: 'r' :: rest => (Quotation.bytes.readRaw? rest).map fun p => other p.2
  | 'b' :: '\x27' :: rest => (Quotation.bytes.readOne? rest).map other
  | 'c' :: '"' :: rest => (Quotation.terminated.read? rest).map fun p => other p.2
  | 'c' :: 'r' :: rest => (Quotation.terminated.readRaw? rest).map fun p => other p.2
  | '\x27' :: rest => (Quotation.text.readOne? rest).map other
  | c :: _ => if c.isDigit then (number? cs).map fun rest => (.number (consumed cs rest), rest) else none
  | [] => none

/-- What a name cannot begin with: it would look like the start of a quotation. -/
def quotationStarts : List String := ["r\"", "r#\"", "r##", "b\"", "b\x27", "br\"", "br#", "c\"", "cr\"", "cr#"]

def name? (cs : List Char) : Option (String × List Char) :=
  if quotationStarts.any fun s => s.toList.isPrefixOf cs then none else word? cs

end DocumentRepository.Declaration
