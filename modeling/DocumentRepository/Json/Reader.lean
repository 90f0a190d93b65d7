import DocumentRepository.Json.Basic

/-! # Reading JSON text

The reader accepts exactly one value between blanks. A number without fraction and exponent is
whole if 64 bits hold it, signed or unsigned; every other number is the nearest double. Minus
zero has no whole form. -/
namespace DocumentRepository.Json

def isBlank (c : Char) : Bool := c = ' ' || c = '\t' || c = '\n' || c = '\r'

def skipBlanks (cs : List Char) : List Char := cs.dropWhile isBlank

def hexValue? (c : Char) : Option Nat :=
  if '0' ≤ c ∧ c ≤ '9' then some (c.toNat - '0'.toNat)
  else if 'a' ≤ c ∧ c ≤ 'f' then some (c.toNat - 'a'.toNat + 10)
  else if 'A' ≤ c ∧ c ≤ 'F' then some (c.toNat - 'A'.toNat + 10)
  else none

def digitsValue (digits : List Char) : Nat :=
  digits.foldl (fun n c => 10 * n + (c.toNat - '0'.toNat)) 0

def readUnit : List Char → Option (Nat × List Char)
  | a :: b :: c :: d :: rest => do
    let digits ← [a, b, c, d].mapM hexValue?
    return (digits.foldl (fun n h => 16 * n + h) 0, rest)
  | _ => none

/-- Whether a surrogate can stand alone in a text. It is read as the replacement character then. -/
inductive Surrogates where
  | paired
  | loose
  deriving DecidableEq, Repr

def readEscapedUnit (surrogates : Surrogates) (cs : List Char) : Option (Char × List Char) := do
  let (high, rest) ← readUnit cs
  if surrogates = .loose ∧ 0xd800 ≤ high ∧ high < 0xe000 then return ('\ufffd', rest)
  else if 0xd800 ≤ high ∧ high < 0xdc00 then
    match rest with
    | '\\' :: 'u' :: rest => do
      let (low, rest) ← readUnit rest
      if 0xdc00 ≤ low ∧ low < 0xe000 then
        return (Char.ofNat (0x10000 + (high - 0xd800) * 0x400 + (low - 0xdc00)), rest)
      else none
    | _ => none
  else if 0xdc00 ≤ high ∧ high < 0xe000 then none
  else return (Char.ofNat high, rest)

def readString (surrogates : Surrogates) : Nat → List Char → List Char → Option (String × List Char)
  | 0, _, _ => none
  | fuel + 1, read, cs =>
    match cs with
    | '"' :: rest => some (String.ofList read.reverse, rest)
    | '\\' :: 'u' :: rest => do
      let (c, rest) ← readEscapedUnit surrogates rest
      readString surrogates fuel (c :: read) rest
    | '\\' :: c :: rest =>
      match c with
      | '"' => readString surrogates fuel ('"' :: read) rest
      | '\\' => readString surrogates fuel ('\\' :: read) rest
      | '/' => readString surrogates fuel ('/' :: read) rest
      | 'b' => readString surrogates fuel ('\x08' :: read) rest
      | 'f' => readString surrogates fuel ('\x0c' :: read) rest
      | 'n' => readString surrogates fuel ('\n' :: read) rest
      | 'r' => readString surrogates fuel ('\r' :: read) rest
      | 't' => readString surrogates fuel ('\t' :: read) rest
      | _ => none
    | c :: rest => if c.toNat < 0x20 then none else readString surrogates fuel (c :: read) rest
    | [] => none

def numberOf (negative : Bool) (whole fraction : List Char) (exponent : Option Int) : Json :=
  if fraction.isEmpty && exponent.isNone && !(negative && digitsValue whole == 0) then
    let i : Int := if negative then -(digitsValue whole : Int) else digitsValue whole
    if Int64.minValue.toInt ≤ i ∧ i < UInt64.size then .int i else .float (Double.ofInt i)
  else
    .float (Double.ofDecimal negative (digitsValue (whole ++ fraction)) (exponent.getD 0 - fraction.length))

def readFraction : List Char → Option (List Char × List Char)
  | '.' :: rest =>
    let digits := rest.takeWhile Char.isDigit
    if digits.isEmpty then none else some (digits, rest.dropWhile Char.isDigit)
  | cs => some ([], cs)

def readExponent (cs : List Char) : Option (Option Int × List Char) :=
  match cs with
  | e :: rest =>
    if e = 'e' ∨ e = 'E' then
      let (negative, rest) := match rest with
        | '-' :: rest => (true, rest)
        | '+' :: rest => (false, rest)
        | rest => (false, rest)
      let digits := rest.takeWhile Char.isDigit
      if digits.isEmpty then none
      else
        let magnitude : Int := digitsValue digits
        some (some (if negative then -magnitude else magnitude), rest.dropWhile Char.isDigit)
    else some (none, cs)
  | [] => some (none, cs)

/-- The digits before the point: no zero leads others. -/
def readWhole (cs : List Char) : Option (List Char × List Char) :=
  let digits := cs.takeWhile Char.isDigit
  if digits.isEmpty ∨ (digits.head? = some '0' ∧ 1 < digits.length) then none
  else some (digits, cs.dropWhile Char.isDigit)

def readNumber (cs : List Char) : Option (Json × List Char) := do
  let (negative, cs) := match cs with
    | '-' :: rest => (true, rest)
    | cs => (false, cs)
  let (whole, cs) ← readWhole cs
  let (fraction, cs) ← readFraction cs
  let (exponent, cs) ← readExponent cs
  return (numberOf negative whole fraction exponent, cs)

mutual

/-- A value without the blanks around it. The keys of an object can be read in another way than
the texts inside. -/
def readValue (keys inside : Surrogates) : Nat → List Char → Option (Json × List Char)
  | 0, _ => none
  | fuel + 1, cs =>
    match cs with
    | 'n' :: 'u' :: 'l' :: 'l' :: rest => some (.null, rest)
    | 't' :: 'r' :: 'u' :: 'e' :: rest => some (.bool true, rest)
    | 'f' :: 'a' :: 'l' :: 's' :: 'e' :: rest => some (.bool false, rest)
    | '"' :: rest => (readString inside (rest.length + 1) [] rest).map fun (s, rest) => (.string s, rest)
    | '[' :: rest =>
      match skipBlanks rest with
      | ']' :: rest => some (.array [], rest)
      | cs => (readItems inside fuel [] cs).map fun (items, rest) => (.array items, rest)
    | '\x7b' :: rest =>
      match skipBlanks rest with
      | '\x7d' :: rest => some (.object [], rest)
      | cs => (readFields keys inside fuel [] cs).map fun (fields, rest) => (.object fields, rest)
    | cs => readNumber cs

def readItems (inside : Surrogates) : Nat → List Json → List Char → Option (List Json × List Char)
  | 0, _, _ => none
  | fuel + 1, read, cs => do
    let (j, cs) ← readValue inside inside fuel cs
    match skipBlanks cs with
    | ',' :: rest => readItems inside fuel (j :: read) (skipBlanks rest)
    | ']' :: rest => return ((j :: read).reverse, rest)
    | _ => none

def readFields (keys inside : Surrogates) : Nat → List (String × Json) → List Char →
    Option (List (String × Json) × List Char)
  | 0, _, _ => none
  | fuel + 1, read, cs =>
    match cs with
    | '"' :: rest => do
      let (key, cs) ← readString keys (rest.length + 1) [] rest
      match skipBlanks cs with
      | ':' :: rest => do
        let (j, cs) ← readValue inside inside fuel (skipBlanks rest)
        match skipBlanks cs with
        | ',' :: rest => readFields keys inside fuel ((key, j) :: read) (skipBlanks rest)
        | '\x7d' :: rest => return (((key, j) :: read).reverse, rest)
        | _ => none
      | _ => none
    | _ => none

end

def readWith (keys inside : Surrogates) (text : String) : Option Json := do
  let cs := skipBlanks text.toList
  let (j, rest) ← readValue keys inside (cs.length + 1) cs
  if (skipBlanks rest).isEmpty then return j else none

def read? (text : String) : Option Json := readWith .paired .paired text

/-- As `read?`, for an object most of whose values do not matter: surrogates may stand alone in
them, yet not in its keys. -/
def readObject? (text : String) : Option Json := readWith .paired .loose text

end DocumentRepository.Json
