import DocumentRepository.Text.Split

/-! # Uuids

A uuid is 32 hexadecimal digits. It is written in small letters with four hyphens, and read with
or without hyphens; a spelling with hyphens may stand in braces or behind `urn:uuid:`. -/
namespace DocumentRepository.Text

def isHexDigit (c : Char) : Bool := c.isDigit || ('a' ≤ c && c ≤ 'f') || ('A' ≤ c && c ≤ 'F')

def uuidParts : List Nat := [8, 4, 4, 4, 12]

def hyphenated : List Nat → List Char → List Char
  | [], _ => []
  | [n], cs => cs.take n
  | n :: rest, cs => cs.take n ++ '-' :: hyphenated rest (cs.drop n)

def digitsBetweenHyphens? (cs : List Char) : Option (List Char) :=
  let digits := cs.filter (· != '-')
  if digits.all isHexDigit && digits.length = 32 && hyphenated uuidParts digits = cs then some digits else none

def uuidDigits? (cs : List Char) : Option (List Char) :=
  if cs.length = 32 && cs.all isHexDigit then some cs
  else
    match digitsBetweenHyphens? cs, dropFront? "urn:uuid:".toList cs, cs with
    | some digits, _, _ => some digits
    | none, some rest, _ => digitsBetweenHyphens? rest
    | none, none, '\x7b' :: rest => (dropBack? ['\x7d'] rest).bind digitsBetweenHyphens?
    | _, _, _ => none

def uuid? (s : String) : Option String :=
  (uuidDigits? s.toList).map fun digits => String.ofList (hyphenated uuidParts (digits.map Char.toLower))

end DocumentRepository.Text
