import DocumentRepository.Text.CaseMap
import DocumentRepository.Text.Category

/-! # Words of an identifier

An identifier is cut at every character that is neither letter nor digit, where a small letter
meets a capital, and before the last of several capitals when a small letter follows it. The
naming styles put the words together again. -/
namespace DocumentRepository.Text

def alphanumeric : Ranges :=
  (property? "alphabetic").getD [] ++ (category? "n").getD []

def smallLetters : Ranges := (property? "lowercase").getD []

def capitals : Ranges := (property? "uppercase").getD []

def isSmall (c : Char) : Bool := smallLetters.contains c

def isCapital (c : Char) : Bool := capitals.contains c

inductive WordCase where
  | undecided
  | small
  | capital
  deriving DecidableEq, Repr

/-- Cuts a run of letters and digits; `word` is the word being read, its last character first. -/
def cutWords (mode : WordCase) (word : List Char) : List Char → List (List Char)
  | [] => if word.isEmpty then [] else [word.reverse]
  | [c] => [(c :: word).reverse]
  | c :: next :: rest =>
    let nextMode := if isSmall c then .small else if isCapital c then .capital else mode
    if nextMode = .small ∧ isCapital next then (c :: word).reverse :: cutWords .undecided [] (next :: rest)
    else if mode = .capital ∧ isCapital c ∧ isSmall next then
      word.reverse :: cutWords .undecided [c] (next :: rest)
    else cutWords nextMode (c :: word) (next :: rest)

def alphanumericRuns (run : List Char) : List Char → List (List Char)
  | [] => [run.reverse]
  | c :: rest =>
    if alphanumeric.contains c then alphanumericRuns (c :: run) rest
    else run.reverse :: alphanumericRuns [] rest

def words (identifier : String) : List (List Char) :=
  (alphanumericRuns [] identifier.toList).flatMap (cutWords .undecided [])

/-- A word in small letters; a capital sigma at its end has a form of its own. -/
def lowerWord : List Char → List Char
  | [] => []
  | [c] => if c = 'Σ' then ['ς'] else lowerChar c
  | c :: rest => lowerChar c ++ lowerWord rest

def capitalWord : List Char → List Char
  | [] => []
  | c :: rest => upperChar c ++ lowerWord rest

def upperWord (word : List Char) : List Char := word.flatMap upperChar

def joinWords (separator : String) (ws : List (List Char)) : String :=
  separator.intercalate (ws.map String.ofList)

def pascalCase (identifier : String) : String := joinWords "" ((words identifier).map capitalWord)

def camelCase (identifier : String) : String :=
  joinWords "" <|
    match words identifier with
    | [] => []
    | w :: ws => lowerWord w :: ws.map capitalWord

def snakeCase (identifier : String) : String := joinWords "_" ((words identifier).map lowerWord)

def screamingSnakeCase (identifier : String) : String := joinWords "_" ((words identifier).map upperWord)

def kebabCase (identifier : String) : String := joinWords "-" ((words identifier).map lowerWord)

def screamingKebabCase (identifier : String) : String := joinWords "-" ((words identifier).map upperWord)

inductive RenameRule where
  | lowercase
  | uppercase
  | pascalCase
  | camelCase
  | snakeCase
  | screamingSnakeCase
  | kebabCase
  | screamingKebabCase
  deriving DecidableEq, Repr

def RenameRule.all : List RenameRule :=
  [.lowercase, .uppercase, .pascalCase, .camelCase, .snakeCase, .screamingSnakeCase, .kebabCase, .screamingKebabCase]

def RenameRule.name : RenameRule → String
  | .lowercase => "lowercase"
  | .uppercase => "UPPERCASE"
  | .pascalCase => "PascalCase"
  | .camelCase => "camelCase"
  | .snakeCase => "snake_case"
  | .screamingSnakeCase => "SCREAMING_SNAKE_CASE"
  | .kebabCase => "kebab-case"
  | .screamingKebabCase => "SCREAMING-KEBAB-CASE"

def RenameRule.ofName? (name : String) : Option RenameRule := RenameRule.all.find? (·.name == name)

def RenameRule.apply : RenameRule → String → String
  | .lowercase => lower
  | .uppercase => upper
  | .pascalCase => Text.pascalCase
  | .camelCase => Text.camelCase
  | .snakeCase => Text.snakeCase
  | .screamingSnakeCase => Text.screamingSnakeCase
  | .kebabCase => Text.kebabCase
  | .screamingKebabCase => Text.screamingKebabCase

end DocumentRepository.Text
