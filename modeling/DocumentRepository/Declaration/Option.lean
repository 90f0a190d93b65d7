import DocumentRepository.Declaration.Rule

/-! # Options in attributes

Options stand in an attribute with commas between them. Each is a path with a value, with
options of its own, or alone; who reads them says what each path takes. -/
namespace DocumentRepository.Declaration

inductive DeclarationError where
  /-- The source is no declaration at all. -/
  | malformed
  /-- An attribute does not have the form that it needs. -/
  | attribute
  /-- A rule of declarations is broken. -/
  | rule (text : String)
  deriving DecidableEq, Repr

abbrev Declared (α : Type) := Except DeclarationError α

namespace Reader

/-- Reads the path of an option. What is given is its one word, if it has no more; keywords count
as words. -/
def optionPath : Reader (Option String) := do
  let rooted ← marks? "::"
  let first ← anyWord
  let more := (← ahead).marks "::"
  repeatWhile do
    if ← marks? "::" then
      let _ ← anyWord
      return true
    else return false
  return if rooted || more then none else some first

def textValue : Reader String := do
  marks "="
  text

def anyOption : Reader Unit := do
  if ← marks? "=" then
    let _ ← withGrammar (·.expression true)
  else if (← ahead).group .round then skip 1

end Reader

abbrev OptionReader := StateT Cursor (Except DeclarationError)

namespace OptionReader

def ofReader {α : Type} (read : Reader α) : OptionReader α := fun c =>
  match read c with
  | some found => .ok found
  | none => .error .attribute

def refuse {α : Type} (text : String) : OptionReader α := fun _ => .error (.rule text)

/-- Reads options one after another, at least one. The step is given what was read so far and the
option's name, and reads what is behind it. -/
def optionsWithin {σ : Type} (step : σ → Option String → OptionReader σ) : Nat → σ → OptionReader σ
  | 0, _ => ofReader failure
  | k + 1, state => do
    let name ← ofReader Reader.optionPath
    let state ← step state name
    if (← get).ahead.isEmpty then return state
    ofReader (Reader.marks ",")
    if (← get).ahead.isEmpty then return state
    optionsWithin step k state

def options {σ : Type} (step : σ → Option String → OptionReader σ) (state : σ) : OptionReader σ := do
  optionsWithin step ((← get).ahead.length + 1) state

def innerOptions {σ : Type} (step : σ → Option String → OptionReader σ) (state : σ) : OptionReader σ := fun c =>
  match c.ahead with
  | .group .round inside :: rest => (options step state ⟨inside, []⟩).map fun p => (p.1, ⟨rest, c.written⟩)
  | _ => .error .attribute

end OptionReader

namespace Attribute

/-- Reads the options of an attribute; there need be none. -/
def options {σ : Type} (a : Attribute) (state : σ) (step : σ → Option String → OptionReader σ) : Declared σ :=
  match a.content with
  | .list [] => .ok state
  | .list inside => (OptionReader.options step state ⟨inside, []⟩).map (·.1)
  | _ => .error .attribute

def argument {α : Type} (a : Attribute) (read : Reader α) : Declared α :=
  match a.content with
  | .list inside =>
    match read.whole? inside with
    | some found => .ok found
    | none => .error .attribute
  | _ => .error .attribute

def text (a : Attribute) : Declared String := a.argument Reader.text

def number (a : Attribute) : Declared Nat :=
  a.argument do
    match ← Reader.token with
    | .number source =>
      match WholeNumber.read? source with
      | some n => return n.value
      | none => failure
    | _ => failure

end Attribute

/-- Reads the options of all attributes of a name, in order. -/
def readNamed {σ : Type} (name : String) (step : σ → Option String → OptionReader σ) (state : σ)
    (attributes : List Attribute) : Declared σ :=
  (attributes.filter (·.name == some name)).foldlM (fun state a => a.options state step) state

end DocumentRepository.Declaration
