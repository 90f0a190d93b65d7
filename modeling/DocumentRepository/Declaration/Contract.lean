import DocumentRepository.Declaration.Lexer
import DocumentRepository.Declaration.Option
import DocumentRepository.Schema.Index
import DocumentRepository.Text.Words

/-! # Contracts declared in Rust

A trait declares a contract. A method's name is brought to camel case, its parameters are plain
names, and its result is wrapped in `Result` or, if calls do not wait, in `AsyncHandle`.
Attributes of contracts are read and taken away; others are kept. -/
namespace DocumentRepository.Declaration

/-! ## The contract -/

structure DeclaredMethod where
  function : String
  name : String
  params : List (String × TypeSource)
  returns : List Token
  asynchronous : Bool
  transform : Option String
  sortBy : List SortKey
  limit : Option Nat
  skip : Option Nat
  kept : List Attribute
  deriving Repr, Inhabited

structure DeclaredContract where
  name : String
  entity : List Token
  methods : List DeclaredMethod
  deriving Repr, Inhabited

/-- The entity of a contract, written `entity = Type`. -/
def entityArgument : OptionReader (List Token) := do
  let key ← .ofReader .name
  if key = "entity" then
    .ofReader (.marks "=")
    let (_, tokens) ← .ofReader (.kept (.withGrammar (·.simplePath false)))
    if (← get).ahead.isEmpty then return tokens else .ofReader failure
  else .refuse "expected `entity = Type`"

def readEntity (arguments : String) : Declared (List Token) :=
  match tokens? arguments with
  | some ts => (entityArgument ⟨ts, []⟩).map (·.1)
  | none => .error .attribute

def readParams : List Parameter → Declared (List (String × TypeSource))
  | [] => .ok []
  | .receiver .. :: rest => readParams rest
  | .typed (some name) type :: rest => do return (name, type) :: (← readParams rest)
  | .typed none _ :: _ => .error (.rule "repository method parameters must be plain identifiers")

def badReturn : DeclarationError :=
  .rule "repository methods must return Result<T, RepositoryError> or AsyncHandle<T>"

def Arguments.firstType? : Arguments → Option (List Token)
  | .angled arguments => arguments.findSome? fun a =>
    match a with
    | .type tokens => some tokens
    | _ => none
  | _ => none

/-- The wrapped result, and whether calls do not wait for it. -/
def readReturn (returns : Option TypeSource) : Declared (List Token × Bool) :=
  match (returns.bind (·.path)).map (·.last) with
  | none => .error badReturn
  | some s =>
    if s.name = "Result" || s.name = "AsyncHandle" then
      match s.arguments.firstType? with
      | some tokens => .ok (tokens, s.name = "AsyncHandle")
      | none => .error (.rule "missing result type argument")
    else .error badReturn

/-- A sort key that is being read: its field, if there is one yet, and the direction. -/
def sortStep (key : Option String × Bool) (name : Option String) : OptionReader (Option String × Bool) := do
  match name with
  | some "field" => return (some (← .ofReader .textValue), key.2)
  | some "descending" => return (key.1, false)
  | some "ascending" => return (key.1, true)
  | _ => .refuse "expected `field = \"...\"`, `ascending` or `descending`"

def readSortKey (a : Attribute) : Declared SortKey := do
  match ← a.options (none, true) sortStep with
  | (some field, ascending) => .ok ⟨field, ascending⟩
  | (none, _) => .error (.rule "sort_by needs `field = \"...\"`")

def DeclaredMethod.take (m : DeclaredMethod) (a : Attribute) : Declared DeclaredMethod := do
  match a.name with
  | some "transform" => return { m with transform := some (← a.text) }
  | some "sort_by" => return { m with sortBy := m.sortBy ++ [← readSortKey a] }
  | some "limit" => return { m with limit := some (← a.number) }
  | some "skip" => return { m with skip := some (← a.number) }
  | _ => return { m with kept := m.kept ++ [a] }

def DeclaredMethod.ofFunction (f : Function) : Declared DeclaredMethod := do
  match f.parameters with
  | .receiver true false :: _ =>
    if f.isGeneric then .error (.rule "repository methods cannot be generic")
    else
      let params ← readParams f.parameters
      let (returns, asynchronous) ← readReturn f.returns
      f.attributes.foldlM DeclaredMethod.take
        ⟨f.name, Text.camelCase f.name, params, returns, asynchronous, none, [], none, none, []⟩
  | _ => .error (.rule "repository methods must take `&self`")

def DeclaredContract.read (arguments source : String) : Declared DeclaredContract := do
  match (tokens? source).bind (Grammar.read? (·.traitDeclaration)) with
  | none => .error .malformed
  | some t => return ⟨t.name, ← readEntity arguments, ← t.functions.mapM DeclaredMethod.ofFunction⟩

end DocumentRepository.Declaration
