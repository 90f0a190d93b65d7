import DocumentRepository.Json.Reader

/-! # Settings of a registry

Settings are read from JSON: an object with known keys, or an array of the values in order.
What is left out has its default, and a known key may stand only once. -/
namespace DocumentRepository

structure RegistryConfig where
  createIndexes : Bool
  /-- The number of workers for asynchronous calls; without one each call has a thread. -/
  workerThreads : Option Nat
  deriving DecidableEq, Repr, Inhabited

namespace RegistryConfig

def standard : RegistryConfig := ⟨true, none⟩

def readFlag? : Json → Option Bool
  | .bool b => some b
  | _ => none

def readThreads? : Json → Option (Option Nat)
  | .null => some none
  | .int i => if 0 ≤ i ∧ i < UInt64.size then some (some i.toNat) else none
  | _ => none

/-- The value of a key that stands at most once, read or left at its default. -/
def readKey? {α : Type} (key : String) (standard : α) (read? : Json → Option α) (entries : List (String × Json)) :
    Option α :=
  match entries.filter (·.1 == key) with
  | [] => some standard
  | [(_, value)] => read? value
  | _ => none

def ofJson? : Json → Option RegistryConfig
  | .object entries => do
    let createIndexes ← readKey? "create_indexes" standard.createIndexes readFlag? entries
    let workerThreads ← readKey? "worker_threads" standard.workerThreads readThreads? entries
    return ⟨createIndexes, workerThreads⟩
  | .array [] => some standard
  | .array [flag] => do return ⟨← readFlag? flag, standard.workerThreads⟩
  | .array [flag, threads] => do return ⟨← readFlag? flag, ← readThreads? threads⟩
  | _ => none

def read? (text : String) : Option RegistryConfig := (Json.readObject? text).bind ofJson?

def display (c : RegistryConfig) : String :=
  let threads := match c.workerThreads with
    | some n => s!"Some({n})"
    | none => "None"
  s!"RegistryConfig \x7b create_indexes: {c.createIndexes}, worker_threads: {threads} \x7d"

end RegistryConfig
end DocumentRepository
