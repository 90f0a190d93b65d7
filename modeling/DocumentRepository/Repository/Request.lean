import DocumentRepository.Repository.Registry

/-! # Requests at the same time

Several callers can ask a registry for repositories at once. A request looks its contract up and,
if the repository is not there, fetches the gate of the contract, which is made for the first that
asks, takes it, looks once more, builds, publishes and releases the gate. The steps of different
requests may come in any order; a gate has at most one holder, so that a contract is built by one
request at a time. -/
namespace DocumentRepository

abbrev Answer := Except (Failure RepositoryError) Published

/-- What a request does next. One that has fetched its gate knows it from then on. -/
inductive Stage where
  | look
  | fetchGate
  | takeGate (gate : Nat)
  | lookAgain (gate : Nat)
  | build (gate : Nat)
  | publish (gate : Nat) (r : Repository)
  | release (gate : Nat) (answer : Answer)
  | done (answer : Answer)

structure Request where
  key : Nat
  stage : Stage

def Request.new (key : Nat) : Request := ⟨key, .look⟩

def Request.answer? (q : Request) : Option Answer :=
  match q.stage with
  | .done answer => some answer
  | _ => none

structure Requests (σ : Type) where
  registry : Registry
  store : σ
  /-- The gates that have been made, by contract. -/
  gates : List (Nat × Nat)
  /-- The gates that are held. -/
  held : List Nat
  requests : List Request

namespace Requests

variable {σ : Type}

def ofKeys (g : Registry) (store : σ) (keys : List Nat) : Requests σ := ⟨g, store, [], [], keys.map Request.new⟩

def advance (s : Requests σ) (i : Nat) (q : Request) (stage : Stage) : Requests σ :=
  { s with requests := s.requests.set i { q with stage } }

def gateOf (s : Requests σ) (key : Nat) : Nat := (s.gates.lookup key).getD s.gates.length

def gatesWith (s : Requests σ) (key : Nat) : List (Nat × Nat) :=
  match s.gates.lookup key with
  | some _ => s.gates
  | none => (key, s.gateOf key) :: s.gates

/-- The next step of a request, given what its contract would say of itself now. A request in
front of a gate that is held waits. -/
def step [DocumentStore σ] (s : Requests σ) (i : Nat) (describe : Except String Description) : Requests σ :=
  match s.requests[i]? with
  | none => s
  | some q =>
    match q.stage with
    | .look =>
      match s.registry.lookup? q.key with
      | some p => s.advance i q (.done (.ok p))
      | none => s.advance i q .fetchGate
    | .fetchGate => { s.advance i q (.takeGate (s.gateOf q.key)) with gates := s.gatesWith q.key }
    | .takeGate gate =>
      if gate ∈ s.held then s else { s.advance i q (.lookAgain gate) with held := gate :: s.held }
    | .lookAgain gate =>
      match s.registry.lookup? q.key with
      | some p => s.advance i q (.release gate (.ok p))
      | none => s.advance i q (.build gate)
    | .build gate =>
      match s.registry.buildDescribed describe s.store with
      | (.ok r, store) => { s.advance i q (.publish gate r) with store }
      | (.error e, store) => { s.advance i q (.release gate (.error e)) with store }
    | .publish gate r =>
      let (registry, p) := s.registry.publish q.key r
      { s.advance i q (.release gate (.ok p)) with registry }
    | .release gate answer => { s.advance i q (.done answer) with held := s.held.erase gate }
    | .done _ => s

/-- The requests that take steps, one after another, each with what its contract would say of itself. -/
abbrev Schedule := List (Nat × Except String Description)

def run [DocumentStore σ] (s : Requests σ) (schedule : Schedule) : Requests σ :=
  schedule.foldl (fun s turn => s.step turn.1 turn.2) s

end Requests
end DocumentRepository
