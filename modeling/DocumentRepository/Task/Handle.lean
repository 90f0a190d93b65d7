import DocumentRepository.Repository.Basic

/-! # Handles of asynchronous calls

A handle waits for the end of one task. Between the two is a place for one result: the task puts the result of its job
there, once, and is gone after that; the handle takes it out. A handle that finds the place empty when the task is gone
says that the task was dropped. -/
namespace DocumentRepository

inductive Payload where
  | text (s : String)
  | other
  deriving DecidableEq, Repr, Inhabited

def Payload.message : Payload → String
  | text s => s
  | other => "task panicked"

inductive JobEnd (α : Type) where
  | returned (result : Except RepositoryError α)
  | panicked (payload : Payload)

/-- The result that a job sends; a panic is sent as an error. -/
def JobEnd.result {α : Type} : JobEnd α → Except RepositoryError α
  | returned result => result
  | panicked payload => .error (.async payload.message)

/-- How a task itself ends: it returns, or it panics and nobody has caught that. -/
abbrev TaskEnd := Option Payload

structure Handle (α : Type) where
  /-- The result that was sent and not yet handed out. -/
  result : Option (Except RepositoryError α)
  /-- The task is not gone. -/
  awaited : Bool

namespace Handle

variable {α : Type}

def running : Handle α := ⟨none, true⟩

def ready (result : Except RepositoryError α) : Handle α := ⟨some result, false⟩

/-- The task is gone, and there is no result any more or never was. -/
def spent : Handle α := ⟨none, false⟩

def dropped : RepositoryError := .async "task was dropped before completing"

def send (h : Handle α) (job : JobEnd α) : Handle α := { h with result := some job.result }

def drop (h : Handle α) : Handle α := { h with awaited := false }

def perform (h : Handle α) (job : JobEnd α) : TaskEnd × Handle α := (none, (h.send job).drop)

/-- Asks for the result: nothing while the task may still send one. -/
def poll (h : Handle α) : Option (Except RepositoryError α) × Handle α :=
  match h.result with
  | some result => (some result, { h with result := none })
  | none => (if h.awaited then none else some (.error dropped), h)

def polls (h : Handle α) : Nat → List (Option (Except RepositoryError α))
  | 0 => []
  | k + 1 => h.poll.1 :: h.poll.2.polls k

@[simp] theorem poll_running : (running : Handle α).poll = (none, running) := rfl

@[simp] theorem poll_spent : (spent : Handle α).poll = (some (.error dropped), spent) := rfl

end Handle

inductive Executor where
  /-- A thread for each task. -/
  | thread
  /-- The caller, at once. -/
  | inline
  /-- Nowhere: every task is dropped. -/
  | drop
  | pool (threads : Nat)
  deriving DecidableEq, Repr, Inhabited

namespace Executor

variable {σ α : Type}

def runs : Executor → Bool
  | drop => false
  | _ => true

def finish (e : Executor) (job : JobEnd α) : Handle α :=
  if e.runs then (Handle.running.perform job).2 else Handle.running.drop

def endOf : Except (Failure RepositoryError) α → JobEnd α
  | .ok a => .returned (.ok a)
  | .error (.error e) => .returned (.error e)
  | .error (.panic text) => .panicked (.text text)

/-- Runs a call as a task and waits for its result. -/
def await (e : Executor) (call : Repository.Call σ α) : Repository.Call σ α := fun s =>
  if e.runs then
    match call s with
    | (r, s) => (((endOf r).result).mapError .error, s)
  else (.error (.error Handle.dropped), s)

end Executor
end DocumentRepository
