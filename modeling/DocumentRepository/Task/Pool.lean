import DocumentRepository.Task.Handle

/-! # Worker pools

Workers take tasks from one queue. A task that panics ends alone: its worker counts it and goes
on. When the pool is closed the workers leave once the queue is empty, and their counts are
added up. Every worker's thread is taken to have started, and what a panic carries to be let go
without another panic. -/
namespace DocumentRepository

structure PoolStats where
  completed : Nat
  panicked : Nat
  deriving DecidableEq, Repr, Inhabited

namespace PoolStats

def zero : PoolStats := ⟨0, 0⟩

def add (a b : PoolStats) : PoolStats := ⟨a.completed + b.completed, a.panicked + b.panicked⟩

def count (s : PoolStats) (panics : Bool) : PoolStats :=
  if panics then { s with panicked := s.panicked + 1 } else { s with completed := s.completed + 1 }

end PoolStats

structure Task where
  number : Nat
  panics : Bool
  deriving DecidableEq, Repr, Inhabited

/-- What a pool is given to run: a task of its own, by its end, or the task of a handle, by the end of its job. -/
inductive Work : Type 1 where
  | bare (ending : TaskEnd)
  | handled {α : Type} (job : JobEnd α)

def Work.ending : Work → TaskEnd
  | bare ending => ending
  | handled job => (Handle.running.perform job).1

def Work.task (w : Work) (number : Nat) : Task := ⟨number, w.ending.isSome⟩

inductive Activity where
  | idle
  | busy (task : Task)
  | gone
  deriving DecidableEq, Repr, Inhabited

structure Worker where
  activity : Activity
  stats : PoolStats
  deriving DecidableEq, Repr, Inhabited

def Worker.fresh : Worker := ⟨.idle, PoolStats.zero⟩

structure Pool where
  queue : List Task
  isOpen : Bool
  workers : List Worker
  /-- The tasks that were run, the latest first. -/
  finished : List Task
  deriving DecidableEq, Repr, Inhabited

namespace Pool

def ofSize (threads : Nat) : Pool := ⟨[], true, List.replicate (max threads 1) Worker.fresh, []⟩

def size (p : Pool) : Nat := p.workers.length

/-- Puts a task behind those that wait; a closed pool drops it. -/
def submit (p : Pool) (task : Task) : Pool := if p.isOpen then { p with queue := p.queue ++ [task] } else p

def close (p : Pool) : Pool := { p with isOpen := false }

/-- The next step of a worker: it finishes its task, takes one, or leaves when there is none and
the pool is closed. An idle worker of an open pool with an empty queue waits. -/
def step (p : Pool) (i : Nat) : Pool :=
  match p.workers[i]? with
  | none => p
  | some w =>
    match w.activity, p.queue with
    | .gone, _ => p
    | .busy task, _ =>
      { p with
        workers := p.workers.set i ⟨.idle, w.stats.count task.panics⟩
        finished := task :: p.finished }
    | .idle, task :: rest => { p with queue := rest, workers := p.workers.set i { w with activity := .busy task } }
    | .idle, [] => if p.isOpen then p else { p with workers := p.workers.set i { w with activity := .gone } }

def run (p : Pool) (schedule : List Nat) : Pool := schedule.foldl step p

theorem run_cons (p : Pool) (i : Nat) (schedule : List Nat) :
    p.run (i :: schedule) = (p.step i).run schedule := rfl

inductive Event : Type 1 where
  | submit (number : Nat) (work : Work)
  | close
  | worker (i : Nat)

def meet (p : Pool) : Event → Pool
  | .submit number work => p.submit (work.task number)
  | .close => p.close
  | .worker i => p.step i

def after (p : Pool) (events : List Event) : Pool := events.foldl meet p

def stats (p : Pool) : PoolStats := (p.workers.map (·.stats)).foldl PoolStats.add PoolStats.zero

/-- Every worker in turn, often enough for all waiting tasks. -/
def rounds (p : Pool) : List Nat := (List.replicate (2 * p.queue.length + 2) (List.range p.size)).flatten

def shutdown (p : Pool) : Pool := p.close.run p.close.rounds

end Pool
end DocumentRepository
