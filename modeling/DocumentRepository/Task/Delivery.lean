import DocumentRepository.Task.Handle

/-! # Deliveries

A task and the caller that has its handle go on side by side. The task starts, finishes its job and sends the result,
and leaves; or it is dropped before it has started. The caller asks as often as it likes and may wait at last, which
gives the handle up. The steps of the two come in any order. -/
namespace DocumentRepository

inductive TaskStage where
  /-- An executor has it. -/
  | given
  | working
  | sent
  | ended
  /-- It was dropped before it started. -/
  | discarded
  deriving DecidableEq, Repr, Inhabited

inductive TaskStep where
  | start
  | finish
  | leave
  | discard
  deriving DecidableEq, Repr, Inhabited

/-- A call of a handle. One with a time limit asks whenever something happens and, for the last time, when its time is
over; it stands where it is answered. -/
inductive HandleCall where
  | tryWait
  | waitTimeout
  | wait
  deriving DecidableEq, Repr, Inhabited

/-- What can be seen of a delivery from outside. -/
inductive Sign (α : Type) where
  | sent
  | left
  | discarded
  | answered (answer : Option (Except RepositoryError α))

structure Delivery (α : Type) where
  stage : TaskStage
  handle : Handle α
  /-- A wait was answered, and the handle is given up. -/
  waited : Bool
  signs : List (Sign α)

namespace Delivery

variable {α : Type}

inductive Event where
  | task (step : TaskStep)
  | call (c : HandleCall)
  deriving DecidableEq, Repr, Inhabited

def new : Delivery α := ⟨.given, .running, false, []⟩

/-- A step of the task, the end of its job being given. A step that is not its next is none. -/
def taskStep (job : JobEnd α) (d : Delivery α) (step : TaskStep) : Delivery α :=
  match step, d.stage with
  | .start, .given => { d with stage := .working }
  | .finish, .working => { d with stage := .sent, handle := d.handle.send job, signs := d.signs ++ [.sent] }
  | .leave, .sent => { d with stage := .ended, handle := d.handle.drop, signs := d.signs ++ [.left] }
  | .discard, .given => { d with stage := .discarded, handle := d.handle.drop, signs := d.signs ++ [.discarded] }
  | _, _ => d

def ask (d : Delivery α) : Delivery α :=
  { d with handle := d.handle.poll.2, signs := d.signs ++ [.answered d.handle.poll.1] }

/-- A call of the handle. A wait is answered as soon as asking gives something; until then it goes on. -/
def call (d : Delivery α) (c : HandleCall) : Delivery α :=
  if d.waited then d
  else
    match c with
    | .tryWait => d.ask
    | .waitTimeout => d.ask
    | .wait => if d.handle.poll.1.isSome then { d.ask with waited := true } else d

def step (job : JobEnd α) (d : Delivery α) : Event → Delivery α
  | .task step => d.taskStep job step
  | .call c => d.call c

def run (job : JobEnd α) (d : Delivery α) (events : List Event) : Delivery α := events.foldl (step job) d

end Delivery

def Executor.taskSteps (e : Executor) : List TaskStep :=
  if e.runs then [.start, .finish, .leave] else [.discard]

end DocumentRepository
