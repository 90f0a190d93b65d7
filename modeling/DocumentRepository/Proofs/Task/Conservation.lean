import DocumentRepository.Task.Pool
import Mathlib.Data.List.Count
import Mathlib.Data.List.Nodup

/-! # A pool runs every task once

Workers take their steps in any order, between submissions and the close. No step loses or doubles a task: each one
that the pool was given waits in the queue, is held by one worker, or was run and counted. A worker leaves a closed pool
only, and only when it finds the queue empty; so when all have left, everything was run.

In a closed pool a worker needs a bounded number of turns until it has left, however the turns of the others come.
-/
namespace DocumentRepository

/-- The task ends with a panic that nobody has caught. A handle's task catches the panic of its job. -/
def Work.panics : Work → Bool
  | bare ending => ending.isSome
  | handled _ => false

theorem Work.panics_task (w : Work) (number : Nat) : (w.task number).panics = w.panics := by
  cases w with
  | bare ending => rfl
  | handled job => rfl

namespace PoolStats

def of (s : PoolStats) (panics : Bool) : Nat := if panics then s.panicked else s.completed

theorem of_count (s : PoolStats) (panicked panics : Bool) :
    (s.count panicked).of panics = s.of panics + if panicked = panics then 1 else 0 := by
  cases panicked <;> cases panics <;> rfl

end PoolStats

namespace Worker

variable {workers : List Worker} {i : Nat} {w : Worker}

def holding (task : Task) (w : Worker) : Nat := if w.activity = .busy task then 1 else 0

def total (f : Worker → Nat) : List Worker → Nat
  | [] => 0
  | w :: rest => f w + total f rest

theorem total_eq_zero {f : Worker → Nat} (h : ∀ w ∈ workers, f w = 0) : total f workers = 0 := by
  induction workers with
  | nil => rfl
  | cons w rest ih => rw [total, h w List.mem_cons_self, ih fun v hv => h v (List.mem_cons_of_mem w hv)]

theorem foldl_add_stats (workers : List Worker) (s : PoolStats) :
    (workers.map (·.stats)).foldl PoolStats.add s =
      ⟨s.completed + total (·.stats.of false) workers, s.panicked + total (·.stats.of true) workers⟩ := by
  induction workers generalizing s with
  | nil => rfl
  | cons w rest ih =>
    rw [List.map_cons, List.foldl_cons, ih]
    simp only [PoolStats.add, PoolStats.of, total, Nat.add_assoc, if_true, Bool.false_eq_true, if_false]

theorem total_set (hw : workers[i]? = some w) (f : Worker → Nat) (w' : Worker) :
    total f (workers.set i w') + f w = total f workers + f w' := by
  induction workers generalizing i with
  | nil => cases hw
  | cons v rest ih =>
    cases i with
    | zero =>
      cases hw
      simp only [List.set_cons_zero, total]
      omega
    | succ i =>
      have hrest := ih hw
      simp only [List.set_cons_succ, total]
      omega

/-- Only a worker that counts a task changes the counts. -/
theorem total_of_set (hw : workers[i]? = some w) (activity : Activity) (panics : Bool) :
    total (·.stats.of panics) (workers.set i { w with activity }) = total (·.stats.of panics) workers := by
  have hset := total_set hw (·.stats.of panics) { w with activity }
  dsimp only at hset
  omega

/-- The turns that it needs until it has left a closed pool, at the most: two for each task that waits, one to finish
what it runs and one to leave. -/
def turnsLeft (waiting : Nat) (w : Worker) : Nat :=
  match w.activity with
  | .gone => 0
  | .idle => 2 * waiting + 1
  | .busy _ => 2 * waiting + 2

theorem turnsLeft_le (w : Worker) (waiting : Nat) : w.turnsLeft waiting ≤ 2 * waiting + 2 := by
  unfold turnsLeft
  split <;> omega

theorem turnsLeft_mono (w : Worker) {m n : Nat} (h : m ≤ n) : w.turnsLeft m ≤ w.turnsLeft n := by
  unfold turnsLeft
  split <;> omega

theorem gone_of_turnsLeft {waiting : Nat} (h : w.turnsLeft waiting = 0) : w.activity = .gone := by
  unfold turnsLeft at h
  split at h
  case h_1 hgone => exact hgone
  case h_2 => omega
  case h_3 => omega

end Worker

namespace Pool

variable {p q : Pool} {i j : Nat} {w : Worker} {task : Task} {tasks : List Task} {schedule : List Nat}

/-- All workers have left, so there is nobody to wait for. -/
def Joined (p : Pool) : Prop := ∀ w ∈ p.workers, w.activity = .gone

instance : Decidable p.Joined := inferInstanceAs (Decidable (∀ w ∈ p.workers, w.activity = .gone))

def submissions : List Event → List (Nat × Work)
  | [] => []
  | .submit number work :: rest => (number, work) :: submissions rest
  | .close :: _ => []
  | .worker _ :: rest => submissions rest

def tasksOf (given : List (Nat × Work)) : List Task := given.map fun s => s.2.task s.1

/-- Each of the submissions was run once, and is counted by the way it ended. -/
structure AllDone (p : Pool) (given : List (Nat × Work)) : Prop where
  once : p.finished.Perm (tasksOf given)
  counted : p.stats = ⟨given.countP fun s => !s.2.panics, given.countP fun s => s.2.panics⟩

theorem stats_eq (p : Pool) :
    p.stats = ⟨Worker.total (·.stats.of false) p.workers, Worker.total (·.stats.of true) p.workers⟩ := by
  rw [stats, Worker.foldl_add_stats]
  simp only [PoolStats.zero, Nat.zero_add]

inductive Turn (p : Pool) (i : Nat) : Pool → Prop where
  | absent (hw : p.workers[i]? = none) : Turn p i p
  | rests {w : Worker} (hw : p.workers[i]? = some w) (h : w.activity = .gone) : Turn p i p
  | finishes {w : Worker} {task : Task} (hw : p.workers[i]? = some w) (h : w.activity = .busy task) :
    Turn p i { p with
      workers := p.workers.set i ⟨.idle, w.stats.count task.panics⟩
      finished := task :: p.finished }
  | takes {w : Worker} {task : Task} {rest : List Task} (hw : p.workers[i]? = some w) (h : w.activity = .idle)
      (hqueue : p.queue = task :: rest) :
    Turn p i { p with queue := rest, workers := p.workers.set i { w with activity := .busy task } }
  | waits {w : Worker} (hw : p.workers[i]? = some w) (h : w.activity = .idle) (hqueue : p.queue = [])
      (hopen : p.isOpen = true) : Turn p i p
  | leaves {w : Worker} (hw : p.workers[i]? = some w) (h : w.activity = .idle) (hqueue : p.queue = [])
      (hopen : p.isOpen = false) : Turn p i { p with workers := p.workers.set i { w with activity := .gone } }

theorem turn_step (p : Pool) (i : Nat) : Turn p i (p.step i) := by
  unfold step
  split
  case h_1 hw => exact .absent hw
  case h_2 w hw =>
    split
    case h_1 h => exact .rests hw h
    case h_2 task h => exact .finishes hw h
    case h_3 task rest h hqueue => exact .takes hw h hqueue
    case h_4 h hqueue =>
      split
      case isTrue hopen => exact .waits hw h hqueue hopen
      case isFalse hopen => exact .leaves hw h hqueue (Bool.eq_false_iff.mpr hopen)

namespace Turn

theorem isOpen_eq (h : Turn p i q) : q.isOpen = p.isOpen := by
  cases h <;> rfl

theorem size_eq (h : Turn p i q) : q.size = p.size := by
  cases h with
  | finishes => exact List.length_set
  | takes => exact List.length_set
  | leaves => exact List.length_set
  | _ => rfl

end Turn

/-- What a pool that was given tasks keeps true: none is lost or doubled, the workers' counts are of the tasks that were
run, and who has left had nothing more to do. -/
structure Accounts (p : Pool) (tasks : List Task) : Prop where
  count_eq : ∀ task,
    p.finished.count task + Worker.total (Worker.holding task) p.workers + p.queue.count task = tasks.count task
  counted : ∀ panics, Worker.total (·.stats.of panics) p.workers = p.finished.countP (·.panics = panics)
  left : ∀ w ∈ p.workers, w.activity = .gone → p.queue = [] ∧ p.isOpen = false

namespace Accounts

theorem new (threads : Nat) : (ofSize threads).Accounts [] where
  count_eq task := by
    have hnone : Worker.total (Worker.holding task) (ofSize threads).workers = 0 :=
      Worker.total_eq_zero fun w hw => by rw [List.eq_of_mem_replicate hw]; rfl
    rw [hnone]
    rfl
  counted panics := Worker.total_eq_zero fun w hw => by
    rw [List.eq_of_mem_replicate hw]
    cases panics <;> rfl
  left w hw hgone := by
    rw [List.eq_of_mem_replicate hw] at hgone
    cases hgone

theorem finish (h : p.Accounts tasks) (hw : p.workers[i]? = some w) (hbusy : w.activity = .busy task) :
    Accounts { p with
      workers := p.workers.set i ⟨.idle, w.stats.count task.panics⟩
      finished := task :: p.finished } tasks where
  count_eq t := by
    -- what the worker held is now among the finished tasks
    have hset := Worker.total_set hw (Worker.holding t) ⟨.idle, w.stats.count task.panics⟩
    have hcount := h.count_eq t
    have hheld : w.holding t = if task = t then 1 else 0 := by simp [Worker.holding, hbusy]
    have hidle : Worker.holding t ⟨.idle, w.stats.count task.panics⟩ = 0 := rfl
    simp only [List.count_cons, beq_iff_eq]
    omega
  counted panics := by
    have hset := Worker.total_set hw (·.stats.of panics) ⟨.idle, w.stats.count task.panics⟩
    have hcounted := h.counted panics
    simp only [PoolStats.of_count] at hset
    simp only [List.countP_cons, decide_eq_true_eq]
    omega
  left v hv hgone := by
    rcases List.mem_or_eq_of_mem_set hv with hv | rfl
    · exact h.left v hv hgone
    · cases hgone

theorem take {rest : List Task} (h : p.Accounts tasks) (hw : p.workers[i]? = some w) (hidle : w.activity = .idle)
    (hqueue : p.queue = task :: rest) :
    Accounts { p with queue := rest, workers := p.workers.set i { w with activity := .busy task } } tasks where
  count_eq t := by
    -- the first of the queue is now held
    have hset := Worker.total_set hw (Worker.holding t) { w with activity := .busy task }
    have hcount := h.count_eq t
    have hnone : w.holding t = 0 := by simp [Worker.holding, hidle]
    have hheld : Worker.holding t { w with activity := .busy task } = if task = t then 1 else 0 := by
      simp [Worker.holding]
    simp only [hqueue, List.count_cons, beq_iff_eq] at hcount ⊢
    omega
  counted panics := (Worker.total_of_set hw _ panics).trans (h.counted panics)
  left v hv hgone := by
    rcases List.mem_or_eq_of_mem_set hv with hv | rfl
    · exact absurd (hqueue.symm.trans (h.left v hv hgone).1) (List.cons_ne_nil _ _)
    · cases hgone

theorem leave (h : p.Accounts tasks) (hw : p.workers[i]? = some w) (hidle : w.activity = .idle)
    (hqueue : p.queue = []) (hclosed : p.isOpen = false) :
    Accounts { p with workers := p.workers.set i { w with activity := .gone } } tasks where
  count_eq t := by
    have hset := Worker.total_set hw (Worker.holding t) { w with activity := .gone }
    have hcount := h.count_eq t
    have hnone : w.holding t = 0 := by simp [Worker.holding, hidle]
    have hgone : Worker.holding t { w with activity := .gone } = 0 := rfl
    dsimp only
    omega
  counted panics := (Worker.total_of_set hw _ panics).trans (h.counted panics)
  left _ _ _ := ⟨hqueue, hclosed⟩

theorem step (h : p.Accounts tasks) (i : Nat) : (p.step i).Accounts tasks := by
  have hturn := turn_step p i
  generalize p.step i = q at hturn ⊢
  cases hturn with
  | finishes hw hbusy => exact h.finish hw hbusy
  | takes hw hidle hqueue => exact h.take hw hidle hqueue
  | leaves hw hidle hqueue hclosed => exact h.leave hw hidle hqueue hclosed
  | _ => exact h

theorem run (h : p.Accounts tasks) (schedule : List Nat) : (p.run schedule).Accounts tasks := by
  induction schedule generalizing p with
  | nil => exact h
  | cons i schedule ih => exact ih (h.step i)

theorem close (h : p.Accounts tasks) : p.close.Accounts tasks where
  count_eq := h.count_eq
  counted := h.counted
  left w hw hgone := ⟨(h.left w hw hgone).1, rfl⟩

theorem submit (h : p.Accounts tasks) (hopen : p.isOpen = true) (task : Task) :
    (p.submit task).Accounts (tasks ++ [task]) := by
  rw [Pool.submit, if_pos hopen]
  refine ⟨fun t => ?_, h.counted, fun w hw hgone => ?_⟩
  · have hcount := h.count_eq t
    simp only [List.count_append]
    omega
  · have hclosed := (h.left w hw hgone).2
    rw [hopen] at hclosed
    cases hclosed

/-- What is submitted to a closed pool is dropped, and it is not among the tasks that the pool answers for. -/
theorem after_of_closed (h : p.Accounts tasks) (hclosed : p.isOpen = false) (events : List Event) :
    (p.after events).Accounts tasks := by
  induction events generalizing p with
  | nil => exact h
  | cons event rest ih =>
    cases event with
    | submit number work =>
      have hdropped : p.submit (work.task number) = p := by simp [Pool.submit, hclosed]
      have hrest := ih h hclosed
      rw [← hdropped] at hrest
      exact hrest
    | close => exact ih h.close rfl
    | worker i => exact ih (h.step i) ((turn_step p i).isOpen_eq.trans hclosed)

theorem after (h : p.Accounts tasks) (hopen : p.isOpen = true) (events : List Event) :
    (p.after events).Accounts (tasks ++ tasksOf (submissions events)) := by
  -- on the events while the pool is open; what it was given grows with them
  induction events generalizing p tasks with
  | nil =>
    rw [submissions, tasksOf, List.map_nil, List.append_nil]
    exact h
  | cons event rest ih =>
    cases event with
    | submit number work =>
      have hstill : (p.submit (work.task number)).isOpen = true := by simp [Pool.submit, hopen]
      have hrest := ih (h.submit hopen (work.task number)) hstill
      rw [List.append_assoc] at hrest
      exact hrest
    | close =>
      rw [submissions, tasksOf, List.map_nil, List.append_nil]
      exact h.close.after_of_closed rfl rest
    | worker i => exact ih (h.step i) ((turn_step p i).isOpen_eq.trans hopen)

/-- When all have left, all that was given was run. -/
theorem allDone {given : List (Nat × Work)} (h : p.Accounts (tasksOf given)) (hsize : 0 < p.size) (hjoined : p.Joined) :
    p.AllDone given := by
  have hempty : p.queue = [] := by
    obtain ⟨w, hw⟩ := List.exists_mem_of_length_pos hsize
    exact (h.left w hw (hjoined w hw)).1
  have hnone (t : Task) : Worker.total (Worker.holding t) p.workers = 0 :=
    Worker.total_eq_zero fun w hw => by simp [Worker.holding, hjoined w hw]
  have honce : p.finished.Perm (tasksOf given) := by
    refine List.perm_iff_count.mpr fun t => ?_
    have hcount := h.count_eq t
    rw [hnone, hempty] at hcount
    simpa using hcount
  have hcounted (panics : Bool) : Worker.total (·.stats.of panics) p.workers = given.countP (·.2.panics = panics) := by
    rw [h.counted, honce.countP_eq, tasksOf, List.countP_map]
    simp only [Function.comp_def, Work.panics_task]
  refine ⟨honce, ?_⟩
  rw [stats_eq, hcounted, hcounted]
  simp

end Accounts

section Leaving

def turnsLeft (p : Pool) (i : Nat) : Nat := (p.workers[i]?).elim 0 (Worker.turnsLeft p.queue.length)

theorem turnsLeft_le (p : Pool) (i : Nat) : p.turnsLeft i ≤ 2 * p.queue.length + 2 := by
  unfold turnsLeft
  cases p.workers[i]? with
  | none => exact Nat.zero_le _
  | some w => exact w.turnsLeft_le p.queue.length

theorem gone_of_turnsLeft (hw : p.workers[i]? = some w) (h : p.turnsLeft i = 0) : w.activity = .gone := by
  rw [turnsLeft, hw] at h
  exact Worker.gone_of_turnsLeft h

/-- A worker's own turn is one less to take, if it has any left. -/
theorem Turn.turnsLeft_own (h : Turn p i q) (hclosed : p.isOpen = false) : q.turnsLeft i ≤ p.turnsLeft i - 1 := by
  cases h with
  | absent hw => simp [turnsLeft, hw]
  | rests hw hgone => simp [turnsLeft, hw, Worker.turnsLeft, hgone]
  | finishes hw hbusy =>
    obtain ⟨hi, -⟩ := List.getElem?_eq_some_iff.mp hw
    simp only [turnsLeft, hw, List.getElem?_set_self hi, Option.elim_some, Worker.turnsLeft, hbusy]
    omega
  | takes hw hidle hqueue =>
    obtain ⟨hi, -⟩ := List.getElem?_eq_some_iff.mp hw
    simp only [turnsLeft, hw, List.getElem?_set_self hi, Option.elim_some, Worker.turnsLeft, hidle, hqueue,
      List.length_cons]
    omega
  | waits hw hidle hqueue hopen =>
    rw [hclosed] at hopen
    cases hopen
  | leaves hw hidle hqueue =>
    obtain ⟨hi, -⟩ := List.getElem?_eq_some_iff.mp hw
    simp only [turnsLeft, List.getElem?_set_self hi, Option.elim_some, Worker.turnsLeft]
    exact Nat.zero_le _

/-- The turns of others do not add to it. -/
theorem Turn.turnsLeft_other (h : Turn p j q) (hne : j ≠ i) : q.turnsLeft i ≤ p.turnsLeft i := by
  cases h with
  | finishes => simp only [turnsLeft, List.getElem?_set_ne hne, Nat.le_refl]
  | takes hw hidle hqueue =>
    simp only [turnsLeft, List.getElem?_set_ne hne, hqueue]
    cases p.workers[i]? with
    | none => exact Nat.le_refl 0
    | some w => exact w.turnsLeft_mono (Nat.le_succ _)
  | leaves => simp only [turnsLeft, List.getElem?_set_ne hne, Nat.le_refl]
  | _ => exact Nat.le_refl _

theorem size_run (p : Pool) (schedule : List Nat) : (p.run schedule).size = p.size := by
  induction schedule generalizing p with
  | nil => rfl
  | cons i schedule ih => exact (ih (p.step i)).trans (turn_step p i).size_eq

theorem turnsLeft_run (hclosed : p.isOpen = false) (schedule : List Nat) (i : Nat) :
    (p.run schedule).turnsLeft i ≤ p.turnsLeft i - schedule.count i := by
  induction schedule generalizing p with
  | nil => exact Nat.le_refl _
  | cons j schedule ih =>
    have hturn := turn_step p j
    have hrest := ih (hturn.isOpen_eq.trans hclosed)
    -- a turn of its own brings the worker on, and those of others only take tasks from it
    by_cases hj : j = i
    · subst hj
      have hown := hturn.turnsLeft_own hclosed
      rw [run_cons, List.count_cons_self]
      omega
    · have hother := hturn.turnsLeft_other hj
      rw [run_cons, List.count_cons_of_ne hj]
      omega

/-- All have left a closed pool after any schedule that gives each worker the turns that it needs. -/
theorem joined_run (hclosed : p.isOpen = false) (hturns : ∀ i < p.size, 2 * p.queue.length + 2 ≤ schedule.count i) :
    (p.run schedule).Joined := by
  intro w hw
  obtain ⟨i, hi⟩ := List.getElem?_of_mem hw
  obtain ⟨hsize, -⟩ := List.getElem?_eq_some_iff.mp hi
  have hleft := turnsLeft_run hclosed schedule i
  have hmost := p.turnsLeft_le i
  have hcount := hturns i (size_run p schedule ▸ hsize)
  exact gone_of_turnsLeft hi (by omega)

theorem count_rounds (h : i < p.size) : p.rounds.count i = 2 * p.queue.length + 2 := by
  have honce : (List.range p.size).count i = 1 :=
    List.count_eq_one_of_mem List.nodup_range (List.mem_range.mpr h)
  rw [rounds, List.count_flatten, List.map_replicate, honce, List.sum_replicate_nat, Nat.mul_one]

theorem joined_shutdown (p : Pool) : p.shutdown.Joined :=
  joined_run rfl fun _ hi => Nat.le_of_eq (count_rounds hi).symm

end Leaving

theorem size_meet (p : Pool) (event : Event) : (p.meet event).size = p.size := by
  cases event with
  | submit number work =>
    simp only [meet, submit]
    split <;> rfl
  | close => rfl
  | worker i => exact (turn_step p i).size_eq

theorem size_after (p : Pool) (events : List Event) : (p.after events).size = p.size := by
  induction events generalizing p with
  | nil => rfl
  | cons event rest ih => exact (ih (p.meet event)).trans (size_meet p event)

theorem size_ofSize (threads : Nat) : (ofSize threads).size = max threads 1 := List.length_replicate

/-- Whatever a pool is given before it is closed, and in whatever order its workers take their turns: nobody leaves
while a task waits, and when all have left, each task was run once and is counted as it ended. To shut the pool down
brings that about. -/
theorem tasks_run_once (threads : Nat) (events : List Event) :
    let p := (ofSize threads).after events
    p.size = max threads 1 ∧ (∀ w ∈ p.workers, w.activity = .gone → p.queue = [] ∧ p.isOpen = false) ∧
      (p.Joined → p.AllDone (submissions events)) ∧ p.shutdown.Joined ∧ p.shutdown.AllDone (submissions events) := by
  intro p
  have haccounts : p.Accounts (tasksOf (submissions events)) := (Accounts.new threads).after rfl events
  have hsize : p.size = max threads 1 := (size_after _ events).trans (size_ofSize threads)
  have hsome : 0 < p.size := by omega
  have hstill : 0 < p.shutdown.size := (size_run p.close p.close.rounds).symm ▸ hsome
  have hshutdown : p.shutdown.Accounts (tasksOf (submissions events)) := haccounts.close.run p.close.rounds
  exact ⟨hsize, haccounts.left, haccounts.allDone hsome, p.joined_shutdown, hshutdown.allDone hstill p.joined_shutdown⟩

/-- Two workers run a task that returns, one that panics and a handle's whose job panics, out of their order, while
the pool is closed and a task comes too late. -/
theorem tasks_run_once_two :
    let events : List Event :=
      [.submit 0 (.bare none), .worker 1, .submit 1 (.bare (some (.text "boom"))), .worker 0, .worker 0,
        .submit 2 (.handled (α := Unit) (.panicked .other)), .close, .submit 3 (.bare none), .worker 0, .worker 0,
        .worker 0, .worker 1, .worker 1]
    let p := (ofSize 2).after events
    p.size = 2 ∧ p.Joined ∧ p.finished = [⟨0, false⟩, ⟨2, false⟩, ⟨1, true⟩] ∧
      p.AllDone [(0, .bare none), (1, .bare (some (.text "boom"))), (2, .handled (α := Unit) (.panicked .other))] := by
  intro events p
  have hjoined : p.Joined := by decide
  exact ⟨rfl, hjoined, rfl, (tasks_run_once 2 events).2.2.1 hjoined⟩

end Pool
end DocumentRepository
