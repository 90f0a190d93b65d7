import DocumentRepository.Task.Delivery
import Mathlib.Data.List.Infix

/-! # Results are delivered once

Whatever the order in which a task and the caller that has its handle take their steps, what can be seen is the start
of one of three courses. Nothing is answered before the task sends its result or is dropped. If it is dropped, the
caller is told so from then on. If it sends, the next answer is the result, and after that there is none any more:
nothing is answered until the task has left, and then that it was dropped.
-/
namespace DocumentRepository

namespace Delivery

variable {α : Type} {job : JobEnd α} {d : Delivery α} {r : Except RepositoryError α}

def unanswered (n : Nat) : List (Sign α) := List.replicate n (.answered none)

def turnedAway (n : Nat) : List (Sign α) := List.replicate n (.answered (some (.error Handle.dropped)))

inductive Course (r : Except RepositoryError α) : List (Sign α) → Prop where
  | dropped (a c : Nat) : Course r (unanswered a ++ .discarded :: turnedAway c)
  /-- The result is handed out before the task has left. -/
  | atOnce (a b c : Nat) :
    Course r (unanswered a ++ .sent :: .answered (some r) :: (unanswered b ++ .left :: turnedAway c))
  | afterwards (a c : Nat) : Course r (unanswered a ++ .sent :: .left :: .answered (some r) :: turnedAway c)

theorem unanswered_succ (n : Nat) : (unanswered (n + 1) : List (Sign α)) = unanswered n ++ [.answered none] :=
  List.replicate_succ'

theorem turnedAway_succ (n : Nat) :
    (turnedAway (n + 1) : List (Sign α)) = turnedAway n ++ [.answered (some (.error Handle.dropped))] :=
  List.replicate_succ'

inductive Trail (job : JobEnd α) : Delivery α → Prop where
  | given {signs : List (Sign α)} (a : Nat) (h : signs = unanswered a) : Trail job ⟨.given, .running, false, signs⟩
  | working {signs : List (Sign α)} (a : Nat) (h : signs = unanswered a) : Trail job ⟨.working, .running, false, signs⟩
  | sent {signs : List (Sign α)} (a : Nat) (h : signs = unanswered a ++ [.sent]) :
    Trail job ⟨.sent, .send .running job, false, signs⟩
  | taken {signs : List (Sign α)} (waited : Bool) (a b : Nat)
      (h : signs = unanswered a ++ .sent :: .answered (some job.result) :: unanswered b) :
    Trail job ⟨.sent, .running, waited, signs⟩
  | ready {signs : List (Sign α)} (a : Nat) (h : signs = unanswered a ++ [.sent, .left]) :
    Trail job ⟨.ended, .ready job.result, false, signs⟩
  | ended {signs : List (Sign α)} (waited : Bool) (h : Course job.result signs) :
    Trail job ⟨.ended, .spent, waited, signs⟩
  | discarded {signs : List (Sign α)} (waited : Bool) (h : Course job.result signs) :
    Trail job ⟨.discarded, .spent, waited, signs⟩

/-- A course goes on by turning callers away. -/
theorem Course.turnAway {signs : List (Sign α)} (h : Course r signs) :
    Course r (signs ++ [.answered (some (.error Handle.dropped))]) := by
  cases h with
  | dropped a c => simpa [turnedAway_succ] using Course.dropped (r := r) a (c + 1)
  | atOnce a b c => simpa [turnedAway_succ] using Course.atOnce (r := r) a b (c + 1)
  | afterwards a c => simpa [turnedAway_succ] using Course.afterwards (r := r) a (c + 1)

namespace Trail

theorem new (job : JobEnd α) : Trail job Delivery.new := .given 0 rfl

theorem taskStep (h : Trail job d) (step : TaskStep) : Trail job (d.taskStep job step) := by
  cases h with
  | given a h =>
    cases step with
    | start => exact .working a h
    | discard => exact .discarded false (h ▸ .dropped a 0)
    | _ => exact .given a h
  | working a h =>
    cases step with
    | finish => exact .sent a (h ▸ rfl)
    | _ => exact .working a h
  | sent a h =>
    cases step with
    | leave => exact .ready a (by simp [h])
    | _ => exact .sent a h
  | taken waited a b h =>
    cases step with
    | leave =>
      refine .ended waited ?_
      rw [h]
      simpa [turnedAway] using Course.atOnce (r := job.result) a b 0
    | _ => exact .taken waited a b h
  | ready a h => cases step <;> exact .ready a h
  | ended waited h => cases step <;> exact .ended waited h
  | discarded waited h => cases step <;> exact .discarded waited h

/-- A caller that asks is answered as the course has it, and may give the handle up if it is given something. -/
theorem ask (h : Trail job d) :
    Trail job d.ask ∧ (d.handle.poll.1.isSome → Trail job { d.ask with waited := true }) := by
  cases h with
  | given a h => exact ⟨.given (a + 1) (by rw [unanswered_succ, h]; rfl), nofun⟩
  | working a h => exact ⟨.working (a + 1) (by rw [unanswered_succ, h]; rfl), nofun⟩
  | taken waited a b h => exact ⟨.taken waited a (b + 1) (by simp [h, unanswered_succ]), nofun⟩
  | sent a h =>
    subst h
    have hsigns : unanswered a ++ [.sent] ++ [.answered (some job.result)] =
        unanswered a ++ .sent :: .answered (some job.result) :: unanswered 0 := by simp [unanswered]
    exact ⟨.taken false a 0 hsigns, fun _ => .taken true a 0 hsigns⟩
  | ready a h =>
    subst h
    have hcourse : Course job.result (unanswered a ++ [.sent, .left] ++ [.answered (some job.result)]) := by
      simpa [turnedAway] using Course.afterwards (r := job.result) a 0
    exact ⟨.ended false hcourse, fun _ => .ended true hcourse⟩
  | ended waited h => exact ⟨.ended waited h.turnAway, fun _ => .ended true h.turnAway⟩
  | discarded waited h => exact ⟨.discarded waited h.turnAway, fun _ => .discarded true h.turnAway⟩

theorem call (h : Trail job d) (c : HandleCall) : Trail job (d.call c) := by
  unfold Delivery.call
  split
  · exact h
  · cases c with
    | tryWait => exact h.ask.1
    | waitTimeout => exact h.ask.1
    | wait =>
      dsimp only
      split
      case isTrue hsome => exact h.ask.2 hsome
      case isFalse => exact h

theorem run (h : Trail job d) (events : List Event) : Trail job (d.run job events) := by
  induction events generalizing d with
  | nil => exact h
  | cons event rest ih =>
    cases event with
    | task step => exact ih (h.taskStep step)
    | call c => exact ih (h.call c)

/-- What has been seen is the start of a course. -/
theorem exists_course (h : Trail job d) : ∃ course, Course job.result course ∧ d.signs <+: course := by
  cases h with
  | given a h => exact ⟨_, .dropped a 0, [.discarded], by simp [h, turnedAway]⟩
  | working a h => exact ⟨_, .dropped a 0, [.discarded], by simp [h, turnedAway]⟩
  | sent a h => exact ⟨_, .afterwards a 0, [.left, .answered (some job.result)], by simp [h, turnedAway]⟩
  | taken waited a b h => exact ⟨_, .atOnce a b 0, [.left], by simp [h, turnedAway]⟩
  | ready a h => exact ⟨_, .afterwards a 0, [.answered (some job.result)], by simp [h, turnedAway]⟩
  | ended waited h => exact ⟨_, h, List.prefix_rfl⟩
  | discarded waited h => exact ⟨_, h, List.prefix_rfl⟩

/-- A wait that finds the task gone is answered. -/
theorem isSome_poll (h : Trail job d) (hgone : d.stage = .ended ∨ d.stage = .discarded) : d.handle.poll.1.isSome := by
  cases h with
  | ready => rfl
  | ended => rfl
  | discarded => rfl
  | _ => rcases hgone with hgone | hgone <;> cases hgone

end Trail

theorem run_append (job : JobEnd α) (d : Delivery α) (before after : List Event) :
    d.run job (before ++ after) = (d.run job before).run job after := List.foldl_append

/-- One event is seen as one sign, if at all. -/
theorem signs_step (job : JobEnd α) (d : Delivery α) (event : Event) :
    (d.step job event).signs = d.signs ∨ ∃ sign, (d.step job event).signs = d.signs ++ [sign] := by
  cases event with
  | task step =>
    simp only [Delivery.step, taskStep]
    split
    case h_1 => exact Or.inl rfl
    case h_5 => exact Or.inl rfl
    all_goals exact Or.inr ⟨_, rfl⟩
  | call c =>
    simp only [Delivery.step, call]
    split
    · exact Or.inl rfl
    · cases c with
      | tryWait => exact Or.inr ⟨_, rfl⟩
      | waitTimeout => exact Or.inr ⟨_, rfl⟩
      | wait =>
        dsimp only
        split
        · exact Or.inr ⟨_, rfl⟩
        · exact Or.inl rfl

/-- Whatever has been seen first was all that had been seen at some time. -/
theorem exists_run_of_prefix {events : List Event} {signs : List (Sign α)} (h : signs <+: (new.run job events).signs) :
    ∃ before, (new.run job before).signs = signs := by
  induction events using List.reverseRecOn with
  | nil => exact ⟨[], (List.prefix_nil.mp h).symm⟩
  | append_singleton before event ih =>
    rw [run_append] at h
    rcases signs_step job (new.run job before) event with hsame | ⟨sign, hone⟩
    · exact ih (hsame ▸ h)
    · rcases List.prefix_concat_iff.mp (hone ▸ h : signs <+: (new.run job before).signs ++ [sign]) with hall | hbefore
      · exact ⟨before ++ [event], by rw [run_append, hall]; exact hone⟩
      · exact ih hbefore

def asks (n : Nat) : List Event := List.replicate n (.call .tryWait)

theorem run_asks {stage : TaskStage} {handle : Handle α} {answer : Option (Except RepositoryError α)}
    (hpoll : handle.poll = (answer, handle)) (signs : List (Sign α)) (n : Nat) :
    (⟨stage, handle, false, signs⟩ : Delivery α).run job (asks n) =
      ⟨stage, handle, false, signs ++ List.replicate n (.answered answer)⟩ := by
  induction n generalizing signs with
  | zero => simp [asks, run]
  | succ n ih =>
    have hstep : (⟨stage, handle, false, signs⟩ : Delivery α).step job (.call .tryWait) =
        ⟨stage, handle, false, signs ++ [.answered answer]⟩ := by simp [step, call, ask, hpoll]
    calc (⟨stage, handle, false, signs⟩ : Delivery α).run job (asks (n + 1))
      _ = ((⟨stage, handle, false, signs⟩ : Delivery α).step job (.call .tryWait)).run job (asks n) := rfl
      _ = ⟨stage, handle, false, signs ++ [.answered answer] ++ List.replicate n (.answered answer)⟩ := by rw [hstep, ih]
      _ = ⟨stage, handle, false, signs ++ List.replicate (n + 1) (.answered answer)⟩ := by
        rw [List.append_assoc]; rfl

/-- Every course is taken by some run. -/
theorem exists_run_of_course {signs : List (Sign α)} (h : Course job.result signs) :
    ∃ events, (new.run job events).signs = signs := by
  have hfirst (a : Nat) : new.run job (asks a) = ⟨.given, .running, false, unanswered a⟩ := run_asks rfl [] a
  cases h with
  | dropped a c =>
    have hdropped (rest : List Event) : (⟨.given, .running, false, unanswered a⟩ : Delivery α).run job
        (.task .discard :: rest) =
          (⟨.discarded, .spent, false, unanswered a ++ [.discarded]⟩ : Delivery α).run job rest := rfl
    refine ⟨asks a ++ .task .discard :: asks c, ?_⟩
    rw [run_append, hfirst, hdropped, run_asks Handle.poll_spent]
    simp [turnedAway]
  | atOnce a b c =>
    have hsent (rest : List Event) : (⟨.given, .running, false, unanswered a⟩ : Delivery α).run job
        (.task .start :: .task .finish :: .call .tryWait :: rest) =
          (⟨.sent, .running, false, unanswered a ++ [.sent] ++ [.answered (some job.result)]⟩ : Delivery α).run job rest := rfl
    refine ⟨asks a ++ .task .start :: .task .finish :: .call .tryWait :: (asks b ++ .task .leave :: asks c), ?_⟩
    have hleft (signs : List (Sign α)) (rest : List Event) : (⟨.sent, .running, false, signs⟩ : Delivery α).run job
        (.task .leave :: rest) = (⟨.ended, .spent, false, signs ++ [.left]⟩ : Delivery α).run job rest := rfl
    rw [run_append, hfirst, hsent, run_append, run_asks Handle.poll_running, hleft, run_asks Handle.poll_spent]
    simp [unanswered, turnedAway]
  | afterwards a c =>
    have hended (rest : List Event) : (⟨.given, .running, false, unanswered a⟩ : Delivery α).run job
        (.task .start :: .task .finish :: .task .leave :: .call .tryWait :: rest) =
          (⟨.ended, .spent, false, unanswered a ++ [.sent] ++ [.left] ++ [.answered (some job.result)]⟩ : Delivery α).run job
            rest := rfl
    refine ⟨asks a ++ .task .start :: .task .finish :: .task .leave :: .call .tryWait :: asks c, ?_⟩
    rw [run_append, hfirst, hended, run_asks Handle.poll_spent]
    simp [turnedAway]

/-- What is seen of a delivery, in whichever order the task and the caller take their steps, is the start of a course
that delivers the result of the job, and every such start is seen in some order. Every call is answered at once but a
wait, and a wait when the task is gone. The result is what the job returned, or its panic as an error, and the
executors are those that run the task to its end or drop it. -/
theorem results_delivered_once (job : JobEnd α) :
    (∀ signs, (∃ events, (new.run job events).signs = signs) ↔ ∃ course, Course job.result course ∧ signs <+: course) ∧
    (∀ events, (new.run job events).waited = false →
      (∀ c, c ≠ .wait →
        ∃ answer, ((new.run job events).call c).signs = (new.run job events).signs ++ [.answered answer]) ∧
      ((new.run job events).stage = .ended ∨ (new.run job events).stage = .discarded →
        ∃ r, ((new.run job events).call .wait).signs = (new.run job events).signs ++ [.answered (some r)])) ∧
    (job.result = match job with
      | .returned r => r
      | .panicked (.text message) => .error (.async message)
      | .panicked .other => .error (.async "task panicked")) ∧
    ∀ e : Executor, e.finish job = (new.run job (e.taskSteps.map .task)).handle := by
  refine ⟨fun signs => ⟨?_, ?_⟩, fun events hkept => ⟨?_, ?_⟩, ?_, ?_⟩
  · rintro ⟨events, rfl⟩
    exact ((Trail.new job).run events).exists_course
  · rintro ⟨course, hcourse, hstart⟩
    obtain ⟨events, rfl⟩ := exists_run_of_course hcourse
    exact exists_run_of_prefix hstart
  · intro c hc
    cases c with
    | wait => exact absurd rfl hc
    | _ => exact ⟨_, by rw [call, hkept]; rfl⟩
  · intro hgone
    have hsome := ((Trail.new job).run events).isSome_poll hgone
    obtain ⟨r, hr⟩ := Option.isSome_iff_exists.mp hsome
    exact ⟨r, by simp [call, hkept, hr, ask]⟩
  · rcases job with r | (message | _) <;> rfl
  · intro e
    cases e <;> rfl

def panicSeen : List Event :=
  [.call .tryWait, .task .start, .call .waitTimeout, .task .finish, .call .tryWait, .call .waitTimeout, .task .leave]

/-- The panic is handed out once, and one who waits after that is told that the task was dropped. -/
theorem results_delivered_once_panic :
    let d : Delivery Nat := new.run (.panicked (.text "lost")) panicSeen
    d.signs = [.answered none, .answered none, .sent, .answered (some (.error (.async "lost"))), .answered none, .left] ∧
      (∃ course, Course (.error (.async "lost")) course ∧ d.signs <+: course) ∧
      d.waited = false ∧ d.stage = .ended ∧
      ∃ r, (d.call .wait).signs = d.signs ++ [.answered (some r)] := by
  obtain ⟨hcourses, hcalls, -⟩ := results_delivered_once (α := Nat) (.panicked (.text "lost"))
  exact ⟨rfl, (hcourses _).mp ⟨panicSeen, rfl⟩, rfl, rfl, (hcalls panicSeen rfl).2 (Or.inl rfl)⟩

end Delivery

end DocumentRepository
