import Stackline.Machine

/-!
Runs of the machine: how the single steps and `Machine.evaluate` fit together, what one step can do
to the state, and why a property that each step keeps holds all along a run.
-/

namespace Stackline

variable {σ : Type}

namespace Machine

@[simp]
theorem afterSteps_nil (machine : Machine σ) : machine.afterSteps [] = machine := rfl

@[simp]
theorem afterSteps_cons (machine : Machine σ) (t : Transition σ) (ts : List (Transition σ)) :
    machine.afterSteps (t :: ts) = t.after.afterSteps ts := by
  cases ts with
  | nil => rfl
  | cons u us => simp [afterSteps, List.getLast?_cons]

theorem afterSteps_append (machine : Machine σ) (ts us : List (Transition σ)) :
    machine.afterSteps (ts ++ us) = (machine.afterSteps ts).afterSteps us := by
  induction ts generalizing machine with
  | nil => rfl
  | cons t ts ih => rw [List.cons_append, afterSteps_cons, afterSteps_cons, ih]

/--
The fault at which a run ended, if its last step was stopped by one.
-/
def lastFault? (ts : List (Transition σ)) : Option Fault :=
  ts.getLast?.bind Transition.fault?

theorem lastFault?_cons_of_none {t : Transition σ} (h : t.fault? = none)
    (ts : List (Transition σ)) : lastFault? (t :: ts) = lastFault? ts := by
  cases ts with
  | nil => simp [lastFault?, h]
  | cons u us => simp [lastFault?, List.getLast?_cons]

variable [Sink σ]

theorem steps_succ_of_running {machine : Machine σ} (h : machine.running) (count : Nat) :
    machine.steps (count + 1) =
      ⟨machine, machine.step.1, machine.step.2⟩ :: machine.step.1.steps count := by
  rw [steps, next_of_running h]

theorem mem_steps {machine : Machine σ} {count : Nat} {t : Transition σ}
    (h : t ∈ machine.steps count) : t.after = t.before.step.1 ∧ t.fault? = t.before.step.2 := by
  induction count generalizing machine with
  | zero => cases h
  | succ count ih =>
    cases hrun : machine.running with
    | false =>
      rw [steps_of_halted hrun] at h
      cases h
    | true =>
      rw [steps_succ_of_running hrun, List.mem_cons] at h
      rcases h with rfl | h
      · exact ⟨rfl, rfl⟩
      · exact ih h

theorem steps_add (machine : Machine σ) (count more : Nat) :
    machine.steps (count + more) =
      machine.steps count ++ (machine.afterSteps (machine.steps count)).steps more := by
  induction count generalizing machine with
  | zero =>
    rw [Nat.zero_add]
    rfl
  | succ count ih =>
    cases hrun : machine.running with
    | false =>
      rw [steps_of_halted hrun, steps_of_halted hrun, afterSteps_nil, steps_of_halted hrun]
      rfl
    | true =>
      rw [Nat.add_right_comm, steps_succ_of_running hrun, steps_succ_of_running hrun,
        afterSteps_cons, ih]
      rfl

/--
A machine that is still running has made all of its steps, and none of them was stopped by a fault.
-/
theorem succeed_of_running {machine : Machine σ} {count : Nat}
    (h : (machine.afterSteps (machine.steps count)).running) :
    (∀ t ∈ machine.steps count, t.fault? = none) ∧ (machine.steps count).length = count := by
  induction count generalizing machine with
  | zero =>
    constructor
    · intro t ht
      cases ht
    · rfl
  | succ count ih =>
    cases hrun : machine.running with
    | false =>
      rw [steps_of_halted hrun, afterSteps_nil, hrun] at h
      cases h
    | true =>
      rw [steps_succ_of_running hrun, afterSteps_cons] at h
      obtain ⟨hrest, hlength⟩ := ih h
      rw [steps_succ_of_running hrun, List.forall_mem_cons, List.length_cons, hlength]
      refine ⟨⟨?_, hrest⟩, rfl⟩
      cases hfault : machine.step.2 with
      | none => rfl
      | some fault =>
        dsimp only at h
        have hhalt := running_step_of_fault hfault
        rw [steps_of_halted hhalt, afterSteps_nil, hhalt] at h
        cases h

theorem getElem?_steps_of_running {machine : Machine σ} {count : Nat}
    (h : (machine.afterSteps (machine.steps count)).running) :
    let before := machine.afterSteps (machine.steps count)
    (machine.steps (count + 1))[count]? = some ⟨before, before.step.1, before.step.2⟩ := by
  intro before
  obtain ⟨-, hlength⟩ := succeed_of_running h
  rw [steps_add, steps_succ_of_running h, List.getElem?_append_right (Nat.le_of_eq hlength),
    hlength, Nat.sub_self]
  rfl

theorem evaluate.go_eq_steps (count : Nat) (machine : Machine σ) :
    evaluate.go count machine =
      (machine.afterSteps (machine.steps count), lastFault? (machine.steps count)) := by
  induction count generalizing machine with
  | zero => rfl
  | succ count ih =>
    cases hrun : machine.running with
    | false =>
      rw [steps_of_halted hrun]
      simp [evaluate.go, hrun, lastFault?]
    | true =>
      rw [steps_succ_of_running hrun, afterSteps_cons]
      simp only [evaluate.go, hrun, if_true]
      cases hstep : machine.step with
      | mk after fault? =>
        cases fault? with
        | none =>
          rw [lastFault?_cons_of_none rfl]
          exact ih after
        | some fault =>
          have hhalt : after.running = false := by
            have hhalt := @running_step_of_fault _ _ machine fault (by rw [hstep])
            rwa [hstep] at hhalt
          rw [steps_of_halted hhalt]
          rfl

theorem evaluate_eq_steps (machine : Machine σ) :
    machine.evaluate =
      (machine.afterSteps (machine.steps machine.bound),
        lastFault? (machine.steps machine.bound)) :=
  evaluate.go_eq_steps machine.bound machine

/--
The step `t` after `count` steps that succeed is stopped by a fault.
-/
structure StopsAfter (machine : Machine σ) (count : Nat) (t : Transition σ) (fault : Fault) :
    Prop where
  succeed : ∀ u ∈ machine.steps count, u.fault? = none
  steps_succ : machine.steps (count + 1) = machine.steps count ++ [t]
  length_steps : (machine.steps count).length = count
  fault : t.fault? = some fault

namespace StopsAfter

theorem cons {machine : Machine σ} (hrun : machine.running) (hstep : machine.step.2 = none)
    {count : Nat} {t : Transition σ} {fault : Fault} (h : machine.step.1.StopsAfter count t fault) :
    machine.StopsAfter (count + 1) t fault := by
  have hsteps := steps_succ_of_running hrun
  constructor
  · rw [hsteps, List.forall_mem_cons]
    exact ⟨hstep, h.succeed⟩
  · rw [hsteps, hsteps, h.steps_succ]
    rfl
  · rw [hsteps, List.length_cons, h.length_steps]
  · exact h.fault

theorem getElem?_steps {machine : Machine σ} {count : Nat} {t : Transition σ} {fault : Fault}
    (h : machine.StopsAfter count t fault) : (machine.steps (count + 1))[count]? = some t := by
  rw [h.steps_succ, List.getElem?_append_right (Nat.le_of_eq h.length_steps), h.length_steps,
    Nat.sub_self]
  rfl

/--
Nothing is executed behind the step that was stopped.
-/
theorem steps_of_lt {machine : Machine σ} {count : Nat} {t : Transition σ} {fault : Fault}
    (h : machine.StopsAfter count t fault) {more : Nat} (hmore : count < more) :
    machine.steps more = machine.steps (count + 1) := by
  have hhalt : (machine.afterSteps (machine.steps (count + 1))).running = false := by
    obtain ⟨hafter, hstep⟩ := mem_steps (List.mem_of_getElem? h.getElem?_steps)
    rw [h.steps_succ, afterSteps_append, afterSteps_cons, afterSteps_nil, hafter]
    apply running_step_of_fault
    rw [← hstep, h.fault]
  obtain ⟨rest, rfl⟩ := Nat.exists_eq_add_of_lt hmore
  rw [Nat.add_right_comm, steps_add, steps_of_halted hhalt, List.append_nil]

end StopsAfter

theorem stopsAfter_of_running {machine : Machine σ} {count : Nat} {fault : Fault}
    (h : (machine.afterSteps (machine.steps count)).running)
    (hfault : (machine.afterSteps (machine.steps count)).step.2 = some fault) :
    let before := machine.afterSteps (machine.steps count)
    machine.StopsAfter count ⟨before, before.step.1, before.step.2⟩ fault := by
  intro before
  obtain ⟨hsucceed, hlength⟩ := succeed_of_running h
  refine ⟨hsucceed, ?_, hlength, hfault⟩
  rw [steps_add, steps_succ_of_running h]
  rfl

theorem stopsAfter_of_lastFault? {machine : Machine σ} {count : Nat} {fault : Fault}
    (h : lastFault? (machine.steps count) = some fault) :
    ∃ index t, machine.StopsAfter index t fault := by
  induction count generalizing machine with
  | zero => cases h
  | succ count ih =>
    cases hrun : machine.running with
    | false =>
      rw [steps_of_halted hrun] at h
      cases h
    | true =>
      rw [steps_succ_of_running hrun] at h
      cases hstep : machine.step.2 with
      | none =>
        rw [lastFault?_cons_of_none hstep] at h
        obtain ⟨index, t, hstop⟩ := ih h
        exact ⟨index + 1, t, hstop.cons hrun hstep⟩
      | some fault' =>
        rw [steps_of_halted (running_step_of_fault hstep)] at h
        have hfault : machine.step.2 = some fault := h
        refine ⟨0, ⟨machine, machine.step.1, machine.step.2⟩, ?_, ?_, rfl, hfault⟩
        · intro u hu
          cases hu
        · rw [steps_succ_of_running hrun]
          rfl

theorem step_state_cases (machine : Machine σ) :
    machine.step.1.state = machine.state ∨
      ∃ (s : Statement) (first last : Position),
        machine.step.1.state = (s.exec first last machine.state).state := by
  unfold step
  split
  next => exact .inl rfl
  next first cursor _ =>
    dsimp only
    unfold execute
    split
    next => exact .inl (State.state_finish machine.state first.position)
    next m _ =>
      split
      next => exact .inl rfl
      next =>
        split
        next => exact .inl rfl
        next s cursor _ => exact .inr ⟨s, first.position, cursor.last, rfl⟩
    next => exact .inl rfl

theorem steps_invariant {P : State σ → Prop}
    (hexec : ∀ (s : Statement) (first last : Position) (state : State σ),
      P state → P (s.exec first last state).state)
    {machine : Machine σ} (h : P machine.state) (count : Nat) :
    P (machine.afterSteps (machine.steps count)).state := by
  induction count generalizing machine with
  | zero => exact h
  | succ count ih =>
    cases hrun : machine.running with
    | false =>
      rw [steps_of_halted hrun]
      exact h
    | true =>
      rw [steps_succ_of_running hrun, afterSteps_cons]
      apply ih
      -- a step executes one statement or none
      rcases machine.step_state_cases with heq | ⟨s, first, last, heq⟩
      · rw [heq]
        exact h
      · rw [heq]
        apply hexec
        exact h

end Machine
end Stackline
