import Stackline.Proofs.Machine.Transition

/-!
Calls of `Machine.next` for any list of tokens: how many of them make a step, and how they fit
together with `Machine.evaluate`. Main statements: `exists_endsAfter`, which bounds the steps by the
tokens, and `evaluate_afterCalls`, by which an evaluation goes on where the calls stopped.
-/

namespace Stackline

variable {σ : Type} [Sink σ]

namespace Machine

/--
The machine behind a call of `next`, which leaves a halted machine as it is.
-/
def called (machine : Machine σ) : Machine σ :=
  match machine.next with
  | none => machine
  | some t => t.after

/--
The machine behind a number of calls of `next`.
-/
def afterCalls : (calls : Nat) → Machine σ → Machine σ
  | 0, machine => machine
  | calls + 1, machine => afterCalls calls machine.called

/--
The answer to one of the calls of `next`, the first of which has the index zero.
-/
def answer (machine : Machine σ) (index : Nat) : Option (Transition σ) :=
  (machine.afterCalls index).next

/--
None of the steps of the first calls was stopped by a fault.
-/
def Succeeds (machine : Machine σ) (calls : Nat) : Prop :=
  ∀ index < calls, ∀ t, machine.answer index = some t → t.fault? = none

/--
The first `count` calls are answered by a step, and no call behind them is or changes the machine.
Only the last step can be stopped by a fault. An evaluation makes these steps and reports that fault.
-/
structure EndsAfter (machine : Machine σ) (count : Nat) : Prop where
  isSome_answer : ∀ index, (machine.answer index).isSome ↔ index < count
  afterCalls_eq : ∀ index, count ≤ index → machine.afterCalls index = machine.afterCalls count
  last_of_fault : ∀ index t, machine.answer index = some t → t.fault? ≠ none → index + 1 = count
  evaluate_eq : machine.evaluate.1 = machine.afterCalls count
  evaluate_fault : ∀ fault, machine.evaluate.2 = some fault ↔
    ∃ index t, machine.answer index = some t ∧ t.fault? = some fault

/--
A running machine has come to the token that closes a program, with the tokens `rest` behind it.
-/
structure AtEnd (machine : Machine σ) (first : Token) (rest : List Token) : Prop where
  running : machine.running
  tokens : machine.cursor.tokens = first :: rest
  kind : first.kind = .eof

section Calls

variable {machine : Machine σ}

theorem called_of_halted (h : machine.running = false) : machine.called = machine := by
  rw [called, next_eq_none_iff.2 h]

theorem called_of_running (h : machine.running) : machine.called = machine.step.1 := by
  rw [called, next_of_running h]

theorem afterCalls_succ (machine : Machine σ) (calls : Nat) :
    machine.afterCalls (calls + 1) = (machine.afterCalls calls).called := by
  induction calls generalizing machine with
  | zero => rfl
  | succ calls ih => exact ih machine.called

theorem afterCalls_of_halted (h : machine.running = false) (calls : Nat) :
    machine.afterCalls calls = machine := by
  induction calls with
  | zero => rfl
  | succ calls ih => rw [afterCalls_succ, ih, called_of_halted h]

theorem afterCalls_add (machine : Machine σ) (calls more : Nat) :
    machine.afterCalls (calls + more) = (machine.afterCalls calls).afterCalls more := by
  induction calls generalizing machine with
  | zero =>
    rw [Nat.zero_add]
    rfl
  | succ calls ih =>
    rw [Nat.add_right_comm]
    exact ih machine.called

theorem afterCalls_of_lt {calls later : Nat} (h : (machine.afterCalls (calls + 1)).running = false)
    (hlater : calls < later) : machine.afterCalls later = machine.afterCalls (calls + 1) := by
  obtain ⟨more, rfl⟩ := Nat.exists_eq_add_of_le hlater
  rw [afterCalls_add, afterCalls_of_halted h]

theorem answer_zero_of_running (h : machine.running) :
    machine.answer 0 = some ⟨machine, machine.step.1, machine.step.2⟩ :=
  next_of_running h

theorem answer_succ_of_running (h : machine.running) (index : Nat) :
    machine.answer (index + 1) = machine.step.1.answer index := by
  rw [answer, afterCalls, called_of_running h]
  rfl

end Calls

section Evaluate

variable {machine : Machine σ}

theorem evaluate.go_of_halted (h : machine.running = false) (count : Nat) :
    evaluate.go count machine = (machine, none) := by
  cases count with
  | zero => rfl
  | succ count => simp [evaluate.go, h]

theorem evaluate.go_of_fault {fault : Fault} (h : machine.running)
    (hfault : machine.step.2 = some fault) (count : Nat) :
    evaluate.go (count + 1) machine = (machine.step.1, some fault) := by
  simp only [evaluate.go, h, if_true]
  generalize machine.step = result at hfault
  obtain ⟨after, fault?⟩ := result
  cases hfault
  rfl

theorem evaluate.go_of_success (h : machine.running) (hsuccess : machine.step.2 = none)
    (count : Nat) : evaluate.go (count + 1) machine = evaluate.go count machine.step.1 := by
  simp only [evaluate.go, h, if_true]
  generalize machine.step = result at hsuccess
  obtain ⟨after, fault?⟩ := result
  cases hsuccess
  rfl

/--
A count beyond the number of tokens does not show in an evaluation.
-/
theorem evaluate.go_congr {count more : Nat} (hcount : machine.cursor.tokens.length < count)
    (hmore : machine.cursor.tokens.length < more) :
    evaluate.go count machine = evaluate.go more machine := by
  induction count generalizing more machine with
  | zero => cases hcount
  | succ count ih =>
    cases more with
    | zero => cases hmore
    | succ more =>
      cases hrun : machine.running with
      | false => rw [go_of_halted hrun, go_of_halted hrun]
      | true =>
        cases hstep : machine.step.2 with
        | some fault => rw [go_of_fault hrun hstep, go_of_fault hrun hstep]
        | none =>
          rw [go_of_success hrun hstep, go_of_success hrun hstep]
          cases hafter : machine.step.1.running with
          | false => rw [go_of_halted hafter, go_of_halted hafter]
          | true =>
            have hlength := length_tokens_step hafter
            apply ih <;> omega

theorem evaluate_of_fault {fault : Fault} (h : machine.running)
    (hfault : machine.step.2 = some fault) : machine.evaluate = (machine.step.1, some fault) :=
  evaluate.go_of_fault h hfault _

theorem evaluate_of_success (h : machine.running) (hsuccess : machine.step.2 = none) :
    machine.evaluate = machine.step.1.evaluate := by
  rw [evaluate, bound, evaluate.go_of_success h hsuccess]
  cases hafter : machine.step.1.running with
  | false => rw [evaluate.go_of_halted hafter, evaluate_of_halted hafter]
  | true =>
    have hlength := length_tokens_step hafter
    exact evaluate.go_congr hlength (Nat.lt_succ_self _)

/--
An evaluation goes on where a call of `next` stopped.
-/
theorem evaluate_called (h : ∀ t, machine.next = some t → t.fault? = none) :
    machine.called.evaluate = machine.evaluate := by
  cases hrun : machine.running with
  | false => rw [called_of_halted hrun]
  | true =>
    rw [called_of_running hrun, evaluate_of_success hrun]
    exact h _ (next_of_running hrun)

theorem evaluate_afterCalls {calls : Nat} (h : machine.Succeeds calls) :
    (machine.afterCalls calls).evaluate = machine.evaluate := by
  induction calls with
  | zero => rfl
  | succ calls ih =>
    rw [afterCalls_succ, evaluate_called (h calls (Nat.lt_succ_self calls))]
    apply ih
    intro index hindex
    exact h index (Nat.lt_succ_of_lt hindex)

theorem running_called_of_fault {t : Transition σ} (h : machine.next = some t)
    (hfault : t.fault? ≠ none) : machine.called.running = false := by
  cases hrun : machine.running with
  | false => rw [called_of_halted hrun, hrun]
  | true =>
    rw [next_of_running hrun] at h
    cases h
    obtain ⟨fault, hfault⟩ := Option.ne_none_iff_exists'.1 hfault
    rw [called_of_running hrun]
    exact running_step_of_fault hfault

theorem running_afterCalls_of_not_succeeds {calls : Nat} (h : ¬ machine.Succeeds calls) :
    (machine.afterCalls calls).running = false := by
  simp only [Succeeds, Classical.not_forall] at h
  obtain ⟨index, hindex, t, hanswer, hfault⟩ := h
  have hhalt : (machine.afterCalls (index + 1)).running = false := by
    rw [afterCalls_succ]
    exact running_called_of_fault hanswer hfault
  rw [afterCalls_of_lt hhalt hindex, hhalt]

end Evaluate

section Ends

variable {machine : Machine σ}

theorem endsAfter_zero (h : machine.running = false) : machine.EndsAfter 0 := by
  have hanswer (index : Nat) : machine.answer index = none := by
    rw [answer, afterCalls_of_halted h, next_eq_none_iff.2 h]
  constructor
  · intro index
    simp [hanswer]
  · intro index _
    rw [afterCalls_of_halted h, afterCalls_of_halted h]
  · intro index t ht
    rw [hanswer] at ht
    cases ht
  · rw [evaluate_of_halted h]
    rfl
  · intro fault
    simp [evaluate_of_halted h, hanswer]

theorem EndsAfter.eq_zero_of_halted {count : Nat} (hends : machine.EndsAfter count)
    (h : machine.running = false) : count = 0 := by
  have hanswer : machine.answer 0 = none := next_eq_none_iff.2 h
  have hcount := hends.isSome_answer 0
  rw [hanswer] at hcount
  simpa using hcount

theorem exists_fault_iff (h : machine.running) {fault : Fault} :
    (∃ index t, machine.answer index = some t ∧ t.fault? = some fault) ↔
      machine.step.2 = some fault ∨
        ∃ index t, machine.step.1.answer index = some t ∧ t.fault? = some fault := by
  constructor
  · rintro ⟨index, t, hanswer, hfault⟩
    cases index with
    | zero =>
      rw [answer_zero_of_running h] at hanswer
      cases hanswer
      exact .inl hfault
    | succ index =>
      rw [answer_succ_of_running h] at hanswer
      exact .inr ⟨index, t, hanswer, hfault⟩
  · rintro (hfault | ⟨index, t, hanswer, hfault⟩)
    · exact ⟨0, _, answer_zero_of_running h, hfault⟩
    · exact ⟨index + 1, t, by rw [answer_succ_of_running h, hanswer], hfault⟩

theorem EndsAfter.cons (h : machine.running) {count : Nat}
    (hends : machine.step.1.EndsAfter count) : machine.EndsAfter (count + 1) := by
  have hafter (calls : Nat) : machine.afterCalls (calls + 1) = machine.step.1.afterCalls calls := by
    rw [afterCalls, called_of_running h]
  constructor
  · intro index
    cases index with
    | zero => simp [answer_zero_of_running h]
    | succ index =>
      rw [answer_succ_of_running h, hends.isSome_answer, Nat.succ_lt_succ_iff]
  · intro index hindex
    cases index with
    | zero => cases hindex
    | succ index =>
      rw [hafter, hafter]
      exact hends.afterCalls_eq index (Nat.le_of_succ_le_succ hindex)
  · intro index t ht hfault
    cases index with
    | zero =>
      rw [hends.eq_zero_of_halted]
      rw [← called_of_running h]
      exact running_called_of_fault ht hfault
    | succ index =>
      rw [answer_succ_of_running h] at ht
      rw [hends.last_of_fault index t ht hfault]
  · rw [hafter, ← hends.evaluate_eq]
    cases hstep : machine.step.2 with
    | none => rw [evaluate_of_success h hstep]
    | some fault =>
      rw [evaluate_of_fault h hstep, evaluate_of_halted (running_step_of_fault hstep)]
  · intro fault
    rw [exists_fault_iff h, ← hends.evaluate_fault]
    cases hstep : machine.step.2 with
    | none => simp [evaluate_of_success h hstep]
    | some fault' =>
      simp [evaluate_of_fault h hstep, evaluate_of_halted (running_step_of_fault hstep)]

/--
Induction along the steps of a machine, which end as each of them takes a token or halts it.
-/
theorem run_induction {P : Machine σ → Prop}
    (halted : ∀ machine, machine.running = false → P machine)
    (step : ∀ machine, machine.running → P machine.step.1 → P machine) (machine : Machine σ) :
    P machine := by
  generalize hlength : machine.cursor.tokens.length = length
  induction length using Nat.strongRecOn generalizing machine with
  | ind length ih =>
    cases hrun : machine.running with
    | false => exact halted machine hrun
    | true =>
      apply step machine hrun
      cases hafter : machine.step.1.running with
      | false => exact halted _ hafter
      | true => exact ih _ (hlength ▸ length_tokens_step hafter) _ rfl

theorem exists_endsAfter (machine : Machine σ) : ∃ count ≤ machine.bound, machine.EndsAfter count := by
  induction machine using run_induction with
  | halted machine h => exact ⟨0, Nat.zero_le _, endsAfter_zero h⟩
  | step machine h ih =>
    obtain ⟨count, hcount, hends⟩ := ih
    refine ⟨count + 1, ?_, hends.cons h⟩
    cases hafter : machine.step.1.running with
    | false =>
      rw [hends.eq_zero_of_halted hafter]
      exact Nat.succ_le_succ (Nat.zero_le _)
    | true =>
      have hlength := length_tokens_step hafter
      unfold bound at hcount ⊢
      omega

end Ends

section End

variable {machine : Machine σ}

theorem AtEnd.called_eq {first : Token} {rest : List Token} (h : machine.AtEnd first rest) :
    machine.called = ⟨⟨first.position, rest⟩, machine.state, false⟩ := by
  rw [called_of_running h.running, step_of_eof h.tokens h.kind]

theorem AtEnd.afterCalls_eq {calls later : Nat} {first : Token} {rest : List Token}
    (h : (machine.afterCalls calls).AtEnd first rest) (hlater : calls < later) :
    machine.afterCalls later =
      ⟨⟨first.position, rest⟩, (machine.afterCalls calls).state, false⟩ := by
  have hcalled := h.called_eq
  rw [← afterCalls_succ] at hcalled
  rw [afterCalls_of_lt (by rw [hcalled]) hlater, hcalled]

/--
The machine has come to the end of its program, and nothing is left over.
-/
def Completes (machine : Machine σ) : Prop :=
  (∃ first rest, machine.AtEnd first rest) ∧ machine.state.stack = [] ∧ machine.state.scope = []

theorem fault?_step_of_completes (h : machine.Completes) :
    machine.step.2 = none ∧ machine.step.1.running = false := by
  obtain ⟨⟨first, rest, hend⟩, hempty⟩ := h
  rw [step_of_eof hend.tokens hend.kind]
  exact ⟨State.fault?_finish_eq_none_iff.2 hempty, rfl⟩

/--
A step that halts the machine without a fault was the last of a program that left nothing over.
-/
theorem completes_of_step (h : machine.running) (hsuccess : machine.step.2 = none)
    (hhalt : machine.step.1.running = false) : machine.Completes := by
  have hstep := machine.step_spec
  generalize machine.step.1 = after, machine.step.2 = fault? at hstep hsuccess hhalt
  cases hstep with
  | exhausted => cases hsuccess
  | finish htokens hkind =>
    exact ⟨⟨_, _, h, htokens, hkind⟩, State.fault?_finish_eq_none_iff.1 hsuccess⟩
  | refuse => cases hsuccess
  | exec =>
    rw [hsuccess] at hhalt
    cases hhalt

theorem not_completes_of_halted (h : machine.running = false) (calls : Nat) :
    ¬ (machine.afterCalls calls).Completes := by
  rintro ⟨⟨first, rest, hend⟩, -⟩
  have hrun := hend.running
  rw [afterCalls_of_halted h, h] at hrun
  cases hrun

theorem exists_completes_iff (h : machine.running) :
    (∃ calls, (machine.afterCalls calls).Completes) ↔
      machine.Completes ∨ ∃ calls, (machine.step.1.afterCalls calls).Completes := by
  rw [← called_of_running h]
  constructor
  · rintro ⟨calls, hcompletes⟩
    cases calls with
    | zero => exact .inl hcompletes
    | succ calls => exact .inr ⟨calls, hcompletes⟩
  · rintro (hcompletes | ⟨calls, hcompletes⟩)
    · exact ⟨0, hcompletes⟩
    · exact ⟨calls + 1, hcompletes⟩

theorem fault?_evaluate_eq_none_iff (h : machine.running) :
    machine.evaluate.2 = none ↔ ∃ calls, (machine.afterCalls calls).Completes := by
  induction machine using run_induction with
  | halted machine hhalt =>
    rw [h] at hhalt
    cases hhalt
  | step machine _ ih =>
    rw [exists_completes_iff h]
    cases hstep : machine.step.2 with
    | some fault =>
      rw [evaluate_of_fault h hstep]
      simp only [reduceCtorEq, false_iff]
      rintro (hcompletes | ⟨calls, hcompletes⟩)
      · rw [(fault?_step_of_completes hcompletes).1] at hstep
        cases hstep
      · exact not_completes_of_halted (running_step_of_fault hstep) calls hcompletes
    | none =>
      rw [evaluate_of_success h hstep]
      cases hafter : machine.step.1.running with
      | false =>
        rw [evaluate_of_halted hafter]
        simp only [true_iff]
        exact .inl (completes_of_step h hstep hafter)
      | true =>
        rw [ih hafter, or_iff_right]
        intro hcompletes
        rw [(fault?_step_of_completes hcompletes).2] at hafter
        cases hafter

theorem tokens_afterCalls_suffix (machine : Machine σ) (calls : Nat) :
    (machine.afterCalls calls).cursor.tokens <:+ machine.cursor.tokens := by
  induction calls with
  | zero => exact List.suffix_refl _
  | succ calls ih =>
    rw [afterCalls_succ]
    cases hrun : (machine.afterCalls calls).running with
    | false =>
      rw [called_of_halted hrun]
      exact ih
    | true =>
      rw [called_of_running hrun]
      exact (tokens_step_suffix _).trans ih

end End

end Machine

/--
Whatever tokens a machine is given, it makes at most one step more than there are tokens, and only
the last of its steps can be stopped by a fault. An evaluation goes on where the calls of `next`
stopped, and does nothing behind a fault. It ends without one exactly if a step begins at a token
that closes the program while nothing is left over, and no token behind that one is taken.
-/
theorem calls_and_evaluation_agree (tokens : List Token) (sink : σ) :
    let machine := Machine.start tokens sink
    (∃ count ≤ tokens.length + 1, machine.EndsAfter count) ∧
      (∀ calls, machine.Succeeds calls →
        (machine.afterCalls calls).evaluate = machine.evaluate) ∧
      (∀ calls, ¬ machine.Succeeds calls →
        (machine.afterCalls calls).evaluate = (machine.afterCalls calls, none)) ∧
      (machine.evaluate.2 = none ↔ ∃ calls, (machine.afterCalls calls).Completes) ∧
      ((∀ token ∈ tokens, token.kind ≠ .eof) → machine.evaluate.2 ≠ none) ∧
      ∀ calls first rest, (machine.afterCalls calls).AtEnd first rest → ∀ later, calls < later →
        machine.afterCalls later =
          ⟨⟨first.position, rest⟩, (machine.afterCalls calls).state, false⟩ := by
  intro machine
  have hnone : machine.evaluate.2 = none ↔ ∃ calls, (machine.afterCalls calls).Completes :=
    Machine.fault?_evaluate_eq_none_iff rfl
  refine ⟨machine.exists_endsAfter, ?_, ?_, hnone, ?_, ?_⟩
  · intro calls hsucceeds
    exact Machine.evaluate_afterCalls hsucceeds
  · intro calls hfails
    exact Machine.evaluate_of_halted (Machine.running_afterCalls_of_not_succeeds hfails)
  · intro hkinds hfault
    obtain ⟨calls, ⟨first, rest, hend⟩, -⟩ := hnone.1 hfault
    -- the token at which the step begins stands in the list
    have hmem : first ∈ (machine.afterCalls calls).cursor.tokens := by
      rw [hend.tokens]
      exact List.mem_cons_self
    exact hkinds first ((machine.tokens_afterCalls_suffix calls).mem hmem) hend.kind
  · intro calls first rest hend later hlater
    exact hend.afterCalls_eq hlater

theorem calls_and_evaluation_agree_resumed :
    let position : Position := ⟨1, ⟨0, 10⟩⟩
    let stray : Token := ⟨.ident, position, none⟩
    let tokens := (Statement.push (.literal .int ['5'])).tokens position ++
      Statement.print.tokens position ++ [⟨.eof, position, none⟩, stray]
    let machine := Machine.start tokens (Store.empty none)
    (machine.afterCalls 1).evaluate = machine.evaluate ∧ machine.evaluate.2 = none ∧
      (machine.afterCalls 4).cursor.tokens = [stray] := by
  intro position stray tokens machine
  obtain ⟨-, hresumed, -, hnone, -, hend⟩ := calls_and_evaluation_agree tokens (Store.empty none)
  have hsucceeds : machine.Succeeds 1 := by
    intro index hindex t ht
    obtain rfl : index = 0 := by omega
    cases ht
    rfl
  have hatEnd : (machine.afterCalls 2).AtEnd ⟨.eof, position, none⟩ [stray] := ⟨rfl, rfl, rfl⟩
  refine ⟨hresumed 1 hsucceeds, ?_, ?_⟩
  · exact hnone.2 ⟨2, ⟨_, _, hatEnd⟩, rfl, rfl⟩
  · rw [hend 2 _ _ hatEnd 4 (by decide)]

end Stackline
