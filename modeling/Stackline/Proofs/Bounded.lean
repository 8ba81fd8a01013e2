import Stackline.Proofs.Source.Lex
import Stackline.Proofs.Statement.Print

/-!
Programs that write to a bounded store. Up to the write that does not fit, such a program does what
it does with an unlimited store; this write leaves what fits and stops the program. So a bounded
store holds the beginning of the output.
-/

namespace Stackline

/--
The store of a certain size that was given the same bytes.
-/
def Store.clip (limit : Nat) (store : Store) : Store :=
  ⟨(store.written.toList.take limit).toArray, some limit⟩

def State.clip (limit : Nat) (state : State Store) : State Store :=
  state.withSink (state.sink.clip limit)

/--
An outcome whose last write goes beyond the limit is a refused write.
-/
def Outcome.clip (limit : Nat) (outcome : Outcome Store) : Outcome Store :=
  ⟨outcome.state.clip limit,
    if outcome.state.sink.written.size ≤ limit then outcome.fault? else some .output⟩

def Machine.clip (limit : Nat) (machine : Machine Store) : Machine Store :=
  { machine with state := machine.state.clip limit }

def Transition.clip (limit : Nat) (t : Transition Store) : Transition Store :=
  ⟨t.before.clip limit, t.after.clip limit, t.fault?⟩

/--
An unlimited store that holds no more than a limit.
-/
structure Store.Within (limit : Nat) (store : Store) : Prop where
  unlimited : store.limit? = none
  size_le : store.written.size ≤ limit

variable {limit : Nat}

namespace Store

theorem take_of_within {store : Store} (h : store.Within limit) :
    store.written.toList.take limit = store.written.toList := by
  apply List.take_of_length_le
  rw [Array.length_toList]
  exact h.size_le

theorem write_clip {store : Store} (h : store.Within limit) (bytes : List UInt8) :
    Sink.write (store.clip limit) bytes =
      ((Sink.write store bytes).1.clip limit,
        decide ((Sink.write store bytes).1.written.size ≤ limit)) := by
  have hsize := h.size_le
  have htake : (store.written.toList ++ bytes).take limit =
      store.written.toList ++ bytes.take (limit - store.written.size) := by
    rw [List.take_append, take_of_within h, Array.length_toList]
  have hroom : (store.clip limit).room bytes.length =
      min bytes.length (limit - store.written.size) := by
    simp only [room, clip, take_of_within h, List.size_toArray, Array.length_toList]
  have hwritten : (store.written ++ bytes : Array UInt8).size =
      store.written.size + bytes.length := by
    rw [← Array.length_toList, Array.toList_appendList, List.length_append, Array.length_toList]
  rw [write_of_unlimited h.unlimited]
  simp only [Sink.write, write, hroom]
  simp only [clip, take_of_within h]
  congr 1
  · rw [Store.mk.injEq, ← Array.toList_inj]
    simp [htake, Nat.min_comm bytes.length]
  · rw [decide_eq_decide]
    omega

end Store

theorem State.print_clip {state : State Store} (h : state.sink.Within limit) (value : Value) :
    (state.clip limit).print value = (state.print value).clip limit := by
  have hwrite := Store.write_clip h (Text.utf8 (value.display ++ ['\n']))
  have hfree := Store.write_of_unlimited h.unlimited (Text.utf8 (value.display ++ ['\n']))
  simp only [print, clip, withSink, Outcome.clip, hwrite, hfree]
  split <;> simp_all

namespace Statement

theorem exec_clip {state : State Store} (h : state.sink.Within limit) (s : Statement)
    (first last : Position) :
    s.exec first last (state.clip limit) = (s.exec first last state).clip limit := by
  cases hprinted : s.printed? state with
  | none =>
    have hsink := sink_exec_of_printed?_eq_none hprinted first last
    unfold State.clip
    rw [exec_withSink hprinted, Outcome.clip, State.clip, hsink, if_pos h.size_le]
    rfl
  | some value =>
    have hclip : s.printed? (state.clip limit) = some value := by
      unfold State.clip
      rw [printed?_withSink, hprinted]
    have htaken : s.taken (state.clip limit) = (s.taken state).clip limit := by
      unfold State.clip
      rw [taken_withSink, sink_taken]
    rw [exec_of_printed? hclip, exec_of_printed? hprinted, htaken]
    apply State.print_clip
    rw [sink_taken]
    exact h

end Statement

theorem State.done_clip {state : State Store} (h : state.sink.Within limit) :
    (state.clip limit).done = state.done.clip limit := by
  unfold done Outcome.clip
  rw [if_pos h.size_le]

theorem State.fail_clip {state : State Store} (h : state.sink.Within limit) (position : Position)
    (cause : Cause) :
    (state.clip limit).fail position cause = (state.fail position cause).clip limit := by
  unfold fail Outcome.clip
  rw [if_pos h.size_le]

theorem State.finish_clip {state : State Store} (h : state.sink.Within limit)
    (position : Position) :
    (state.clip limit).finish position = (state.finish position).clip limit := by
  obtain ⟨stack, scope, sink⟩ := state
  cases stack with
  | cons value stack => exact fail_clip h position _
  | nil =>
    cases scope with
    | cons entry scope => exact fail_clip h position _
    | nil => exact done_clip h

namespace Machine

theorem execute_clip {state : State Store} (h : state.sink.Within limit) (first : Token)
    (cursor : Cursor) :
    execute first cursor (state.clip limit) =
      ((execute first cursor state).1, (execute first cursor state).2.clip limit) := by
  have hstack : (state.clip limit).stack = state.stack := rfl
  cases hkind : first.kind with
  | eof => simp only [execute, hkind, State.finish_clip h]
  | instruction m =>
    simp only [execute, hkind, hstack]
    split
    · rw [State.fail_clip h]
    · cases Statement.decode m first cursor with
      | error fault =>
        dsimp only [Outcome.clip]
        rw [if_pos h.size_le]
      | ok decoded =>
        dsimp only
        rw [Statement.exec_clip h]
  | _ => simp only [execute, hkind, State.fail_clip h]

theorem step_clip_of_le {machine : Machine Store} (h : machine.state.sink.Within limit)
    (hle : machine.step.1.state.sink.written.size ≤ limit) :
    (machine.clip limit).step = (machine.step.1.clip limit, machine.step.2) := by
  unfold step at hle ⊢
  dsimp only [clip]
  split
  next => rfl
  next first cursor hnext =>
    simp only [hnext] at hle
    simp only [execute_clip h, Outcome.clip, if_pos hle]

theorem step_clip_of_lt {machine : Machine Store} (h : machine.state.sink.Within limit)
    (hlt : limit < machine.step.1.state.sink.written.size) :
    (machine.clip limit).step =
      ({ machine.step.1.clip limit with running := false }, some .output) := by
  unfold step at hlt ⊢
  dsimp only [clip]
  split
  next fault hnext =>
    have hsize := h.size_le
    simp only [hnext] at hlt
    omega
  next first cursor hnext =>
    simp only [hnext] at hlt
    simp only [execute_clip h, Outcome.clip, if_neg (Nat.not_le.2 hlt)]
    rfl

theorem afterSteps_clip (machine : Machine Store) (ts : List (Transition Store)) :
    (machine.clip limit).afterSteps (ts.map (Transition.clip limit)) =
      (machine.afterSteps ts).clip limit := by
  induction ts generalizing machine with
  | nil => rfl
  | cons t ts ih =>
    rw [List.map_cons, afterSteps_cons, afterSteps_cons]
    apply ih

theorem lastFault?_clip (ts : List (Transition Store)) :
    lastFault? (ts.map (Transition.clip limit)) = lastFault? ts := by
  unfold lastFault?
  rw [List.getLast?_map]
  cases ts.getLast? <;> rfl

/--
The bytes that were written after a number of steps.
-/
def writtenAfter (machine : Machine Store) (count : Nat) : List UInt8 :=
  (machine.afterSteps (machine.steps count)).state.sink.written.toList

theorem length_writtenAfter_le (machine : Machine Store) {count more : Nat} (h : count ≤ more) :
    (machine.writtenAfter count).length ≤ (machine.writtenAfter more).length := by
  apply List.IsPrefix.length_le
  apply written_prefix_of_le
  exact h

theorem within_afterSteps {machine : Machine Store} (h : machine.state.sink.limit? = none)
    {count : Nat} (hle : (machine.writtenAfter count).length ≤ limit) :
    (machine.afterSteps (machine.steps count)).state.sink.Within limit := by
  constructor
  · rw [limit?_afterSteps]
    exact h
  · rw [← Array.length_toList]
    exact hle

theorem steps_clip {machine : Machine Store} (h : machine.state.sink.limit? = none) {count : Nat}
    (hle : (machine.writtenAfter count).length ≤ limit) :
    (machine.clip limit).steps count = (machine.steps count).map (Transition.clip limit) := by
  induction count with
  | zero => rfl
  | succ count ih =>
    have hbefore : (machine.writtenAfter count).length ≤ limit := by
      have := machine.length_writtenAfter_le (Nat.le_add_right count 1)
      omega
    rw [steps_add, steps_add, ih hbefore, afterSteps_clip, List.map_append]
    congr 1
    generalize hlast : machine.afterSteps (machine.steps count) = last
    cases hrun : last.running with
    | false =>
      have hclip : (last.clip limit).running = false := hrun
      rw [steps_of_halted hrun, steps_of_halted hclip, List.map_nil]
    | true =>
      have hclip : (last.clip limit).running = true := hrun
      have hwithin := within_afterSteps h hbefore
      rw [hlast] at hwithin
      have hsize : last.step.1.state.sink.written.size ≤ limit := by
        rw [writtenAfter, steps_add, afterSteps_append, hlast, steps_succ_of_running hrun] at hle
        exact hle
      rw [steps_succ_of_running hrun, steps_succ_of_running hclip, step_clip_of_le hwithin hsize]
      rfl

theorem exists_writes_beyond {machine : Machine Store} {count : Nat}
    (hle : (machine.writtenAfter 0).length ≤ limit)
    (hlt : limit < (machine.writtenAfter count).length) :
    ∃ index < count, (machine.writtenAfter index).length ≤ limit ∧
      limit < (machine.writtenAfter (index + 1)).length := by
  induction count with
  | zero => omega
  | succ count ih =>
    by_cases hcount : (machine.writtenAfter count).length ≤ limit
    · exact ⟨count, Nat.lt_succ_self count, hcount, hlt⟩
    · obtain ⟨index, hindex, hwrites⟩ := ih (by omega)
      exact ⟨index, by omega, hwrites⟩

theorem stopsAfter_clip {machine : Machine Store} (h : machine.state.sink.limit? = none)
    {index : Nat} (hle : (machine.writtenAfter index).length ≤ limit)
    (hlt : limit < (machine.writtenAfter (index + 1)).length) :
    ∃ t, (machine.clip limit).StopsAfter index t .output ∧
      t.after.state.sink.written.toList = (machine.writtenAfter (index + 1)).take limit := by
  have hwithin := within_afterSteps h hle
  have hclip : (machine.clip limit).afterSteps ((machine.clip limit).steps index) =
      (machine.afterSteps (machine.steps index)).clip limit := by
    rw [steps_clip h hle, afterSteps_clip]
  unfold writtenAfter at hle hlt ⊢
  rw [steps_add, afterSteps_append] at hlt ⊢
  generalize machine.afterSteps (machine.steps index) = last at hle hlt hwithin hclip
  have hrun : last.running = true := by
    -- a halted machine writes nothing
    cases hrun : last.running with
    | true => rfl
    | false =>
      rw [steps_of_halted hrun] at hlt
      exact absurd hle (Nat.not_le.2 hlt)
  rw [steps_succ_of_running hrun] at hlt ⊢
  have hstep : (last.clip limit).step = _ := step_clip_of_lt hwithin hlt
  have hstops := @stopsAfter_of_running _ _ (machine.clip limit) index .output
    (by rw [hclip]; exact hrun) (by rw [hclip, hstep])
  refine ⟨_, hstops, ?_⟩
  simp only [hclip, hstep]
  rfl

end Machine

/--
Two machines that differ at most in how much their sinks hold.
-/
structure Machine.Agrees (a b : Machine Store) : Prop where
  cursor : a.cursor = b.cursor
  running : a.running = b.running
  stack : a.state.stack = b.state.stack
  scope : a.state.scope = b.state.scope
  written : a.state.sink.written = b.state.sink.written

/--
A machine does what one with an unlimited store does up to the step with an index, in which more is
printed than the limit. There it stops, and it executes nothing behind.
-/
structure Machine.StopsAtLimit (machine free : Machine Store) (limit index : Nat) : Prop where
  stops : ∃ t, machine.StopsAfter index t .output
  ends : ∀ count, index < count → machine.steps count = machine.steps (index + 1)
  agrees : ∀ count ≤ index,
    (machine.afterSteps (machine.steps count)).Agrees (free.afterSteps (free.steps count))
  beyond : limit < (free.afterSteps (free.steps (index + 1))).state.sink.written.size

namespace Machine

theorem start_clip (tokens : List Token) :
    start tokens (Store.empty (some limit)) = (start tokens (Store.empty none)).clip limit := by
  simp [start, State.start, clip, State.clip, State.withSink, Store.clip, Store.empty]

theorem agrees_clip {machine : Machine Store} (h : machine.state.sink.Within limit) :
    (machine.clip limit).Agrees machine := by
  constructor
  · rfl
  · rfl
  · rfl
  · rfl
  · dsimp only [clip, State.clip, State.withSink, Store.clip]
    rw [Store.take_of_within h]

section Evaluate

variable {machine : Machine Store} (h : machine.state.sink.limit? = none)

include h

theorem evaluate_clip_of_le (hle : (machine.writtenAfter machine.bound).length ≤ limit) :
    (machine.clip limit).evaluate = (machine.evaluate.1.clip limit, machine.evaluate.2) := by
  have hbound : (machine.clip limit).bound = machine.bound := rfl
  rw [evaluate_eq_steps, evaluate_eq_steps, hbound, steps_clip h hle, afterSteps_clip,
    lastFault?_clip]

variable {index : Nat} (hle : (machine.writtenAfter index).length ≤ limit)
  (hlt : limit < (machine.writtenAfter (index + 1)).length)

include hle hlt

theorem evaluate_clip_of_lt (hindex : index < machine.bound) :
    (machine.clip limit).evaluate.1.state.sink.written.toList =
        (machine.writtenAfter machine.bound).take limit ∧
      (machine.clip limit).evaluate.2 = some .output := by
  have hbound : (machine.clip limit).bound = machine.bound := rfl
  obtain ⟨t, hstops, hwritten⟩ := stopsAfter_clip h hle hlt
  have hbegins : machine.writtenAfter (index + 1) <+: machine.writtenAfter machine.bound :=
    machine.written_prefix_of_le hindex
  obtain ⟨later, hlater⟩ := hbegins
  rw [evaluate_eq_steps, hbound, hstops.steps_of_lt hindex, hstops.steps_succ]
  constructor
  · rw [afterSteps_append, afterSteps_cons, afterSteps_nil, hwritten]
    -- what an unlimited store is given later stands behind the limit
    rw [← hlater, List.take_append_of_le_length (Nat.le_of_lt hlt)]
  · rw [lastFault?, List.getLast?_concat]
    exact hstops.fault

theorem stopsAtLimit_clip : (machine.clip limit).StopsAtLimit machine limit index := by
  obtain ⟨t, hstops, -⟩ := stopsAfter_clip h hle hlt
  refine ⟨⟨t, hstops⟩, ?_, ?_, hlt⟩
  · intro count hcount
    exact hstops.steps_of_lt hcount
  · intro count hcount
    have hwritten : (machine.writtenAfter count).length ≤ limit :=
      Nat.le_trans (machine.length_writtenAfter_le hcount) hle
    rw [steps_clip h hwritten, afterSteps_clip]
    apply agrees_clip
    exact within_afterSteps h hwritten

end Evaluate
end Machine

section Tokens

variable {tokens : List Token}

theorem written_evaluate (tokens : List Token) (sink : Store) :
    (evaluate tokens sink).state.sink.written.toList =
      (Machine.start tokens sink).writtenAfter (Machine.start tokens sink).bound := by
  simp only [evaluate, Machine.evaluate_eq_steps]
  rfl

theorem evaluate_bounded_of_le
    (hle : (evaluate tokens (Store.empty none)).state.sink.written.toList.length ≤ limit) :
    let whole := evaluate tokens (Store.empty none)
    let bounded := evaluate tokens (Store.empty (some limit))
    bounded.state.sink.written.toList = whole.state.sink.written.toList ∧
      bounded.fault? = whole.fault? := by
  intro whole bounded
  have hbounded : bounded = ⟨whole.state.clip limit, whole.fault?⟩ := by
    rw [written_evaluate] at hle
    dsimp only [bounded, whole, evaluate]
    rw [Machine.start_clip, Machine.evaluate_clip_of_le rfl hle]
    rfl
  rw [hbounded]
  constructor
  · exact List.take_of_length_le hle
  · rfl

theorem evaluate_bounded_of_lt
    (hlt : limit < (evaluate tokens (Store.empty none)).state.sink.written.toList.length) :
    let whole := evaluate tokens (Store.empty none)
    let bounded := evaluate tokens (Store.empty (some limit))
    bounded.state.sink.written.toList = whole.state.sink.written.toList.take limit ∧
      bounded.fault? = some .output ∧
      ∃ index, (Machine.start tokens (Store.empty (some limit))).StopsAtLimit
        (Machine.start tokens (Store.empty none)) limit index := by
  intro whole bounded
  rw [written_evaluate] at hlt
  have hstart : ((Machine.start tokens (Store.empty none)).writtenAfter 0).length ≤ limit :=
    Nat.zero_le limit
  obtain ⟨index, hindex, hle, hbeyond⟩ := Machine.exists_writes_beyond hstart hlt
  obtain ⟨hwritten, hfault⟩ := Machine.evaluate_clip_of_lt rfl hle hbeyond hindex
  rw [← Machine.start_clip, ← written_evaluate] at hwritten
  rw [← Machine.start_clip] at hfault
  refine ⟨hwritten, hfault, index, ?_⟩
  rw [Machine.start_clip]
  exact Machine.stopsAtLimit_clip rfl hle hbeyond

end Tokens

/--
With a store of a limited size a program prints what fits of its output. If all of it fits, the
program ends as with an unlimited store. If not, it is stopped at the step that prints more than
fits, and no step comes behind it.
-/
theorem run_limited_take (source : Text) (limit : Nat) :
    let whole := run source (Store.empty none)
    let bounded := run source (Store.empty (some limit))
    let printed := whole.state.sink.written.toList
    (printed.length ≤ limit →
      bounded.state.sink.written.toList = printed ∧ bounded.fault? = whole.fault?) ∧
    (limit < printed.length →
      bounded.state.sink.written.toList = printed.take limit ∧ bounded.fault? = some .output ∧
      ∃ tokens index, Source.lex source = .ok tokens ∧
        (Machine.start tokens (Store.empty (some limit))).StopsAtLimit
          (Machine.start tokens (Store.empty none)) limit index) := by
  cases hlex : Source.lex source with
  | error fault =>
    -- nothing is printed, so that all of it fits
    simp only [run, hlex]
    constructor
    · intro _
      exact ⟨rfl, trivial⟩
    · intro hlt
      cases hlt
  | ok tokens =>
    simp only [run, hlex]
    constructor
    · intro hle
      exact evaluate_bounded_of_le hle
    · intro hlt
      obtain ⟨hwritten, hfault, index, hstops⟩ := evaluate_bounded_of_lt hlt
      exact ⟨hwritten, hfault, tokens, index, rfl, hstops⟩

theorem run_limited_take_cut :
    let source := "push string \"\u00e9t\u00e9\"\nprint\npush int 1\nprint\npush int 2\n".toList
    let bounded := run source (Store.empty (some 4))
    bounded.state.sink.written.toList = [195, 169, 116, 195] ∧ bounded.fault? = some .output ∧
      ∃ tokens, Source.lex source = .ok tokens ∧
        ∃ index t, (Machine.start tokens (Store.empty (some 4))).StopsAfter index t .output := by
  intro source bounded
  obtain ⟨hwritten, hfault, tokens, index, hlex, hstops⟩ :=
    (run_limited_take source 4).2 (by decide +kernel)
  refine ⟨?_, hfault, tokens, hlex, index, hstops.stops⟩
  rw [hwritten]
  decide +kernel

end Stackline
