import Stackline.Proofs.OneLine
import Stackline.Proofs.Statement.Print

/-!
The output of a program, line by line. Each print that is executed without a fault writes one line,
that of the value it finds, and nothing else is written; as no value has a newline in its text, the
lines can be told apart in the output.
-/

namespace Stackline

variable {σ : Type}

namespace Text

theorem eq_ten_of_newline {n : Nat} (h : '\n'.toUInt8 = UInt8.ofNat n) : n % 256 = 10 := by
  have hnat := congrArg UInt8.toNat h
  rw [UInt8.toNat_ofNat'] at hnat
  exact hnat.symm

theorem newline_not_mem_utf8EncodeChar {c : Char} (h : c ≠ '\n') :
    '\n'.toUInt8 ∉ String.utf8EncodeChar c := by
  unfold String.utf8EncodeChar
  dsimp only
  split
  next hascii =>
    intro hmem
    have hten := eq_ten_of_newline (List.mem_singleton.1 hmem)
    apply h
    apply Char.ext
    apply UInt32.toNat_inj.1
    have hnewline : '\n'.val.toNat = 10 := rfl
    omega
  next =>
    -- all bytes of a longer encoding have their highest bit set
    have hhigh {n : Nat} (hlow : 128 ≤ n) (hn : n < 256) : '\n'.toUInt8 ≠ UInt8.ofNat n := by
      intro heq
      have hten := eq_ten_of_newline heq
      omega
    split
    next =>
      simp only [List.mem_cons, List.not_mem_nil, or_false, not_or]
      refine ⟨hhigh ?_ ?_, hhigh ?_ ?_⟩ <;> omega
    next =>
      split
      next =>
        simp only [List.mem_cons, List.not_mem_nil, or_false, not_or]
        refine ⟨hhigh ?_ ?_, hhigh ?_ ?_, hhigh ?_ ?_⟩ <;> omega
      next =>
        simp only [List.mem_cons, List.not_mem_nil, or_false, not_or]
        refine ⟨hhigh ?_ ?_, hhigh ?_ ?_, hhigh ?_ ?_, hhigh ?_ ?_⟩ <;> omega

theorem count_newline_utf8 (t : Text) : (utf8 t).count '\n'.toUInt8 = t.count '\n' := by
  induction t with
  | nil => rfl
  | cons c t ih =>
    have hcons : utf8 (c :: t) = String.utf8EncodeChar c ++ utf8 t := rfl
    rw [hcons, List.count_append, ih]
    by_cases hc : c = '\n'
    · subst hc
      rw [List.count_cons_self, Nat.add_comm]
      rfl
    · rw [List.count_eq_zero_of_not_mem (newline_not_mem_utf8EncodeChar hc),
        List.count_cons_of_ne hc, Nat.zero_add]

/--
Texts without newlines that are written one in a line can be counted by their newlines.
-/
theorem count_newline_flatMap {α : Type} {f : α → Text} {xs : List α}
    (h : ∀ x ∈ xs, '\n' ∉ f x) :
    (utf8 (xs.flatMap fun x => f x ++ ['\n'])).count '\n'.toUInt8 = xs.length := by
  rw [count_newline_utf8]
  induction xs with
  | nil => rfl
  | cons x xs ih =>
    rw [List.forall_mem_cons] at h
    rw [List.flatMap_cons, List.count_append, List.count_append,
      List.count_eq_zero_of_not_mem h.1, ih h.2, List.count_singleton_self, List.length_cons]
    omega

end Text

theorem Value.count_newline_flatMap_printed {values : List Value}
    (h : ∀ value ∈ values, '\n' ∉ value.display) :
    (values.flatMap printed).count '\n'.toUInt8 = values.length := by
  rw [← Text.count_newline_flatMap h, Text.utf8, List.flatMap_assoc]
  rfl

namespace Statement

variable {s : Statement}

theorem oneLine_of_printed? {state : State σ} (h : state.OneLine) {value : Value}
    (hvalue : s.printed? state = some value) : value.OneLine := by
  cases s with
  | print => exact h.stack value (List.mem_of_head? hvalue)
  | printVariable name => exact h.scope.read (Result.toOption_eq_some_iff.1 hvalue)
  | _ => cases hvalue

theorem exec_of_unlimited {state : State Store} (hlimit : state.sink.limit? = none) {value : Value}
    (h : s.printed? state = some value) (first last : Position) :
    (s.exec first last state).fault? = none ∧
      (s.exec first last state).state.sink.written.toList =
        state.sink.written.toList ++ value.printed := by
  have hwrite := Store.write_of_unlimited hlimit value.printed
  rw [← sink_taken s state] at hwrite
  rw [exec_of_printed? h, State.print_of_write hwrite, sink_taken]
  exact ⟨rfl, Array.toList_appendList⟩

end Statement

/--
The value that an instruction finds to print when the step is made.
-/
def Instruction.found? (i : Instruction) (t : Transition σ) : Option Value :=
  i.statement.printed? t.before.state

namespace Block

/--
The prints of a block that were executed without a fault, with their steps.
-/
def prints (block : Block) (ts : List (Transition σ)) : List (Instruction × Transition σ) :=
  (block.zip ts).filter fun p => p.1.statement.mnemonic = .print && p.2.fault?.isNone

theorem prints_cons_of_print {i : Instruction} (hm : i.statement.mnemonic = .print)
    {t : Transition σ} (ht : t.fault? = none) (block : Block) (ts : List (Transition σ)) :
    prints (i :: block) (t :: ts) = (i, t) :: prints block ts := by
  rw [prints, List.zip_cons_cons, List.filter_cons_of_pos]
  · rfl
  · simp [hm, ht]

theorem prints_cons_of_not_print {i : Instruction} {t : Transition σ}
    (h : i.statement.mnemonic = .print → t.fault? ≠ none) (block : Block)
    (ts : List (Transition σ)) :
    prints (i :: block) (t :: ts) = prints block ts := by
  rw [prints, List.zip_cons_cons, List.filter_cons_of_neg]
  · rfl
  · simpa using h

end Block

theorem Machine.written_onBlock {closing : Token} (h : closing.kind = .eof) (block : Block)
    (last : Position) {state : State Store} (hlimit : state.sink.limit? = none) (count : Nat) :
    ∃ values : List Value,
      (block.prints ((onBlock last block closing state).steps count)).map (fun p => p.1.found? p.2) =
        values.map some ∧
      ((onBlock last block closing state).afterSteps
        ((onBlock last block closing state).steps count)).state.sink.written.toList =
        state.sink.written.toList ++ values.flatMap Value.printed := by
  induction block generalizing last state count with
  | nil =>
    refine ⟨[], rfl, ?_⟩
    rw [state_afterSteps_onBlock h]
    simp [Block.exec, State.done]
  | cons i block ih =>
    cases count with
    | zero => exact ⟨[], rfl, (List.append_nil _).symm⟩
    | succ count =>
      rw [steps_succ_of_running rfl, afterSteps_cons]
      have hlimit' : (i.exec state).state.sink.limit? = none :=
        i.statement.sink_exec_invariant Store.limit?_write_of_eq i.position i.position state hlimit
      -- an instruction that finds no value to print does not touch the sink, and fails if it is a print
      cases hprinted : i.statement.printed? state with
      | some value =>
        obtain ⟨hfault, hwritten⟩ :=
          Statement.exec_of_unlimited hlimit hprinted i.position i.position
        rw [step_onBlock_of_success hfault]
        obtain ⟨values, hvalues, hrest⟩ := ih i.position hlimit' count
        refine ⟨value :: values, ?_, ?_⟩
        · rw [Block.prints_cons_of_print (Statement.mnemonic_of_printed? hprinted) rfl,
            List.map_cons, List.map_cons, hvalues, Instruction.found?]
          exact congrArg (· :: values.map some) hprinted
        · rw [hrest, Instruction.exec, hwritten, List.flatMap_cons, List.append_assoc]
      | none =>
        have hsink := Statement.sink_exec_of_printed?_eq_none hprinted i.position i.position
        cases hfault : (i.exec state).fault? with
        | none =>
          rw [step_onBlock_of_success hfault]
          obtain ⟨values, hvalues, hrest⟩ := ih i.position hlimit' count
          refine ⟨values, ?_, ?_⟩
          · rw [Block.prints_cons_of_not_print, hvalues]
            intro hm
            exact absurd hfault
              (Statement.fault?_exec_of_printed?_eq_none hm hprinted i.position i.position)
          · rw [hrest, Instruction.exec, hsink]
        | some fault =>
          obtain ⟨cursor, hstep⟩ := step_onBlock_of_fault hfault last block closing
          rw [hstep, steps_of_halted rfl]
          refine ⟨[], ?_, ?_⟩
          · rw [Block.prints_cons_of_not_print]
            · simp [Block.prints]
            · intro hm
              exact Option.some_ne_none fault
          · rw [afterSteps_nil, Instruction.exec, hsink]
            exact (List.append_nil _).symm

namespace Source

variable [Sink σ] {source : Text} {tokens : List Token} (h : lex source = .ok tokens)

include h

theorem oneLine_before {sink : σ} {count : Nat} {t : Transition σ}
    (ht : t ∈ (Machine.start tokens sink).steps count) : t.before.state.OneLine := by
  obtain ⟨index, hindex⟩ := List.mem_iff_getElem?.1 ht
  rw [start_of_lex h] at hindex
  obtain ⟨-, last, hbefore⟩ := Machine.before_of_getElem?_steps rfl hindex
  have hstate := oneLine_afterSteps h sink index
  rw [state_afterSteps h] at hstate
  rw [hbefore]
  exact hstate

theorem oneLine_of_found {sink : σ} {count : Nat} {p : Instruction × Transition σ}
    (hp : p ∈ (block source).prints ((Machine.start tokens sink).steps count)) {value : Value}
    (hvalue : p.1.found? p.2 = some value) : value.OneLine := by
  have hzip := List.of_mem_zip (List.mem_filter.1 hp).1
  exact Statement.oneLine_of_printed? (oneLine_before h hzip.2) hvalue

theorem written_afterSteps (count : Nat) :
    let machine := Machine.start tokens (Store.empty none)
    ∃ values : List Value,
      ((block source).prints (machine.steps count)).map (fun p => p.1.found? p.2) =
        values.map some ∧
      (∀ value ∈ values, value.OneLine) ∧
      (machine.afterSteps (machine.steps count)).state.sink.written.toList =
        values.flatMap Value.printed := by
  intro machine
  have hblock := @Machine.written_onBlock (endToken source) rfl (block source) Position.start
    (State.start (Store.empty none)) rfl count
  rw [← start_of_lex h] at hblock
  obtain ⟨values, hfound, hwritten⟩ := hblock
  refine ⟨values, hfound, ?_, hwritten⟩
  intro value hvalue
  have hmem : some value ∈ values.map some := List.mem_map_of_mem hvalue
  rw [← hfound] at hmem
  obtain ⟨p, hp, hvalue⟩ := List.mem_map.1 hmem
  exact oneLine_of_found h hp hvalue

end Source

/--
No string of a program that was read from a source has a newline, whatever the sink takes. Without a
limit, the output after any number of steps is made of the lines of the prints that were executed
without a fault, in their order, each the text of the value that was found and a newline.
-/
theorem output_one_line_per_print {source : Text} {tokens : List Token}
    (h : Source.lex source = .ok tokens) :
    (∀ (σ : Type) [Sink σ] (sink : σ) (count : Nat),
      let machine := Machine.start tokens sink
      let state := (machine.afterSteps (machine.steps count)).state
      (∀ t, .str t ∈ state.stack → '\n' ∉ t) ∧
        ∀ x ∈ state.scope.held, ∀ t, x.value? = some (.str t) → '\n' ∉ t) ∧
    let machine := Machine.start tokens (Store.empty none)
    (∀ count,
      let prints := (Source.block source).prints (machine.steps count)
      let output := (machine.afterSteps (machine.steps count)).state.sink.written.toList
      ∃ values : List Value,
        prints.map (fun p => p.1.found? p.2) = values.map some ∧
        (∀ value ∈ values, '\n' ∉ value.display) ∧
        output = values.flatMap (fun value => Text.utf8 (value.display ++ ['\n'])) ∧
        output.count '\n'.toUInt8 = prints.length) ∧
    (run source (Store.empty none)).state =
      (machine.afterSteps (machine.steps machine.bound)).state := by
  refine ⟨?_, ?_, ?_⟩
  · intro σ _ sink count machine state
    have hstate : state.OneLine := Source.oneLine_afterSteps h sink count
    constructor
    · intro t ht
      exact hstate.stack (.str t) ht
    · intro x hx t ht
      exact hstate.scope x hx (.str t) ht
  · intro count prints output
    obtain ⟨values, hfound, honeLine, hwritten⟩ := Source.written_afterSteps h count
    have hdisplay : ∀ value ∈ values, '\n' ∉ value.display := by
      intro value hvalue
      exact (honeLine value hvalue).newline_not_mem_display
    refine ⟨values, hfound, hdisplay, hwritten, ?_⟩
    have hlength := congrArg List.length hfound
    rw [List.length_map, List.length_map] at hlength
    rw [hlength, ← Value.count_newline_flatMap_printed hdisplay, ← hwritten]
  · simp only [run, h, evaluate, Machine.evaluate_eq_steps]

theorem output_one_line_per_print_twice :
    let source :=
      "var string s\nmove s \"a\"\npush string \"$\x7bs\x7d b\"\nprint\nprint s\nprint".toList
    (∃ tokens, Source.lex source = .ok tokens) ∧
      (run source (Store.empty none)).state.sink.written.toList.count '\n'.toUInt8 = 2 := by
  intro source
  obtain ⟨-, hlines, hrun⟩ := @output_one_line_per_print source _ rfl
  obtain ⟨values, -, -, -, hcount⟩ := hlines (Machine.start _ (Store.empty none)).bound
  refine ⟨⟨_, rfl⟩, ?_⟩
  rw [hrun, hcount]
  -- the third print finds no value
  decide +kernel

end Stackline
