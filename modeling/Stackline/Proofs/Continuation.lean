import Stackline.Proofs.Source.Append
import Stackline.Proofs.Statement.Print

/-!
What stands behind a program does not change what the program did. If one of its lines fails, the
lines behind are never reached; if none does, they find the stack, the scope and the output as the
program left them.
-/

namespace Stackline

variable {σ : Type} [Sink σ]

/--
The step takes the token for the end.
-/
def Transition.ends (t : Transition σ) : Bool :=
  t.before.cursor.tokens.head?.any fun token => token.kind = .eof

omit [Sink σ] in
theorem Outcome.state_andThen_finish (outcome : Outcome σ) (position : Position) :
    (outcome.andThen fun state => state.finish position).state = outcome.state := by
  cases h : outcome.fault? with
  | none =>
    rw [andThen_of_none h]
    apply State.state_finish
  | some fault => rw [andThen_of_some h]

namespace Machine

omit [Sink σ] in
theorem head?_tokens_onBlock (last : Position) (i : Instruction) (block : Block) (closing : Token)
    (state : State σ) :
    ∃ first, (onBlock last (i :: block) closing state).cursor.tokens.head? = some first ∧
      first.kind ≠ .eof := by
  obtain ⟨first, behind, htokens, hkind, -⟩ := Statement.decode_tokens i.statement i.position []
  refine ⟨first, ?_, by simp [hkind]⟩
  simp [onBlock, Block.tokens, Instruction.tokens, htokens]

/--
A run is stopped at an instruction, whose fault is that of the block, or behind all of them.
-/
theorem stopsAfter_cases {closing : Token} (h : closing.kind = .eof) {block : Block}
    {last : Position} {state : State σ} {count : Nat} {t : Transition σ} {fault : Fault}
    (hstops : (onBlock last block closing state).StopsAfter count t fault) :
    (t.ends = false ∧ (block.exec state).fault? = some fault) ∨
      (t.ends = true ∧ (block.exec state).fault? = none) := by
  obtain ⟨-, hstep⟩ := mem_steps (List.mem_of_getElem? hstops.getElem?_steps)
  obtain ⟨hcount, last', hbefore⟩ := before_of_getElem?_steps h hstops.getElem?_steps
  have hnone := congrArg Outcome.fault? (afterSteps_onBlock hcount hstops.succeed)
  rcases Nat.lt_or_eq_of_le hcount with hlt | heq
  · left
    have hblock : block = block.take count ++ block[count] :: block.drop (count + 1) := by
      rw [← List.drop_eq_getElem_cons hlt, List.take_append_drop]
    rw [List.drop_eq_getElem_cons hlt] at hbefore
    rw [hstops.fault, hbefore, fault?_step_onBlock] at hstep
    constructor
    · obtain ⟨first, hfirst, hkind⟩ := head?_tokens_onBlock last' block[count]
        (block.drop (count + 1)) closing (Block.exec (block.take count) state).state
      rw [Transition.ends, hbefore, hfirst]
      exact decide_eq_false hkind
    · rw [hblock, Block.exec_append, Outcome.andThen_of_none hnone, Block.exec,
        Outcome.andThen_of_some hstep.symm]
      exact hstep.symm
  · right
    rw [heq, List.drop_length] at hbefore
    rw [heq, List.take_length] at hnone
    refine ⟨?_, hnone⟩
    rw [Transition.ends, hbefore]
    exact decide_eq_true h

end Machine

namespace Source

section Lexed

variable {source : Text} {tokens : List Token} (h : lex source = .ok tokens) (sink : σ)

include h

theorem state_run : (run source sink).state = ((block source).exec (State.start sink)).state := by
  rw [run_eq_exec (lex_eq_ok_iff.1 h).1]
  apply Outcome.state_andThen_finish

theorem fault?_exec_of_ends
    (hends : ∀ count t fault, (Machine.start tokens sink).StopsAfter count t fault → t.ends = true) :
    ((block source).exec (State.start sink)).fault? = none := by
  cases hfault : ((block source).exec (State.start sink)).fault? with
  | none => rfl
  | some fault =>
    -- the run is stopped by this fault, and not at its end
    have hrun : (run source sink).fault? = some fault := by
      rw [run_eq_exec (lex_eq_ok_iff.1 h).1, Outcome.andThen_of_some hfault, hfault]
    simp only [run, h, evaluate, Machine.evaluate_eq_steps] at hrun
    obtain ⟨count, t, hstops⟩ := Machine.stopsAfter_of_lastFault? hrun
    have hend := hends count t fault hstops
    rw [start_of_lex h] at hstops
    rcases Machine.stopsAfter_cases rfl hstops with ⟨hnot, -⟩ | ⟨-, hnone⟩
    · rw [hend] at hnot
      cases hnot
    · rw [hfault] at hnone
      cases hnone

end Lexed

variable {s : Text} (hs : IsWhole s) {t : Text} {tokens : List Token}
  (h : lex (s ++ t) = .ok tokens)

include hs h

theorem exists_lex_of_append : ∃ tokens, lex s = .ok tokens := by
  have hwf := (wellFormed_append hs t).1 (lex_eq_ok_iff.1 h).1
  exact ⟨_, lex_eq_ok_iff.2 ⟨hwf.1, rfl⟩⟩

theorem run_append_of_fault {sink : σ} {fault : Fault}
    (hfault : ((block s).exec (State.start sink)).fault? = some fault) :
    run (s ++ t) sink = run s sink := by
  have hwf := (wellFormed_append hs t).1 (lex_eq_ok_iff.1 h).1
  rw [run_eq_exec (lex_eq_ok_iff.1 h).1, run_eq_exec hwf.1, block_append hs t #[], Block.exec_append,
    Outcome.andThen_of_some hfault, Outcome.andThen_of_some hfault, Outcome.andThen_of_some hfault]

theorem written_run_append {sink : Store}
    (hnone : ((block s).exec (State.start sink)).fault? = none) :
    (run s sink).state.sink.written.toList <+: (run (s ++ t) sink).state.sink.written.toList := by
  obtain ⟨tokens', hlex⟩ := exists_lex_of_append hs h
  rw [state_run h, state_run hlex, block_append hs t #[], Block.exec_append,
    Outcome.andThen_of_none hnone]
  apply Block.written_prefix_exec

theorem take_block_append {count : Nat} (hcount : count ≤ (codeLines s).length) :
    (block (s ++ t)).take count = (block s).take count := by
  have hwf := (wellFormed_append hs t).1 (lex_eq_ok_iff.1 h).1
  rw [block_append hs t #[], List.take_append_of_le_length]
  rwa [length_block hwf.1]

end Source

/--
If a program of whole lines fails before its end, then with anything behind it that can be read it
prints the same and fails with the same fault. If not, then what is printed with something behind it
begins with its own output, and both runs have the same stack and scope after each of its lines.
-/
theorem run_append_keeps {s : Text} (hs : Source.IsWhole s) {t : Text} {tokens : List Token}
    (h : Source.lex (s ++ t) = .ok tokens) (sink : Store) :
    ∃ tokens', Source.lex s = .ok tokens' ∧
      let short := Machine.start tokens' sink
      let long := Machine.start tokens sink
      (∀ count u fault, short.StopsAfter count u fault → u.ends = false →
        (run s sink).fault? = some fault ∧ (run (s ++ t) sink).fault? = some fault ∧
          (run (s ++ t) sink).state = (run s sink).state) ∧
      ((∀ count u fault, short.StopsAfter count u fault → u.ends = true) →
        (run s sink).state.sink.written.toList <+: (run (s ++ t) sink).state.sink.written.toList ∧
        (∀ count ≤ (Source.codeLines s).length,
          (long.afterSteps (long.steps count)).state =
            (short.afterSteps (short.steps count)).state) ∧
        (long.afterSteps (long.steps (Source.codeLines s).length)).state = (run s sink).state) := by
  obtain ⟨tokens', hlex⟩ := Source.exists_lex_of_append hs h
  refine ⟨tokens', hlex, ?_, ?_⟩
  · intro count u fault hstops hends
    rw [Source.start_of_lex hlex] at hstops
    rcases Machine.stopsAfter_cases rfl hstops with ⟨-, hfault⟩ | ⟨hend, -⟩
    · have hwf := (Source.lex_eq_ok_iff.1 hlex).1
      have hrun : (run s sink).fault? = some fault := by
        rw [run_eq_exec hwf, Outcome.andThen_of_some hfault, hfault]
      rw [Source.run_append_of_fault hs h hfault]
      exact ⟨hrun, hrun, rfl⟩
    · rw [hends] at hend
      cases hend
  · intro hends
    have hnone := Source.fault?_exec_of_ends hlex sink hends
    refine ⟨Source.written_run_append hs h hnone, ?_, ?_⟩
    · intro count hcount
      rw [Source.state_afterSteps h, Source.state_afterSteps hlex,
        Source.take_block_append hs h hcount]
    · rw [Source.state_afterSteps h, Source.take_block_append hs h (Nat.le_refl _),
        Source.state_run hlex, ← Source.length_block (Source.lex_eq_ok_iff.1 hlex).1,
        List.take_length]

theorem run_append_keeps_underflow :
    let fault := Fault.located ⟨3, ⟨17, 5⟩⟩ (.stackUnderflow .print)
    (run ("push int 1\nprint\nprint\n".toList ++ "pop".toList) (Store.empty none)).fault? =
        some fault ∧
      (run "push int 1\nprint\n".toList (Store.empty none)).state.sink.written.toList <+:
        (run ("push int 1\nprint\n".toList ++ "pop".toList)
          (Store.empty none)).state.sink.written.toList := by
  intro fault
  constructor
  · obtain ⟨tokens, hlex, hfails, -⟩ := @run_append_keeps "push int 1\nprint\nprint\n".toList
      (.inr rfl) "pop".toList _ rfl (Store.empty none)
    have hstops := @Machine.stopsAfter_of_running _ _
      (Machine.onBlock Position.start (Source.block "push int 1\nprint\nprint\n".toList)
        (Source.endToken "push int 1\nprint\nprint\n".toList) (State.start (Store.empty none)))
      2 fault (by decide +kernel) (by decide +kernel)
    rw [Source.start_of_lex hlex] at hfails
    have hsame := hfails 2 _ _ hstops (by decide +kernel)
    exact hsame.2.1
  · obtain ⟨tokens, hlex, -, hkeeps⟩ := @run_append_keeps "push int 1\nprint\n".toList (.inr rfl)
      "pop".toList _ rfl (Store.empty none)
    apply (hkeeps _).1
    intro count u fault hstops
    rw [Source.start_of_lex hlex] at hstops
    rcases Machine.stopsAfter_cases rfl hstops with ⟨-, hfault⟩ | ⟨hend, -⟩
    · have hnone : ((Source.block "push int 1\nprint\n".toList).exec
          (State.start (Store.empty none))).fault? = none := by decide +kernel
      rw [hnone] at hfault
      cases hfault
    · exact hend

end Stackline
