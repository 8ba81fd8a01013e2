import Stackline.Proofs.Source.Lex
import Stackline.Proofs.Statement.Effect

/-!
The reader of lines and the machine agree on the form of instructions: each step of a program that
was read from a source takes the tokens of one line, and no step fails because of the form of the
tokens.
-/

namespace Stackline

variable {σ : Type} [Sink σ]

namespace Cause

/--
The causes that lie in the list of tokens, not in what the program does.
-/
def isMalformedStream : Cause → Bool
  | .outOfTokens | .notInstruction _ | .unexpectedToken .. | .incompleteLiteral | .declarationForm
  | .assignmentForm => true
  | .missingName m => m = .print
  | _ => false

/--
The cause does not lie in the list of tokens, and if it makes a syntax error, that is one of a
string literal or of the name that a variable is declared with.
-/
def LiesInProgram (cause : Cause) : Prop :=
  cause.isMalformedStream = false ∧
    (cause.category = .syntaxError →
      cause = .missingOpeningQuote ∨ cause = .missingClosingQuote ∨ ∃ name, cause = .badName name)

theorem liesInProgram_of_isExecution {cause : Cause} (h : cause.isExecution) :
    cause.LiesInProgram := by
  constructor
  · cases cause with
    | missingName m => simpa [isExecution, isMalformedStream] using h
    | outOfTokens | notInstruction _ | unexpectedToken _ _ | incompleteLiteral | declarationForm
    | assignmentForm => cases h
    | _ => rfl
  · intro hsyntax
    cases cause with
    | missingOpeningQuote => exact .inl rfl
    | missingClosingQuote => exact .inr (.inl rfl)
    | badName name => exact .inr (.inr ⟨name, rfl⟩)
    | unknownInstruction _ | unknownType _ | declarationForm | assignmentForm | numericName
    | notInstruction _ | unexpectedToken _ _ => cases h
    | _ => cases hsyntax

end Cause

omit [Sink σ] in
theorem State.liesInProgram_of_finish {state : State σ} {position position' : Position}
    {cause : Cause} (h : (state.finish position).fault? = some (.located position' cause)) :
    cause.LiesInProgram := by
  unfold finish at h
  split at h
  next =>
    cases h
    exact ⟨rfl, nofun⟩
  next =>
    split at h
    next =>
      cases h
      exact ⟨rfl, nofun⟩
    next => cases h

namespace Machine

theorem liesInProgram_of_step {closing : Token} (hclosing : closing.kind = .eof) {block : Block}
    {last : Position} {state : State σ} {position : Position} {cause : Cause}
    (h : (onBlock last block closing state).step.2 = some (.located position cause)) :
    cause.LiesInProgram := by
  cases block with
  | nil =>
    rw [step_onBlock_nil hclosing] at h
    exact State.liesInProgram_of_finish h
  | cons i block =>
    rw [fault?_step_onBlock] at h
    apply Cause.liesInProgram_of_isExecution
    exact (Statement.residue_of_exec h).2

end Machine

namespace Source

theorem instruction_of_lt {source : Text} (h : WellFormed source) {index : Nat}
    (hindex : index < (block source).length) :
    ∃ line s, (codeLines source)[index]? = some line ∧ line.parse = .ok s ∧
      (block source)[index] = ⟨line.position, s⟩ := by
  have hlt : index < (codeLines source).length := by rwa [← length_block h]
  have hline := List.getElem?_eq_getElem hlt
  obtain ⟨s, hs⟩ := h _ (List.mem_of_getElem? hline)
  refine ⟨(codeLines source)[index], s, hline, hs, ?_⟩
  have hi := congrArg (fun l => l[index]?) (map_some_block h)
  simp only [List.getElem?_map, hline, List.getElem?_eq_getElem hindex, Option.map_some,
    Line.instruction?_of_parse hs, Option.some.injEq] at hi
  exact hi

theorem tokens_of_step {source : Text} {tokens : List Token} (h : lex source = .ok tokens)
    {sink : σ} {count index : Nat} {t : Transition σ}
    (ht : ((Machine.start tokens sink).steps count)[index]? = some t) (hfault : t.fault? = none) :
    (∃ line s, (codeLines source)[index]? = some line ∧ line.parse = .ok s ∧
      t.before.cursor.tokens = s.tokens line.position ++ t.after.cursor.tokens) ∨
    (index = (codeLines source).length ∧ t.before.cursor.tokens = [endToken source] ∧
      t.after.cursor.tokens = []) := by
  have hwf := (lex_eq_ok_iff.1 h).1
  rw [start_of_lex h] at ht
  obtain ⟨hafter, hstep⟩ := Machine.mem_steps (List.mem_of_getElem? ht)
  obtain ⟨hindex, last, hbefore⟩ := Machine.before_of_getElem?_steps rfl ht
  rw [hbefore] at hafter hstep
  rw [hstep] at hfault
  rcases Nat.lt_or_eq_of_le hindex with hlt | heq
  · left
    obtain ⟨line, s, hline, hs, hi⟩ := instruction_of_lt hwf hlt
    rw [List.drop_eq_getElem_cons hlt, hi] at hbefore hafter hfault
    rw [Machine.fault?_step_onBlock] at hfault
    rw [Machine.step_onBlock_of_success hfault] at hafter
    refine ⟨line, s, hline, hs, ?_⟩
    rw [hbefore, hafter]
    simp [Machine.onBlock, Block.tokens, Instruction.tokens]
  · right
    rw [heq, List.drop_length] at hbefore hafter
    rw [Machine.step_onBlock_nil rfl] at hafter
    refine ⟨heq.trans (length_block hwf), ?_, ?_⟩
    · rw [hbefore]
      rfl
    · rw [hafter]

theorem liesInProgram_of_steps {source : Text} {tokens : List Token}
    (h : lex source = .ok tokens) {sink : σ} {count index : Nat} {t : Transition σ}
    (ht : ((Machine.start tokens sink).steps count)[index]? = some t) {position : Position}
    {cause : Cause} (hfault : t.fault? = some (.located position cause)) :
    cause.LiesInProgram := by
  rw [start_of_lex h] at ht
  obtain ⟨-, hstep⟩ := Machine.mem_steps (List.mem_of_getElem? ht)
  obtain ⟨-, last, hbefore⟩ := Machine.before_of_getElem?_steps rfl ht
  rw [hstep, hbefore] at hfault
  exact Machine.liesInProgram_of_step rfl hfault

theorem length_steps_of_run {source : Text} {tokens : List Token} (h : lex source = .ok tokens)
    {sink : σ} (hrun : (run source sink).fault? = none) {count : Nat}
    (hcount : (codeLines source).length < count) :
    ((Machine.start tokens sink).steps count).length = (codeLines source).length + 1 := by
  have hwf := (lex_eq_ok_iff.1 h).1
  rw [run_eq_exec hwf, Outcome.fault?_andThen_eq_none_iff] at hrun
  rw [start_of_lex h, Machine.length_steps_onBlock rfl hrun.1, length_block hwf]
  omega

end Source

/--
The steps of a program that was read from a source are the lines of the source that are not blank,
in their order, and then its end. Each step that succeeds takes exactly the tokens of its line, a
run that succeeds makes no step less, and no run is stopped because of the form of the tokens.
-/
theorem steps_follow_lines {source : Text} {tokens : List Token}
    (h : Source.lex source = .ok tokens) (sink : σ) :
    let machine := Machine.start tokens sink
    let lines := Source.codeLines source
    (∀ (count index : Nat) (t : Transition σ), (machine.steps count)[index]? = some t →
      (t.fault? = none →
        (∃ line s, lines[index]? = some line ∧ line.parse = .ok s ∧
          t.before.cursor.tokens = s.tokens line.position ++ t.after.cursor.tokens) ∨
        (index = lines.length ∧ t.before.cursor.tokens = [Source.endToken source] ∧
          t.after.cursor.tokens = [])) ∧
      ∀ position cause, t.fault? = some (.located position cause) → cause.LiesInProgram) ∧
    ((run source sink).fault? = none →
      ∀ count, lines.length < count → (machine.steps count).length = lines.length + 1) ∧
    ∀ position cause, (run source sink).fault? = some (.located position cause) →
      cause.LiesInProgram := by
  intro machine lines
  refine ⟨?_, ?_, ?_⟩
  · intro count index t ht
    constructor
    · intro hfault
      exact Source.tokens_of_step h ht hfault
    · intro position cause hfault
      exact Source.liesInProgram_of_steps h ht hfault
  · intro hrun count hcount
    exact Source.length_steps_of_run h hrun hcount
  · intro position cause hfault
    -- the fault of a run is the fault of its last step
    simp only [run, h, evaluate, Machine.evaluate_eq_steps, Machine.lastFault?,
      Option.bind_eq_some_iff] at hfault
    obtain ⟨t, ht, hfault⟩ := hfault
    rw [List.getLast?_eq_getElem?] at ht
    exact Source.liesInProgram_of_steps h ht hfault

theorem steps_follow_lines_blank :
    ∃ tokens, Source.lex "push int 2\n\n  print\nvar bool b\ndrop b".toList = .ok tokens ∧
      ((Machine.start tokens (Store.empty none)).steps 9).length = 5 := by
  have hlex :
      ∃ tokens, Source.lex "push int 2\n\n  print\nvar bool b\ndrop b".toList = .ok tokens :=
    ⟨_, rfl⟩
  obtain ⟨tokens, hlex⟩ := hlex
  refine ⟨tokens, hlex, ?_⟩
  have h := steps_follow_lines hlex (Store.empty none)
  exact h.2.1 (by decide +kernel) 9 (by decide +kernel)

end Stackline
