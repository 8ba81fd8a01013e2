import Stackline.Program
import Stackline.Proofs.Block
import Stackline.Proofs.Result

/-!
Reading a source, by its lines that are not blank. A source can be read exactly if each of these
lines is a statement, and to run it is to execute the block of the statements.
-/

namespace Stackline

variable {σ : Type} [Sink σ]

namespace Line

def tokens (line : Line) : List Token :=
  match line.parse with
  | .ok s => s.tokens line.position
  | .error _ => []

def instruction? (line : Line) : Option Instruction :=
  line.parse.toOption.map fun s => ⟨line.position, s⟩

theorem instruction?_of_parse {line : Line} {s : Statement} (h : line.parse = .ok s) :
    line.instruction? = some ⟨line.position, s⟩ := by
  simp [instruction?, h, Except.toOption]

theorem parse_of_instruction? {line : Line} {i : Instruction} (h : line.instruction? = some i) :
    line.parse = .ok i.statement ∧ line.position = i.position := by
  obtain ⟨s, hs, rfl⟩ := Option.map_eq_some_iff.1 h
  exact ⟨Result.toOption_eq_some_iff.1 hs, rfl⟩

theorem tokens_of_parse {line : Line} {s : Statement} (h : line.parse = .ok s) :
    line.tokens = s.tokens line.position := by
  simp [tokens, h]

end Line

namespace Source

/--
The lines that are not blank.
-/
def codeLines (source : Text) : List Line :=
  (lines source).filter fun line => !line.isBlank

def WellFormed (source : Text) : Prop :=
  ∀ line ∈ codeLines source, ∃ s, line.parse = .ok s

def block (source : Text) : Block :=
  (codeLines source).filterMap Line.instruction?

theorem scan.foldr_before_of_wellFormed {ls : List Line} (rest : List Token × Option Fault)
    (h : ∀ line ∈ ls.filter fun line => !line.isBlank, ∃ s, line.parse = .ok s) :
    ls.foldr scan.before rest =
      ((ls.filter fun line => !line.isBlank).flatMap Line.tokens ++ rest.1, rest.2) := by
  induction ls with
  | nil => rfl
  | cons line ls ih =>
    rw [List.foldr_cons, scan.before]
    cases hblank : line.isBlank with
    | true =>
      simp only [hblank, List.filter_cons, Bool.not_true, Bool.false_eq_true, if_false] at h ⊢
      exact ih h
    | false =>
      simp only [hblank, List.filter_cons, Bool.not_false, if_true, List.mem_cons,
        forall_eq_or_imp] at h ⊢
      obtain ⟨⟨s, hs⟩, h⟩ := h
      rw [ih h]
      simp [hs, Line.tokens_of_parse hs]

theorem scan.wellFormed_of_foldr_before {ls : List Line} {rest : List Token}
    (h : (ls.foldr scan.before (rest, none)).2 = none) :
    ∀ line ∈ ls.filter fun line => !line.isBlank, ∃ s, line.parse = .ok s := by
  induction ls with
  | nil => simp
  | cons line ls ih =>
    rw [List.foldr_cons, scan.before] at h
    cases hblank : line.isBlank with
    | true =>
      simp only [hblank, if_true] at h
      simpa [hblank] using ih h
    | false =>
      simp only [hblank, Bool.false_eq_true, if_false] at h
      cases hparse : line.parse with
      | error cause => simp [hparse] at h
      | ok s =>
        simp only [hparse] at h
        simpa [hblank, hparse] using ih h

theorem flatMap_tokens_filterMap {ls : List Line} (h : ∀ line ∈ ls, ∃ s, line.parse = .ok s) :
    (ls.filterMap Line.instruction?).flatMap Instruction.tokens = ls.flatMap Line.tokens := by
  induction ls with
  | nil => rfl
  | cons line ls ih =>
    rw [List.forall_mem_cons] at h
    obtain ⟨⟨s, hs⟩, h⟩ := h
    rw [List.filterMap_cons_some (Line.instruction?_of_parse hs), List.flatMap_cons,
      List.flatMap_cons, ih h, Line.tokens_of_parse hs]
    rfl

theorem tokens_block {source : Text} (h : WellFormed source) :
    (block source).tokens = (codeLines source).flatMap Line.tokens :=
  flatMap_tokens_filterMap h

theorem map_some_block {source : Text} (h : WellFormed source) :
    (block source).map some = (codeLines source).map Line.instruction? := by
  unfold block
  unfold WellFormed at h
  generalize codeLines source = ls at h
  induction ls with
  | nil => rfl
  | cons line ls ih =>
    rw [List.forall_mem_cons] at h
    obtain ⟨⟨s, hs⟩, h⟩ := h
    have hi := Line.instruction?_of_parse hs
    rw [List.filterMap_cons_some hi, List.map_cons, List.map_cons, ih h, hi]

theorem length_block {source : Text} (h : WellFormed source) :
    (block source).length = (codeLines source).length := by
  have hlength := congrArg List.length (map_some_block h)
  rwa [List.length_map, List.length_map] at hlength

theorem lex_eq_ok_iff {source : Text} {tokens : List Token} :
    lex source = .ok tokens ↔
      WellFormed source ∧ tokens = (block source).tokens ++ [endToken source] := by
  constructor
  · intro h
    unfold lex at h
    split at h
    next tokens' hscan =>
      cases h
      have hwf : WellFormed source := by
        have hnone : (scan source).2 = none := by rw [hscan]
        exact scan.wellFormed_of_foldr_before hnone
      refine ⟨hwf, ?_⟩
      rw [scan, scan.foldr_before_of_wellFormed _ hwf] at hscan
      rw [tokens_block hwf]
      exact (Prod.mk.inj hscan).1.symm
    next => cases h
  · rintro ⟨hwf, rfl⟩
    rw [lex, scan, scan.foldr_before_of_wellFormed _ hwf, tokens_block hwf]
    rfl

omit [Sink σ] in
theorem start_of_lex {source : Text} {tokens : List Token} (h : lex source = .ok tokens)
    (sink : σ) :
    Machine.start tokens sink =
      Machine.onBlock Position.start (block source) (endToken source) (State.start sink) := by
  rw [(lex_eq_ok_iff.1 h).2]
  rfl

theorem state_afterSteps {source : Text} {tokens : List Token} (h : lex source = .ok tokens)
    (sink : σ) (count : Nat) :
    ((Machine.start tokens sink).afterSteps ((Machine.start tokens sink).steps count)).state =
      (Block.exec ((block source).take count) (State.start sink)).state := by
  rw [start_of_lex h]
  apply Machine.state_afterSteps_onBlock
  rfl

theorem exec_take_of_steps {source : Text} {tokens : List Token} (h : lex source = .ok tokens)
    {sink : σ} {count : Nat} (hcount : count ≤ (codeLines source).length)
    (hsteps : ∀ t ∈ (Machine.start tokens sink).steps count, t.fault? = none) :
    Block.exec ((block source).take count) (State.start sink) =
      ⟨((Machine.start tokens sink).afterSteps
        ((Machine.start tokens sink).steps count)).state, none⟩ := by
  rw [start_of_lex h] at hsteps ⊢
  apply Machine.afterSteps_onBlock
  · rwa [length_block (lex_eq_ok_iff.1 h).1]
  · exact hsteps

theorem exec_take_of_running {source : Text} {tokens : List Token} (h : lex source = .ok tokens)
    {sink : σ} {count : Nat}
    (hrun : ((Machine.start tokens sink).afterSteps
      ((Machine.start tokens sink).steps count)).running) :
    Block.exec ((block source).take count) (State.start sink) =
      ⟨((Machine.start tokens sink).afterSteps
        ((Machine.start tokens sink).steps count)).state, none⟩ := by
  refine exec_take_of_steps h ?_ (Machine.succeed_of_running hrun).1
  rw [← length_block (lex_eq_ok_iff.1 h).1]
  -- the machine can make one step more, and that begins within the block
  have hnext := Machine.getElem?_steps_of_running hrun
  rw [start_of_lex h] at hnext
  exact (Machine.before_of_getElem?_steps rfl hnext).1

end Source

theorem run_eq_exec {source : Text} (h : Source.WellFormed source) (sink : σ) :
    run source sink =
      ((Source.block source).exec (State.start sink)).andThen
        fun state => state.finish (Source.endToken source).position := by
  have hlex := Source.lex_eq_ok_iff.2 ⟨h, rfl⟩
  simp only [run, hlex, evaluate]
  exact Machine.evaluate_onBlock rfl Position.start (Source.block source) (State.start sink)

theorem wellFormed_of_run {source : Text} {sink : σ} (h : (run source sink).fault? = none) :
    Source.WellFormed source := by
  unfold run at h
  split at h
  next => cases h
  next tokens hlex => exact (Source.lex_eq_ok_iff.1 hlex).1

theorem exec_of_run {source : Text} {sink : σ} (h : (run source sink).fault? = none) :
    (Source.block source).exec (State.start sink) =
      ⟨State.start (run source sink).state.sink, none⟩ := by
  have hwf := wellFormed_of_run h
  rw [run_eq_exec hwf] at h ⊢
  rw [Outcome.fault?_andThen_eq_none_iff, State.fault?_finish_eq_none_iff] at h
  obtain ⟨hfault, hstack, hscope⟩ := h
  rw [Outcome.andThen_of_none hfault, State.state_finish]
  generalize (Source.block source).exec (State.start sink) = outcome at *
  obtain ⟨⟨stack, scope, sink'⟩, fault?⟩ := outcome
  simp_all [State.start]

end Stackline
