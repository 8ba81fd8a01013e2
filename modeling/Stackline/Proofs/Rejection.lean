import Stackline.Proofs.Source.Malformed
import Stackline.Proofs.Statement.Parse
import Stackline.Report

/-!
What becomes of a source with a malformed line: the first such line is reported, and no instruction
of the source is executed.
-/

namespace Stackline

variable {σ : Type} [Sink σ]

theorem Cause.category_of_isReading {cause : Cause} (h : cause.isReading) :
    cause.category = .syntaxError := by
  cases cause with
  | unknownInstruction _ | unknownType _ | declarationForm | assignmentForm | numericName => rfl
  | _ => cases h

theorem Line.parse_eq_ok_iff {line : Line} :
    (∃ s, line.parse = .ok s) ↔ ∀ cause, ¬ Malformed line.trimmed cause := by
  simp only [← Statement.parse_eq_error_iff, parse]
  cases Statement.parse line.trimmed <;> simp

namespace Source

theorem lex_eq_error_iff_malformed {source : Text} :
    (∃ fault, lex source = .error fault) ↔
      ∃ line ∈ codeLines source, ∃ cause, Malformed line.trimmed cause := by
  constructor
  · rintro ⟨fault, h⟩
    obtain ⟨before, line, cause, hfirst, -⟩ := lex_eq_error_iff.1 h
    refine ⟨line, ?_, cause, Statement.parse_eq_error_iff.1 hfirst.malformed⟩
    apply hfirst.code.subset
    exact List.mem_append_right before List.mem_cons_self
  · rintro ⟨line, hline, cause, hmalformed⟩
    rcases wellFormed_or_firstMalformed source with hwf | ⟨before, first, cause', hfirst⟩
    · exact absurd hmalformed (Line.parse_eq_ok_iff.1 (hwf line hline) cause)
    · exact ⟨_, hfirst.lex_eq⟩

/--
The first malformed line of a source, told by the texts of the lines.
-/
structure Rejected (source : Text) (before : List Line) (line : Line) (behind : List Line)
    (cause : Cause) : Prop where
  code : codeLines source = before ++ line :: behind
  wellFormed : ∀ l ∈ before, ∀ cause, ¬ Malformed l.trimmed cause
  malformed : Malformed line.trimmed cause
  category : cause.category = .syntaxError

theorem rejected_of_lex {source : Text} {fault : Fault} (h : lex source = .error fault) :
    ∃ before line behind cause, Rejected source before line behind cause ∧
      fault = .located line.position cause := by
  obtain ⟨before, line, cause, hfirst, hfault⟩ := lex_eq_error_iff.1 h
  obtain ⟨behind, hcode⟩ := hfirst.code
  refine ⟨before, line, behind, cause, ⟨?_, ?_, ?_, ?_⟩, hfault⟩
  · rw [← hcode, List.append_assoc]
    rfl
  · intro l hl
    exact Line.parse_eq_ok_iff.1 (hfirst.wellFormed l hl)
  · exact Statement.parse_eq_error_iff.1 hfirst.malformed
  · exact Cause.category_of_isReading (Statement.isReading_of_parse hfirst.malformed)

end Source

theorem run_of_malformed {source : Text} {fault : Fault} (h : Source.lex source = .error fault)
    (sink : σ) : run source sink = ⟨State.start sink, some fault⟩ := by
  rw [run, h]

/--
A source can not be read exactly if one of its lines is malformed. Then the fault is that of the
first such line, and nothing is executed, not even what stands before this line.
-/
theorem lex_rejects_malformed (source : Text) :
    ((∃ fault, Source.lex source = .error fault) ↔
      ∃ line ∈ Source.codeLines source, ∃ cause, Malformed line.trimmed cause) ∧
    ∀ fault, Source.lex source = .error fault →
      (∃ before line behind cause, Source.Rejected source before line behind cause ∧
        fault = .located line.position cause) ∧
      fault.exitCode = 65 ∧
      (∀ (σ : Type) [Sink σ] (sink : σ), run source sink = ⟨State.start sink, some fault⟩) ∧
      ∀ logs, (executeSource source logs).output = [] ∧
        (executeSource source logs).exitCode = 65 := by
  constructor
  · exact Source.lex_eq_error_iff_malformed
  · intro fault h
    obtain ⟨before, line, behind, cause, hrejected, hfault⟩ := Source.rejected_of_lex h
    have hcode : fault.exitCode = 65 := by
      rw [hfault, Fault.exitCode, if_pos hrejected.category]
    refine ⟨⟨before, line, behind, cause, hrejected, hfault⟩, hcode, ?_, ?_⟩
    · intro σ _ sink
      exact run_of_malformed h sink
    · intro logs
      rw [executeSource, run_of_malformed h]
      exact ⟨rfl, hcode⟩

theorem lex_rejects_malformed_numeric :
    let source := "push int 5\nprint\n pop\n MOVE 12 x\n\nvar int".toList
    let fault := Fault.located ⟨4, ⟨23, 9⟩⟩ .numericName
    Source.lex source = .error fault ∧
      (∃ line ∈ Source.codeLines source, ∃ cause, Malformed line.trimmed cause) ∧
      fault.exitCode = 65 ∧
      run source (Store.empty none) = ⟨State.start (Store.empty none), some fault⟩ := by
  intro source fault
  -- the lines before would print a value, and the last line is malformed as well
  have hlex : Source.lex source = .error fault := rfl
  obtain ⟨hiff, hfault⟩ := lex_rejects_malformed source
  obtain ⟨-, hcode, hrun, -⟩ := hfault fault hlex
  exact ⟨hlex, hiff.1 ⟨fault, hlex⟩, hcode, hrun Store (Store.empty none)⟩

end Stackline
