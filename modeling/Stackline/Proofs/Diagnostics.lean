import Mathlib.Data.List.Forall2
import Stackline.Proofs.Agreement
import Stackline.Proofs.Source.Lines
import Stackline.Proofs.Source.Malformed
import Stackline.Proofs.Statement.Parse
import Stackline.Proofs.Statement.Place
import Stackline.Proofs.Typing

/-!
A diagnostic points at the line that it is about: the malformed line that could not be read, the
line whose statement failed or, if something is left over, the end of the source and the lines that
placed the variables.
-/

namespace Stackline

variable {σ : Type} [Sink σ]

/--
The line declares a name or pops a value into it.
-/
def Line.Places (name : Text) (line : Line) : Prop :=
  (∃ ty, line.parse = .ok (.var ty name)) ∨ line.parse = .ok (.pop (some name))

namespace Source

/--
A label stands at the last line that declares a variable or pops a value into it.
-/
def LabelsLast (source : Text) (x : Variable) (label : Label) : Prop :=
  ∃ before line behind, codeLines source = before ++ line :: behind ∧ line.Places x.name ∧
    (∀ l ∈ behind, ¬ l.Places x.name) ∧ PointsAt source x.position line ∧
    label.span = x.position.span

end Source

/--
Where the fault of a run stands, by the part of the run that it was raised in.
-/
inductive Diagnosis (source : Text) (sink : σ) : Fault → Prop where
  /-- A line can not be read. -/
  | reading {line : Line} {position : Position} {cause : Cause}
    (hlex : Source.lex source = .error (.located position cause))
    (hline : line ∈ Source.codeLines source) (hpoints : Source.PointsAt source position line)
    (hcause : cause.isReading) : Diagnosis source sink (.located position cause)
  /-- The step behind `count` steps that succeed takes the tokens of a line and fails. -/
  | step {tokens : List Token} {count : Nat} {t : Transition σ} {line : Line} {s : Statement}
    {position : Position} {cause : Cause} (hlex : Source.lex source = .ok tokens)
    (hstops : (Machine.start tokens sink).StopsAfter count t (.located position cause))
    (hline : (Source.codeLines source)[count]? = some line) (hparse : line.parse = .ok s)
    (htokens : s.tokens line.position <+: t.before.cursor.tokens)
    (hpoints : Source.PointsAt source position line) (hcause : cause.isExecution) :
    Diagnosis source sink (.located position cause)
  /-- The step behind those of all lines takes the token for the end and finds something left. -/
  | ending {tokens : List Token} {t : Transition σ} {position : Position} {cause : Cause}
    (hlex : Source.lex source = .ok tokens)
    (hstops : (Machine.start tokens sink).StopsAfter (Source.codeLines source).length t
      (.located position cause))
    (htokens : t.before.cursor.tokens = [Source.endToken source])
    (hposition : position = ⟨(Source.lines source).length, ⟨source.byteLength, 0⟩⟩)
    (hcause : (∃ stack, cause = .leftoverValues stack) ∨
      ∃ left, cause = .leftoverVariables left ∧
        List.Forall₂ (Source.LabelsLast source) left (Fault.located position cause).labels.tail) :
    Diagnosis source sink (.located position cause)

theorem Line.places_iff {line : Line} {s : Statement} (h : line.parse = .ok s) (name : Text) :
    line.Places name ↔ s.places name = true := by
  rw [Places, h]
  cases s with
  | var ty placed => simp [Statement.places]
  | pop name? => cases name? <;> simp [Statement.places]
  | _ => simp [Statement.places]

theorem Scope.Valid.get?_of_mem_held {scope : Scope} (h : scope.Valid) {x : Variable}
    (hx : x ∈ scope.held) : scope.get? x.name = some x := by
  obtain ⟨⟨name, y⟩, hentry, rfl⟩ := List.mem_map.1 hx
  obtain rfl : y.name = name := h.named _ hentry
  obtain ⟨before, behind, rfl⟩ := List.append_of_mem hentry
  rw [get?, List.lookup_eq_some_iff]
  refine ⟨before, behind, rfl, ?_⟩
  intro entry hbefore
  have hnodup := h.nodup
  rw [List.map_append, List.nodup_append] at hnodup
  have hne := hnodup.2.2 entry.1 (List.mem_map_of_mem hbefore) y.name List.mem_cons_self
  exact bne_iff_ne.2 (Ne.symm hne)

omit [Sink σ] in
theorem State.fault_of_finish {state : State σ} {position : Position} {fault : Fault}
    (h : (state.finish position).fault? = some fault) :
    fault = .located position (.leftoverValues state.stack) ∨
      fault = .located position (.leftoverVariables state.scope.byLine) := by
  unfold finish at h
  split at h
  · cases h
    exact .inl rfl
  · split at h
    · cases h
      exact .inr rfl
    · cases h

namespace Source

theorem lastPlaces_codeLines {source : Text} (hwf : WellFormed source) {name : Text}
    {position : Position} (h : (block source).LastPlaces name position) :
    ∃ before line behind, codeLines source = before ++ line :: behind ∧ line.Places name ∧
      (∀ l ∈ behind, ¬ l.Places name) ∧ line.position = position := by
  obtain ⟨before, i, behind, hblock, hi, rfl, hbehind⟩ := h
  have hlines := map_some_block hwf
  rw [hblock, List.map_append, List.map_cons, eq_comm, List.map_eq_append_iff] at hlines
  obtain ⟨before', rest, hsplit, -, hrest⟩ := hlines
  obtain ⟨line, behind', rfl, hline, hbehind'⟩ := List.map_eq_cons_iff.1 hrest
  obtain ⟨hparse, hposition⟩ := Line.parse_of_instruction? hline
  refine ⟨before', line, behind', hsplit, ?_, ?_, hposition⟩
  · rw [Line.places_iff hparse]
    exact hi
  · intro l hl
    have hmem := List.mem_map_of_mem (f := Line.instruction?) hl
    rw [hbehind'] at hmem
    obtain ⟨j, hj, hsome⟩ := List.mem_map.1 hmem
    rw [Line.places_iff (Line.parse_of_instruction? hsome.symm).1, hbehind j hj]
    exact Bool.false_ne_true

theorem labelsLast_of_exec {source : Text} (hwf : WellFormed source) {sink : σ} {state : State σ}
    (hexec : (block source).exec (State.start sink) = ⟨state, none⟩) {x : Variable}
    (hx : x ∈ state.scope.byLine) (text : String) :
    LabelsLast source x ⟨text, x.position.span⟩ := by
  have hvalid : ((block source).exec (State.start sink)).state.scope.Valid := by
    apply Block.exec_invariant (P := fun state => state.scope.Valid)
    · exact Statement.valid_exec
    · exact Scope.valid_nil
  have hget : ((block source).exec (State.start sink)).state.scope.get? x.name = some x := by
    apply hvalid.get?_of_mem_held
    rw [hexec]
    exact List.mem_mergeSort.1 hx
  have hlast := Block.lastPlaces_of_start (congrArg Outcome.fault? hexec) hget
  obtain ⟨before, line, behind, hsplit, hplaces, hbehind, hposition⟩ :=
    lastPlaces_codeLines hwf hlast
  refine ⟨before, line, behind, hsplit, hplaces, hbehind, ?_, rfl⟩
  rw [← hposition]
  apply pointsAt_position
  rw [hsplit]
  exact List.mem_append_right before List.mem_cons_self

theorem diagnosis_of_stopsAfter {source : Text} {tokens : List Token}
    (hlex : lex source = .ok tokens) {sink : σ} {count : Nat} {t : Transition σ} {fault : Fault}
    (hstops : (Machine.start tokens sink).StopsAfter count t fault) (hne : fault ≠ .output) :
    Diagnosis source sink fault := by
  have hwf := (lex_eq_ok_iff.1 hlex).1
  have ht := hstops.getElem?_steps
  rw [start_of_lex hlex] at ht
  obtain ⟨-, hstep⟩ := Machine.mem_steps (List.mem_of_getElem? ht)
  obtain ⟨hcount, last, hbefore⟩ := Machine.before_of_getElem?_steps rfl ht
  rw [hstops.fault, hbefore] at hstep
  rcases Nat.lt_or_eq_of_le hcount with hlt | heq
  · obtain ⟨line, s, hline, hparse, hi⟩ := instruction_of_lt hwf hlt
    rw [List.drop_eq_getElem_cons hlt, hi] at hbefore hstep
    rw [Machine.fault?_step_onBlock, eq_comm] at hstep
    have hcause := (Statement.residue_of_exec hstep).2
    cases fault with
    | output => exact absurd rfl hne
    | unreadable path reason => cases hcause
    | located position cause =>
      obtain rfl := Instruction.position_of_exec hstep
      have hpoints := pointsAt_position (List.mem_of_getElem? hline)
      refine .step hlex hstops hline hparse ?_ hpoints hcause
      rw [hbefore, Machine.onBlock, Block.tokens, List.flatMap_cons, List.append_assoc]
      exact List.prefix_append _ _
  · -- all lines have been executed
    rw [heq, List.drop_length, List.take_length] at hbefore hstep
    rw [Machine.step_onBlock_nil rfl] at hstep
    rw [heq, length_block hwf] at hstops
    have htokens : t.before.cursor.tokens = [endToken source] := by
      rw [hbefore]
      rfl
    have hexec := exec_take_of_steps hlex (Nat.le_refl _) hstops.succeed
    rw [← length_block hwf, List.take_length] at hexec
    rw [hexec] at hstep
    rcases State.fault_of_finish hstep.symm with rfl | rfl
    · exact .ending hlex hstops htokens rfl (.inl ⟨_, rfl⟩)
    · refine .ending hlex hstops htokens rfl (.inr ⟨_, rfl, ?_⟩)
      have hlabels := fun x hx text => @labelsLast_of_exec _ _ source hwf sink _ hexec x hx text
      rw [Fault.labels, List.tail_cons, Fault.labels.related, List.forall₂_map_right_iff,
        List.forall₂_same]
      intro x hx
      exact hlabels x hx _

end Source

/--
A run that fails for another reason than its output points at the place where it went wrong. If a
line can not be read, this is the trimmed text of the line; if a step fails, that of the line which
the number of the steps before it tells; if something is left over, it is the end of the source, and
each variable that is left is labelled at the last line that declared it or popped a value into it.
-/
theorem diagnosis_of_run {source : Text} {sink : σ} {fault : Fault}
    (h : (run source sink).fault? = some fault) (hne : fault ≠ .output) :
    Diagnosis source sink fault := by
  unfold run at h
  split at h
  next fault' hlex =>
    cases h
    obtain ⟨before, line, cause, hmalformed, rfl⟩ := Source.lex_eq_error_iff.1 hlex
    have hline : line ∈ Source.codeLines source := by
      apply hmalformed.code.subset
      simp
    exact .reading hlex hline (Source.pointsAt_position hline)
      (Statement.isReading_of_parse hmalformed.malformed)
  next tokens hlex =>
    -- the fault of a run is the fault of its last step
    simp only [evaluate, Machine.evaluate_eq_steps] at h
    obtain ⟨count, t, hstops⟩ := Machine.stopsAfter_of_lastFault? h
    exact Source.diagnosis_of_stopsAfter hlex hstops hne

theorem diagnosis_of_run_leftover :
    let source := "var int é\n \n  var bool b\npush int 1\npop é".toList
    ∃ left, (run source (Store.empty none)).fault? =
        some (.located ⟨5, ⟨43, 0⟩⟩ (.leftoverVariables left)) ∧
      Diagnosis source (Store.empty none) (.located ⟨5, ⟨43, 0⟩⟩ (.leftoverVariables left)) := by
  intro source
  have hrun : ∃ left, (run source (Store.empty none)).fault? =
      some (.located ⟨5, ⟨43, 0⟩⟩ (.leftoverVariables left)) :=
    ⟨_, rfl⟩
  obtain ⟨left, hrun⟩ := hrun
  exact ⟨left, hrun, diagnosis_of_run hrun nofun⟩

end Stackline
