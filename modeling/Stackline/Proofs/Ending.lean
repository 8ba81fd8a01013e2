import Mathlib.Data.List.Nodup
import Stackline.Proofs.Diagnostics
import Stackline.Proofs.Listing
import Stackline.Proofs.OneLine
import Stackline.Proofs.Stepping

/-!
The report on what a program has left over at its end. The values are listed as they lie on the
stack. The variables are listed in an order that tells any two of them apart, so that the report
does not show in which order a scope holds them.
-/

namespace Stackline

variable {σ : Type} [Sink σ]

theorem Text.utf8_injective {s t : Text} (h : Text.utf8 s = Text.utf8 t) : s = t := by
  apply String.ofList_injective
  rw [← String.toByteArray_inj, String.toByteArray_ofList, String.toByteArray_ofList]
  exact congrArg List.toByteArray h

namespace Variable

/--
The strict order of a report: by lines, then by the UTF-8 bytes of the names.
-/
def Precedes (x y : Variable) : Prop :=
  x.position.line < y.position.line ∨
    x.position.line = y.position.line ∧ Text.utf8 x.name < Text.utf8 y.name

theorem Precedes.asymm {x y : Variable} (h : x.Precedes y) : ¬ y.Precedes x := by
  rintro (hline | ⟨hline, hname⟩)
  · rcases h with h | ⟨h, -⟩ <;> omega
  · rcases h with h | ⟨-, h⟩
    · omega
    · exact List.not_lt.2 (List.le_of_lt h) hname

/--
The remark at the place of a variable.
-/
def label (x : Variable) : Label :=
  ⟨"`" ++ String.ofList x.name ++ "` declared here", x.position.span⟩

theorem name_of_label_eq {x y : Variable} (h : x.label = y.label) : x.name = y.name := by
  have htext := congrArg (fun label => label.text.toList) h
  simpa [label] using htext

end Variable

namespace Scope

theorem byLine_perm (scope : Scope) : scope.byLine.Perm scope.held :=
  List.mergeSort_perm _ _

theorem byLine_ne_nil {scope : Scope} (h : scope ≠ []) : scope.byLine ≠ [] := by
  intro hempty
  have hperm := scope.byLine_perm
  rw [hempty] at hperm
  exact h (List.map_eq_nil_iff.1 hperm.nil_eq.symm)

theorem pairwise_byLine (scope : Scope) :
    scope.byLine.Pairwise fun x y => x.position.line < y.position.line ∨
      x.position.line = y.position.line ∧ Text.utf8 x.name ≤ Text.utf8 y.name := by
  have hsorted : scope.byLine.Pairwise fun x y =>
      (decide (x.position.line < y.position.line) || (decide (x.position.line = y.position.line) &&
        decide (Text.utf8 x.name ≤ Text.utf8 y.name))) = true := by
    apply List.pairwise_mergeSort
    · intro x y z hxy hyz
      simp only [Bool.or_eq_true, Bool.and_eq_true, decide_eq_true_eq] at hxy hyz ⊢
      rcases hxy with hxy | ⟨hxy, hnames⟩
      · left
        omega
      · rcases hyz with hyz | ⟨hyz, hnames'⟩
        · left
          omega
        · right
          exact ⟨hxy.trans hyz, List.le_trans hnames hnames'⟩
    · intro x y
      simp only [Bool.or_eq_true, Bool.and_eq_true, decide_eq_true_eq]
      rcases Nat.lt_trichotomy x.position.line y.position.line with hlt | heq | hgt
      · exact .inl (.inl hlt)
      · rcases List.le_total (Text.utf8 x.name) (Text.utf8 y.name) with hle | hge
        · exact .inl (.inr ⟨heq, hle⟩)
        · exact .inr (.inr ⟨heq.symm, hge⟩)
      · exact .inr (.inl hgt)
  simpa using hsorted

namespace Valid

variable {scope : Scope} (h : scope.Valid)

include h

theorem nodup_names : (scope.held.map Variable.name).Nodup := by
  have hnames : scope.held.map Variable.name = scope.map Prod.fst := by
    rw [held, List.map_map]
    apply List.map_congr_left
    exact h.named
  rw [hnames]
  exact h.nodup

theorem of_perm {entries : Scope} (hperm : entries.Perm scope) : entries.Valid := by
  constructor
  · intro entry hentry
    exact h.named entry (hperm.mem_iff.1 hentry)
  · rw [(hperm.map Prod.fst).nodup_iff]
    exact h.nodup
  · intro entry hentry
    exact h.valid entry (hperm.mem_iff.1 hentry)

theorem nodup_names_byLine : (scope.byLine.map Variable.name).Nodup := by
  rw [(scope.byLine_perm.map Variable.name).nodup_iff]
  exact h.nodup_names

/--
The sort is strict as no two variables have the same name.
-/
theorem precedes_byLine : scope.byLine.Pairwise Variable.Precedes := by
  have hnames := List.pairwise_map.1 h.nodup_names_byLine
  apply (scope.pairwise_byLine.and hnames).imp
  rintro x y ⟨hline | ⟨hline, hle⟩, hne⟩
  · exact .inl hline
  · right
    refine ⟨hline, ?_⟩
    rw [← List.not_le]
    intro hge
    exact hne (Text.utf8_injective (List.le_antisymm hle hge))

theorem byLine_of_perm {entries : Scope} (hperm : entries.Perm scope) :
    entries.byLine = scope.byLine := by
  refine List.Perm.eq_of_pairwise ?_ (h.of_perm hperm).precedes_byLine h.precedes_byLine ?_
  · intro x y _ _ hxy hyx
    exact absurd hyx hxy.asymm
  · apply entries.byLine_perm.trans
    apply (hperm.map Prod.snd).trans
    exact scope.byLine_perm.symm

theorem mem_byLine_iff {name : Text} {x : Variable} :
    x ∈ scope.byLine ∧ x.name = name ↔ scope.get? name = some x := by
  rw [scope.byLine_perm.mem_iff]
  constructor
  · rintro ⟨hx, rfl⟩
    exact h.get?_of_mem_held hx
  · intro hx
    exact ⟨mem_held_of_get? hx, h.named _ (mem_of_get? hx)⟩

/--
What tells variables apart by their names is listed once for each of them.
-/
theorem count_map_byLine {β : Type} [BEq β] [LawfulBEq β] {f : Variable → β}
    (hf : ∀ x y, f x = f y → x.name = y.name) {name : Text} {x : Variable}
    (hx : scope.get? name = some x) : (scope.byLine.map f).count (f x) = 1 := by
  have hnodup : (scope.byLine.map f).Nodup := by
    apply List.pairwise_map.2
    apply (List.pairwise_map.1 h.nodup_names_byLine).imp
    intro x y hne heq
    exact hne (hf x y heq)
  apply List.count_eq_one_of_mem hnodup
  exact List.mem_map_of_mem (h.mem_byLine_iff.2 hx).1

end Valid
end Scope

namespace State

omit [Sink σ]

variable {state : State σ}

theorem fault?_finish_of_stack (h : state.stack ≠ []) (position : Position) :
    (state.finish position).fault? = some (.located position (.leftoverValues state.stack)) := by
  rw [finish, if_pos h]
  rfl

theorem fault?_finish_of_scope (hstack : state.stack = []) (h : state.scope ≠ [])
    (position : Position) :
    (state.finish position).fault? =
      some (.located position (.leftoverVariables state.scope.byLine)) := by
  rw [finish, if_neg (not_not_intro hstack), if_pos h]
  rfl

/--
A scope that holds the same variables in another order is told about in the same words.
-/
theorem fault?_finish_of_perm (h : state.scope.Valid) {entries : Scope}
    (hperm : entries.Perm state.scope) (position : Position) :
    (finish { state with scope := entries } position).fault? = (state.finish position).fault? := by
  have hempty : entries = [] ↔ state.scope = [] := by
    constructor
    · rintro rfl
      exact hperm.nil_eq.symm
    · intro hscope
      rw [hscope] at hperm
      exact hperm.eq_nil
  unfold finish
  simp only [ne_eq, hempty, h.byLine_of_perm hperm]
  split
  · rfl
  · split <;> rfl

end State

namespace Source

variable {source : Text}

theorem nodup_line_block (source : Text) :
    ((block source).map fun i => i.position.line).Nodup := by
  rw [List.Nodup, List.pairwise_map, block, List.pairwise_filterMap]
  apply (pairwise_number_codeLines source).imp
  intro line line' hnumber i hi j hj
  rw [← (Line.parse_of_instruction? hi).2, ← (Line.parse_of_instruction? hj).2]
  exact Nat.ne_of_lt hnumber

theorem exists_places_of_get? {sink : σ} {count : Nat} {state : State σ}
    (hexec : Block.exec ((block source).take count) (State.start sink) = ⟨state, none⟩)
    {name : Text} {x : Variable} (hx : state.scope.get? name = some x) :
    ∃ i ∈ block source, i.statement.places name = true ∧ i.position = x.position := by
  obtain ⟨before, i, behind, hblock, hplaces, hposition, -⟩ :=
    Block.lastPlaces_of_start (congrArg Outcome.fault? hexec) (by rw [hexec]; exact hx)
  refine ⟨i, ?_, hplaces, hposition⟩
  apply List.mem_of_mem_take (i := count)
  rw [hblock]
  simp

/--
A line places at most one variable, so the lines of two variables differ.
-/
theorem eq_of_line_eq {sink : σ} {count : Nat} {state : State σ}
    (hexec : Block.exec ((block source).take count) (State.start sink) = ⟨state, none⟩)
    {name other : Text} {x y : Variable} (hx : state.scope.get? name = some x)
    (hy : state.scope.get? other = some y) (hline : x.position.line = y.position.line) :
    name = other := by
  obtain ⟨i, hi, hplaces, hposition⟩ := exists_places_of_get? hexec hx
  obtain ⟨j, hj, hplaces', hposition'⟩ := exists_places_of_get? hexec hy
  obtain rfl : i = j := by
    apply List.inj_on_of_nodup_map (nodup_line_block source) hi hj
    rw [hposition, hposition', hline]
  exact Statement.eq_of_places hplaces hplaces'

end Source

/--
The fault that lists values, the first of which was on the top of the stack.
-/
structure Fault.ListsValues (fault : Fault) (position : Position) (stack : List Value) :
    Prop where
  fault_eq : fault = .located position (.leftoverValues stack)
  message_eq : fault.message =
    "runtime error, line " ++ toString position.line ++ " -> " ++
      ("unhandled data on the stack -> " ++ toString stack.length ++ " items (top first: " ++
        ", ".intercalate (stack.map fun value => String.ofList value.display) ++ ")")

/--
The fault that lists the variables of a scope, each of them once, in the message and in the labels.
Whoever reads the message finds the lines and the names of these variables and nothing else.
-/
structure Fault.ListsVariables (fault : Fault) (position : Position) (scope : Scope)
    (left : List Variable) : Prop where
  fault_eq : fault = .located position (.leftoverVariables left)
  message_eq : fault.message =
    "runtime error, line " ++ toString position.line ++ " -> " ++
      ("variables not dropped: " ++ ", ".intercalate (left.map Variable.entry))
  labels_eq : fault.labels = ⟨"here", position.span⟩ :: left.map Variable.label
  tells_iff : ∀ line entries, Listing.Tells fault.message.toList line entries ↔
    line = position.line ∧ entries = left.map Variable.told
  told_once : ∀ name x, scope.get? name = some x →
    (left.map Variable.told).count (x.position.line, name) = 1
  labelled_once : ∀ name x, scope.get? name = some x →
    (left.map Variable.label).count x.label = 1
  entry_injective : ∀ x y : Variable, x.entry = y.entry →
    x.position.line = y.position.line ∧ x.name = y.name
  mem_iff : ∀ name x, x ∈ left ∧ x.name = name ↔ scope.get? name = some x
  nodup_names : (left.map Variable.name).Nodup
  ordered : left.Pairwise Variable.Precedes

theorem Fault.message_of_runtime {cause : Cause} (h : cause.category = .runtime)
    (position : Position) :
    (located position cause).message =
      "runtime error, line " ++ toString position.line ++ " -> " ++ cause.detail := by
  have htitle : "runtime error" ++ ", line " = "runtime error, line " := rfl
  rw [message, h, ← htitle]
  rfl

theorem Fault.listsValues (position : Position) (stack : List Value) :
    ListsValues (.located position (.leftoverValues stack)) position stack :=
  ⟨rfl, message_of_runtime rfl position⟩

theorem Fault.tells_message (position : Position) {left : List Variable} (h : left ≠ []) :
    Listing.Tells (located position (.leftoverVariables left)).message.toList position.line
      (left.map Variable.told) := by
  obtain ⟨x, left, rfl⟩ := List.exists_cons_of_ne_nil h
  have hmessage : (located position (.leftoverVariables (x :: left))).message.toList =
      "runtime error, line ".toList ++ (Nat.toDigits 10 position.line ++
        (" -> variables not dropped: ".toList ++
          (", ".intercalate ((x :: left).map Variable.entry)).toList)) := by
    have hjoin : " -> variables not dropped: " = " -> " ++ "variables not dropped: " := rfl
    have hdetail : (Cause.leftoverVariables (x :: left)).detail =
      "variables not dropped: " ++ ", ".intercalate ((x :: left).map Variable.entry) := rfl
    rw [message_of_runtime rfl, hjoin, hdetail]
    simp only [String.toList_append, List.append_assoc, Nat.toString_eq_repr, Nat.toList_repr]
  have harrow : ∃ c t, " -> variables not dropped: ".toList = c :: t ∧ c.isDigit = false :=
    ⟨' ', _, rfl, rfl⟩
  refine ⟨_, ?_, Variable.entries_intercalate x left⟩
  rw [hmessage]
  exact Text.numberBetween?_append _ harrow position.line _

theorem Fault.listsVariables (position : Position) {scope : Scope} (h : scope.Valid)
    (hscope : scope ≠ []) :
    ListsVariables (.located position (.leftoverVariables scope.byLine)) position scope
      scope.byLine where
  fault_eq := rfl
  message_eq := message_of_runtime rfl position
  labels_eq := rfl
  tells_iff := by
    intro line entries
    have htells := tells_message position (Scope.byLine_ne_nil hscope)
    constructor
    · intro hother
      exact hother.unique htells
    · rintro ⟨rfl, rfl⟩
      exact htells
  told_once := by
    intro name x hx
    obtain ⟨-, rfl⟩ := h.mem_byLine_iff.2 hx
    apply h.count_map_byLine (f := Variable.told) _ hx
    intro x y htold
    exact (Prod.mk.inj htold).2
  labelled_once := by
    intro name x hx
    exact h.count_map_byLine (fun x y => Variable.name_of_label_eq) hx
  entry_injective := by
    intro x y hentry
    exact Prod.mk.inj (Variable.told_of_entry_eq hentry)
  mem_iff := fun _ _ => h.mem_byLine_iff
  nodup_names := h.nodup_names_byLine
  ordered := h.precedes_byLine

/--
Whatever tokens a machine is given, its step at the end succeeds exactly if nothing is left over.
Values that are left are counted and listed from the top of the stack, whatever is in scope.
Otherwise each variable that is left is listed once, with its line in the message and with its span
in a label, by lines and then by the bytes of the names. The fault does not depend on the order in
which the scope holds the variables. If the tokens were read from a source, no two variables stand
on one line.
-/
theorem end_report_complete {tokens : List Token} {sink : σ} {count : Nat} {first : Token}
    {rest : List Token}
    (h : ((Machine.start tokens sink).afterSteps
      ((Machine.start tokens sink).steps count)).AtEnd first rest) :
    let machine := (Machine.start tokens sink).afterSteps ((Machine.start tokens sink).steps count)
    let state := machine.state
    (machine.step.2 = none ↔ state.stack = [] ∧ state.scope = []) ∧
      (state.stack ≠ [] → ∃ fault, machine.step.2 = some fault ∧
        fault.ListsValues first.position state.stack) ∧
      (state.stack = [] → state.scope ≠ [] → ∃ fault left, machine.step.2 = some fault ∧
        fault.ListsVariables first.position state.scope left) ∧
      (∀ entries, entries.Perm state.scope →
        (Machine.step { machine with state := { state with scope := entries } }).2 =
          machine.step.2) ∧
      ∀ source, Source.lex source = .ok tokens → ∀ name other x y,
        state.scope.get? name = some x → state.scope.get? other = some y → name ≠ other →
          x.position.line ≠ y.position.line := by
  intro machine state
  have hvalid : state.scope.Valid := by
    apply Machine.steps_invariant (P := fun state => state.scope.Valid)
    · exact Statement.valid_exec
    · exact Scope.valid_nil
  have hstep := Machine.step_of_eof h.tokens h.kind
  refine ⟨?_, ?_, ?_, ?_, ?_⟩
  · rw [hstep]
    exact State.fault?_finish_eq_none_iff
  · intro hstack
    rw [hstep]
    exact ⟨_, State.fault?_finish_of_stack hstack first.position, Fault.listsValues _ _⟩
  · intro hstack hscope
    rw [hstep]
    exact ⟨_, _, State.fault?_finish_of_scope hstack hscope first.position,
      Fault.listsVariables _ hvalid hscope⟩
  · intro entries hperm
    rw [@Machine.step_of_eof _ _ { machine with state := { state with scope := entries } } _ _
      h.tokens h.kind, hstep]
    exact State.fault?_finish_of_perm hvalid hperm first.position
  · intro source hlex name other x y hx hy hne hline
    have hexec := Source.exec_take_of_running hlex h.running
    exact hne (Source.eq_of_line_eq hexec hx hy hline)

theorem end_report_complete_popped :
    let source := "var int é\nvar bool b\npush int 1\npop é".toList
    ∃ tokens, Source.lex source = .ok tokens ∧
      let start := Machine.start tokens (Store.empty none)
      let machine := start.afterSteps (start.steps 4)
      ∃ fault left, machine.step.2 = some fault ∧
        fault.ListsVariables ⟨4, ⟨39, 0⟩⟩ machine.state.scope left ∧
        fault.message = "runtime error, line 4 -> variables not dropped: " ++
          "line 2 -> \"b\", line 4 -> \"é\"" ∧
        Listing.Tells fault.message.toList 4 [(2, ['b']), (4, ['é'])] ∧
        ∀ x y, machine.state.scope.get? ['b'] = some x → machine.state.scope.get? ['é'] = some y →
          x.position.line ≠ y.position.line := by
  intro source
  have hlex : ∃ tokens, Source.lex source = .ok tokens := ⟨_, rfl⟩
  obtain ⟨tokens, hlex⟩ := hlex
  refine ⟨tokens, hlex, ?_⟩
  intro start machine
  have hend : machine.AtEnd ⟨.eof, ⟨4, ⟨39, 0⟩⟩, none⟩ [] := by
    cases hlex
    exact ⟨rfl, rfl, rfl⟩
  have hstack : machine.state.stack = [] := by
    cases hlex
    rfl
  have hne : machine.state.scope ≠ [] := by
    cases hlex
    exact List.cons_ne_nil _ _
  obtain ⟨-, -, hvariables, -, hlines⟩ := end_report_complete hend
  obtain ⟨fault, left, hfault, hlists⟩ := hvariables hstack hne
  have hscope : machine.state.scope = [(['é'], ⟨['é'], .int, ⟨4, ⟨33, 6⟩⟩, some (.int 1)⟩),
      (['b'], ⟨['b'], .bool, ⟨2, ⟨11, 10⟩⟩, none⟩)] := by
    cases hlex
    rfl
  have hleft : left = [⟨['b'], .bool, ⟨2, ⟨11, 10⟩⟩, none⟩,
      ⟨['é'], .int, ⟨4, ⟨33, 6⟩⟩, some (.int 1)⟩] := by
    rw [Machine.step_of_eof hend.tokens hend.kind, State.fault?_finish_of_scope hstack hne,
      hlists.fault_eq, hscope] at hfault
    cases hfault
    simp [Scope.byLine, Scope.held, List.mergeSort]
  refine ⟨fault, left, hfault, hlists, ?_, ?_, ?_⟩
  · rw [hlists.message_eq, hleft]
    decide +kernel
  · rw [hlists.tells_iff, hleft]
    exact ⟨rfl, rfl⟩
  · intro x y hx hy
    exact hlines source hlex _ _ x y hx hy (by decide)

end Stackline
