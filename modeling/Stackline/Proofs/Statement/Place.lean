import Stackline.Proofs.Balance

/-!
Where the faults and the variables of an execution stand. A statement that fails points at one of its
own tokens, and a variable points at the last statement that declared it or popped a value into it.
-/

namespace Stackline

variable {σ : Type} [Sink σ]

theorem Instruction.position_of_exec {i : Instruction} {state : State σ} {position : Position}
    {cause : Cause} (h : (i.exec state).fault? = some (.located position cause)) :
    position = i.position := by
  rcases Statement.standsAt_of_exec h position rfl with h | h
  · exact h
  · exact h

namespace Scope

theorem get?_insert_cases {scope : Scope} {name placed : Text} {x y : Variable}
    (hx : (scope.insert placed y).get? name = some x) :
    (placed = name ∧ x = y) ∨ (placed ≠ name ∧ scope.get? name = some x) := by
  by_cases h : placed = name
  · left
    subst h
    rw [get?_insert_self] at hx
    cases hx
    exact ⟨rfl, rfl⟩
  · right
    rw [get?_insert_of_ne (Ne.symm h)] at hx
    exact ⟨h, hx⟩

theorem get?_of_get?_erase {scope : Scope} {name erased : Text} {x : Variable}
    (hx : (scope.erase erased).get? name = some x) : scope.get? name = some x := by
  by_cases h : name = erased
  · subst h
    rw [get?_erase_self] at hx
    cases hx
  · rwa [get?_erase_of_ne h] at hx

end Scope

namespace Statement

/--
The statements that give a variable its position.
-/
def places (name : Text) : Statement → Bool
  | .var _ placed | .pop (some placed) => placed = name
  | _ => false

theorem eq_of_places {s : Statement} {name other : Text} (h : s.places name = true)
    (hother : s.places other = true) : name = other := by
  cases s with
  | var ty placed =>
    simp only [places, decide_eq_true_eq] at h hother
    exact h.symm.trans hother
  | pop name? =>
    cases name? with
    | none => cases h
    | some placed =>
      simp only [places, decide_eq_true_eq] at h hother
      exact h.symm.trans hother
  | _ => cases h

/--
A variable that is in scope behind a statement has the position of the statement, or that which it
had before.
-/
theorem place_of_effect {last : Position} {s : Statement} {state state' : State σ}
    (h : Effect last s state state') {name : Text} {x : Variable}
    (hx : state'.scope.get? name = some x) :
    (s.places name = true ∧ x.position = last) ∨
      (s.places name = false ∧ ∃ y, state.scope.get? name = some y ∧ x.position = y.position) := by
  cases h with
  | pushdName hy hvalue => exact .inr ⟨rfl, x, Scope.get?_of_get?_erase hx, rfl⟩
  | drop hy => exact .inr ⟨rfl, x, Scope.get?_of_get?_erase hx, rfl⟩
  | var hrefusal =>
    rcases Scope.get?_insert_cases hx with ⟨rfl, rfl⟩ | ⟨hne, hx⟩
    · exact .inl ⟨decide_eq_true rfl, rfl⟩
    · exact .inr ⟨decide_eq_false hne, x, hx, rfl⟩
  | pop hy =>
    rcases Scope.get?_insert_cases hx with ⟨rfl, rfl⟩ | ⟨hne, hx⟩
    · exact .inl ⟨decide_eq_true rfl, rfl⟩
    · exact .inr ⟨decide_eq_false hne, x, hx, rfl⟩
  | move hy hread =>
    -- a variable that is assigned a literal stays where it is
    rcases Scope.get?_insert_cases hx with ⟨rfl, rfl⟩ | ⟨-, hx⟩
    · exact .inr ⟨rfl, _, hy, rfl⟩
    · exact .inr ⟨rfl, x, hx, rfl⟩
  | _ => exact .inr ⟨rfl, x, hx, rfl⟩

end Statement

namespace Block

/--
The position of the last instruction of a block that places a name.
-/
def LastPlaces (block : Block) (name : Text) (position : Position) : Prop :=
  ∃ before i behind, block = before ++ i :: behind ∧ i.statement.places name = true ∧
    i.position = position ∧ ∀ j ∈ behind, j.statement.places name = false

theorem lastPlaces_cons {block : Block} {name : Text} {position : Position}
    (h : block.LastPlaces name position) (i : Instruction) :
    LastPlaces (i :: block) name position := by
  obtain ⟨before, j, behind, rfl, hj⟩ := h
  exact ⟨i :: before, j, behind, rfl, hj⟩

theorem place_exec {block : Block} {state : State σ} (h : (block.exec state).fault? = none)
    {name : Text} {x : Variable} (hx : (block.exec state).state.scope.get? name = some x) :
    block.LastPlaces name x.position ∨
      ((∀ i ∈ block, i.statement.places name = false) ∧
        ∃ y, state.scope.get? name = some y ∧ x.position = y.position) := by
  induction block generalizing state with
  | nil =>
    right
    refine ⟨?_, x, hx, rfl⟩
    intro i hi
    cases hi
  | cons i block ih =>
    rw [exec, Outcome.fault?_andThen_eq_none_iff] at h
    rw [exec_cons_of_success h.1] at hx
    rcases ih h.2 hx with hlast | ⟨hnone, y, hy, hposition⟩
    · left
      exact lastPlaces_cons hlast i
    · rcases Statement.place_of_effect (i.effect_of_exec h.1) hy with
        ⟨hplaces, hlast⟩ | ⟨hplaces, z, hz, hkept⟩
      · left
        refine ⟨[], i, block, rfl, hplaces, ?_, hnone⟩
        rw [hposition, hlast]
      · right
        rw [List.forall_mem_cons]
        exact ⟨⟨hplaces, hnone⟩, z, hz, hposition.trans hkept⟩

theorem lastPlaces_of_start {block : Block} {sink : σ}
    (h : (block.exec (State.start sink)).fault? = none) {name : Text} {x : Variable}
    (hx : (block.exec (State.start sink)).state.scope.get? name = some x) :
    block.LastPlaces name x.position := by
  rcases place_exec h hx with hlast | ⟨-, y, hy, -⟩
  · exact hlast
  · cases hy

end Block
end Stackline
