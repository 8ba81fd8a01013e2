import Stackline.Proofs.Machine.Transition
import Stackline.Proofs.Statement.Place

/-!
What a step that succeeds leaves alone. `Statement.Frame` says which variables, which values on the
stack and which part of a variable a statement can not reach; all of it follows from the rules of
`Statement.Effect`.
-/

namespace Stackline

variable {σ : Type} [Sink σ]

/--
A token among the operands is the identifier of a name.
-/
def Token.Names (operands : List Token) (name : Text) : Prop :=
  ∃ token ∈ operands, token.kind = .ident ∧ token.text? = some name

namespace Statement

/--
The name in the operands of a statement.
-/
def subject? : Statement → Option Text
  | .push (.name name?) | .pushd (.name name?) | .pop name? | .drop name? => name?
  | .var _ name | .move name _ | .printVariable name => some name
  | .push (.literal ..) | .pushd (.literal ..) | .arith _ | .discard | .print => none

/--
The statement can change the scope.
-/
def rebinds : Statement → Bool
  | .pushd (.name _) | .pop _ | .drop _ | .var .. | .move .. => true
  | .push _ | .pushd (.literal ..) | .arith _ | .discard | .print | .printVariable _ => false

/--
The number of values that a statement takes off the stack.
-/
def takes : Statement → Nat
  | .arith _ => 2
  | .discard | .pop _ | .print => 1
  | .push _ | .pushd _ | .drop _ | .var .. | .move .. | .printVariable _ => 0

/--
What a statement that is formed by some operands leaves alone.
-/
structure Frame (operands : List Token) (s : Statement) (before after : State σ) : Prop where
  others : ∀ name, ¬ Token.Names operands name →
    after.scope.get? name = before.scope.get? name
  scope : s.rebinds = false → after.scope = before.scope
  /-- A variable that stays in scope keeps its type and its position. -/
  described : s.mnemonic ≠ .pop → ∀ name x y, before.scope.get? name = some x →
    after.scope.get? name = some y → y.ty = x.ty ∧ y.position = x.position
  /-- A variable that is assigned a literal stays in scope. -/
  moved : ∀ name text, s = .move name text → ∃ x value, before.scope.get? name = some x ∧
    after.scope.get? name = some { x with value? := some value }
  /-- A variable that a value is popped into takes on the type of the value and the position of the
  operand. -/
  popped : ∀ name, s = .pop (some name) → ∃ token value, operands = [token] ∧
    before.stack.head? = some value ∧
    after.scope.get? name = some ⟨name, value.ty, token.position, some value⟩
  /-- At most one value comes to lie on those that were not taken. -/
  stack : s.takes ≤ before.stack.length ∧
    ∃ top : Option Value, after.stack = top.toList ++ before.stack.drop s.takes
  sink : s.mnemonic ≠ .print → after.sink = before.sink

section Effect

variable {last : Position} {s : Statement} {state state' : State σ}

theorem get?_of_effect (h : Effect last s state state') {name : Text}
    (hname : s.subject? ≠ some name) : state'.scope.get? name = state.scope.get? name := by
  cases h with
  | pushdName | drop =>
    apply Scope.get?_erase_of_ne
    rintro rfl
    exact hname rfl
  | pop | var | move =>
    apply Scope.get?_insert_of_ne
    rintro rfl
    exact hname rfl
  | _ => rfl

theorem scope_of_effect (h : Effect last s state state') (hs : s.rebinds = false) :
    state'.scope = state.scope := by
  cases h with
  | pushdName | pop | drop | var | move => cases hs
  | _ => rfl

theorem described_of_effect (h : Effect last s state state') (hs : s.mnemonic ≠ .pop) {name : Text}
    {x y : Variable} (hx : state.scope.get? name = some x)
    (hy : state'.scope.get? name = some y) : y.ty = x.ty ∧ y.position = x.position := by
  have hkept (hold : state.scope.get? name = some y) : y.ty = x.ty ∧ y.position = x.position := by
    rw [hx] at hold
    cases hold
    exact ⟨rfl, rfl⟩
  cases h with
  | pushdName | drop =>
    apply hkept
    exact Scope.get?_of_get?_erase hy
  | pop => exact absurd rfl hs
  | var hrefusal =>
    -- the name that is declared was free
    obtain ⟨-, -, hfree⟩ := Scope.refusal?_eq_none_iff.1 hrefusal
    rcases Scope.get?_insert_cases hy with ⟨rfl, -⟩ | ⟨-, hold⟩
    · rw [hfree] at hx
      cases hx
    · exact hkept hold
  | move hz hread =>
    rcases Scope.get?_insert_cases hy with ⟨rfl, rfl⟩ | ⟨-, hold⟩
    · rw [hz] at hx
      cases hx
      exact ⟨rfl, rfl⟩
    · exact hkept hold
  | _ => exact hkept hy

theorem moved_of_effect {name text : Text} (h : Effect last (.move name text) state state') :
    ∃ x value, state.scope.get? name = some x ∧
      state'.scope.get? name = some { x with value? := some value } := by
  cases h with
  | @move _ _ x value _ hx hread =>
    refine ⟨x, value, hx, ?_⟩
    apply Scope.get?_insert_self

theorem popped_of_effect {name : Text} (h : Effect last (.pop (some name)) state state') :
    ∃ value, state.stack.head? = some value ∧
      state'.scope.get? name = some ⟨name, value.ty, last, some value⟩ := by
  cases h with
  | @pop _ x value stack scope sink hx =>
    refine ⟨value, rfl, ?_⟩
    apply Scope.get?_insert_self

theorem stack_of_effect (h : Effect last s state state') :
    s.takes ≤ state.stack.length ∧
      ∃ top : Option Value, state'.stack = top.toList ++ state.stack.drop s.takes := by
  cases h with
  | @pushLiteral _ _ value | @pushdLiteral _ _ value | @pushName _ value | @pushdName _ _ value =>
    exact ⟨Nat.zero_le _, some value, rfl⟩
  | @arith op a b value stack =>
    refine ⟨?_, some value, rfl⟩
    simp only [takes, List.length_cons]
    omega
  | @discard value stack | @pop _ _ value stack | @print value stack =>
    refine ⟨?_, none, rfl⟩
    simp only [takes, List.length_cons]
    omega
  | drop | var | move | printVariable => exact ⟨Nat.zero_le _, none, rfl⟩

theorem sink_of_effect (h : Effect last s state state') (hs : s.mnemonic ≠ .print) :
    state'.sink = state.sink := by
  cases h with
  | print | printVariable => exact absurd rfl hs
  | _ => rfl

end Effect

theorem names_of_forms {first : Token} {operands : List Token} {s : Statement}
    (h : Forms first operands s) {name : Text} (hname : s.subject? = some name) :
    Token.Names operands name := by
  cases h with
  | push h | pushd h =>
    cases h with
    | name hkind => exact ⟨_, List.mem_cons_self, hkind, hname⟩
    | literal => cases hname
  | pop hkind | drop hkind => exact ⟨_, List.mem_cons_self, hkind, hname⟩
  | var hkind hty hident htext =>
    cases hname
    exact ⟨_, List.mem_cons_of_mem _ List.mem_cons_self, hident, htext⟩
  | move hident htext =>
    cases hname
    exact ⟨_, List.mem_cons_self, hident, htext⟩
  | printVariable hpayload hident htext =>
    cases hname
    exact ⟨_, List.mem_cons_self, hident, htext⟩
  | arith | discard | print => cases hname

theorem exists_operand_of_pop {first : Token} {operands : List Token} {name? : Option Text}
    (h : Forms first operands (.pop name?)) : ∃ token, operands = [token] := by
  cases h with
  | @pop token hkind => exact ⟨token, rfl⟩

theorem frame_of_effect {first : Token} {operands rest : List Token} {s : Statement}
    (hforms : Forms first operands s) {before after : State σ}
    (h : Effect (Cursor.behind first.position operands rest).last s before after) :
    s.Frame operands before after where
  others := by
    intro name hname
    apply get?_of_effect h
    intro hsubject
    exact hname (names_of_forms hforms hsubject)
  scope := scope_of_effect h
  described := by
    intro hs name x y hx hy
    exact described_of_effect h hs hx hy
  moved := by
    rintro name text rfl
    exact moved_of_effect h
  popped := by
    rintro name rfl
    obtain ⟨token, rfl⟩ := exists_operand_of_pop hforms
    obtain ⟨value, hvalue, hafter⟩ := popped_of_effect h
    exact ⟨token, value, rfl, hvalue, hafter⟩
  stack := stack_of_effect h
  sink := sink_of_effect h

end Statement

/--
A step that succeeds finds the end of the program and changes nothing, or it executes a statement
and leaves alone what `Statement.Frame` says: the variables that its operands do not name, the
values below those that it takes off the stack, the type and the position of a variable unless it
pops a value into it, and the sink unless it prints.
-/
theorem frame_of_successful_step {machine : Machine σ} {t : Transition σ}
    (h : machine.next = some t) (hsuccess : t.fault? = none) :
    (∃ first rest, machine.cursor.tokens = first :: rest ∧ first.kind = .eof ∧
      t.after.state = machine.state) ∨
    ∃ first operands rest s, machine.Faces first operands rest s ∧
      s.Frame operands machine.state t.after.state := by
  have hstep := Machine.step_of_next h
  generalize t.after = after, t.fault? = fault? at hstep hsuccess
  cases hstep with
  | exhausted | refuse => cases hsuccess
  | @finish first rest htokens hkind => exact .inl ⟨first, rest, htokens, hkind, rfl⟩
  | @exec first operands rest s outcome hfaces houtcome =>
    right
    refine ⟨first, operands, rest, s, hfaces, ?_⟩
    subst houtcome
    apply Statement.frame_of_effect hfaces.forms
    apply Statement.effect_of_exec hsuccess

theorem frame_of_successful_step_retyped :
    let x : Variable := ⟨['x'], .int, ⟨1, ⟨0, 9⟩⟩, none⟩
    let y : Variable := ⟨['y'], .bool, ⟨2, ⟨10, 10⟩⟩, some (.bool true)⟩
    let machine : Machine Store :=
      ⟨Cursor.start ((Statement.pop (some ['x'])).tokens ⟨5, ⟨40, 5⟩⟩),
        ⟨[.str ['a'], .int 7], [(['x'], x), (['y'], y)], Store.empty none⟩, true⟩
    ∃ t, machine.next = some t ∧ t.fault? = none ∧
      t.after.state.scope.get? ['x'] = some ⟨['x'], .string, ⟨5, ⟨40, 5⟩⟩, some (.str ['a'])⟩ ∧
      t.after.state.scope.get? ['y'] = some y ∧ [.int 7] <:+ t.after.state.stack ∧
      t.after.state.sink = Store.empty none := by
  intro x y machine
  have hnext : machine.next = some ⟨machine, machine.step.1, machine.step.2⟩ := rfl
  refine ⟨_, hnext, rfl, ?_⟩
  rcases frame_of_successful_step hnext rfl with
    ⟨first, rest, htokens, hkind, -⟩ | ⟨first, operands, rest, s, hfaces, hframe⟩
  · cases htokens
    cases hkind
  · obtain ⟨htokens, hkind, hforms⟩ := hfaces
    obtain ⟨rfl, hoperands⟩ := List.cons.inj htokens
    cases hforms with
    | @pop token hident =>
      cases hoperands
      obtain ⟨_, _, ⟨⟩, ⟨⟩, hx⟩ := hframe.popped ['x'] rfl
      obtain ⟨-, top, hstack⟩ := hframe.stack
      refine ⟨hx, hframe.others ['y'] ?_, ⟨top.toList, hstack.symm⟩, hframe.sink nofun⟩
      rintro ⟨token, htoken, -, hname⟩
      rw [List.mem_singleton] at htoken
      subst htoken
      cases hname
    | discard hdrop =>
      cases hoperands
      cases hdrop
    | _ => cases hkind

end Stackline
