import Stackline.Proofs.Machine.Steps
import Stackline.Proofs.Statement.Effect

/-!
The variables in scope are well-formed at all times, whatever tokens a machine is given: each has a
name that may be declared, and a value that suits its type.
-/

namespace Stackline

variable {σ : Type} [Sink σ]

/--
The values that a variable of a type can have. A NaN is not below zero.
-/
def Ty.Admits : Ty → Value → Prop
  | .int, .int _ => True
  | .uint, .int n => 0 ≤ n
  | .float, .float _ => True
  | .ufloat, .float x => ¬ x < 0
  | .bool, .bool _ => True
  | .string, .str _ => True
  | _, _ => False

theorem Value.admits_ty (value : Value) : value.ty.Admits value := by
  cases value <;> exact True.intro

theorem Literal.admits_of_read {scope : Scope} {ty : Ty} {text : Text} {value : Value}
    (h : read scope ty text = .ok value) : ty.Admits value := by
  cases ty with
  | int =>
    obtain ⟨n, -, rfl⟩ := Result.map_eq_ok_iff.1 h
    exact True.intro
  | uint =>
    obtain ⟨n, -, h⟩ := Result.bind_eq_ok_iff.1 h
    split at h
    next => cases h
    next hn =>
      cases h
      exact Int64.not_lt.1 hn
  | float =>
    obtain ⟨x, -, rfl⟩ := Result.map_eq_ok_iff.1 h
    exact True.intro
  | ufloat =>
    obtain ⟨x, -, h⟩ := Result.bind_eq_ok_iff.1 h
    split at h
    next => cases h
    next hx =>
      cases h
      exact hx
  | bool =>
    obtain ⟨b, -, rfl⟩ := Result.map_eq_ok_iff.1 h
    exact True.intro
  | string =>
    obtain ⟨inner, -, h⟩ := Result.bind_eq_ok_iff.1 h
    obtain ⟨t, -, h⟩ := Result.bind_eq_ok_iff.1 h
    cases h
    exact True.intro

structure Variable.Valid (x : Variable) : Prop where
  not_reserved : isReserved x.name = false
  not_bad : hasBadCharacter x.name = false
  admits : ∀ value, x.value? = some value → x.ty.Admits value

theorem Variable.Valid.assign {x : Variable} (h : x.Valid) {ty : Ty} {value : Value}
    (hadmits : ty.Admits value) (position : Position) :
    Variable.Valid ⟨x.name, ty, position, some value⟩ := by
  refine ⟨h.not_reserved, h.not_bad, ?_⟩
  intro assigned hassigned
  cases hassigned
  exact hadmits

namespace Scope

/--
Each variable is found under its own name, and there is one variable under each name.
-/
structure Valid (scope : Scope) : Prop where
  named : ∀ entry ∈ scope, entry.2.name = entry.1
  nodup : (scope.map Prod.fst).Nodup
  valid : ∀ entry ∈ scope, entry.2.Valid

theorem valid_nil : Valid [] :=
  ⟨nofun, List.nodup_nil, nofun⟩

namespace Valid

theorem erase {scope : Scope} (h : scope.Valid) (name : Text) : (scope.erase name).Valid := by
  have hsublist : (scope.erase name).Sublist scope := List.filter_sublist
  constructor
  · intro entry hentry
    exact h.named entry (hsublist.mem hentry)
  · exact h.nodup.sublist (hsublist.map Prod.fst)
  · intro entry hentry
    exact h.valid entry (hsublist.mem hentry)

theorem insert {scope : Scope} (h : scope.Valid) {name : Text} {x : Variable}
    (hname : x.name = name) (hx : x.Valid) : (scope.insert name x).Valid := by
  have herase := h.erase name
  constructor
  · rw [Scope.insert, List.forall_mem_cons]
    exact ⟨hname, herase.named⟩
  · rw [Scope.insert, List.map_cons, List.nodup_cons]
    refine ⟨?_, herase.nodup⟩
    intro hmem
    obtain ⟨entry, hentry, rfl⟩ := List.mem_map.1 hmem
    have hne := (List.mem_filter.1 hentry).2
    simp at hne
  · rw [Scope.insert, List.forall_mem_cons]
    exact ⟨hx, herase.valid⟩

theorem of_get? {scope : Scope} (h : scope.Valid) {name : Text} {x : Variable}
    (hx : scope.get? name = some x) : x.name = name ∧ x.Valid :=
  ⟨h.named _ (mem_of_get? hx), h.valid _ (mem_of_get? hx)⟩

end Valid

end Scope

namespace Statement

theorem valid_of_effect {last : Position} {s : Statement} {state state' : State σ}
    (heffect : Effect last s state state') (h : state.scope.Valid) : state'.scope.Valid := by
  cases heffect with
  | pushdName hx hvalue => exact h.erase _
  | drop hx => exact h.erase _
  | var hrefusal =>
    obtain ⟨hreserved, hbad, -⟩ := Scope.refusal?_eq_none_iff.1 hrefusal
    exact h.insert rfl ⟨hreserved, hbad, nofun⟩
  | move hx hread =>
    -- the literal was read according to the type that the variable has now
    obtain ⟨hname, hvalid⟩ := h.of_get? hx
    exact h.insert hname (hvalid.assign (Literal.admits_of_read hread) _)
  | pop hx =>
    -- the name has passed the checks when the variable was declared
    obtain ⟨rfl, hvalid⟩ := h.of_get? hx
    exact h.insert rfl (hvalid.assign (Value.admits_ty _) _)
  | _ => exact h

theorem valid_of_residue {s : Statement} {state state' : State σ}
    (hresidue : Residue s state state') (h : state.scope.Valid) : state'.scope.Valid := by
  cases hresidue with
  | pushdName hx hvalue => exact h.erase _
  | _ => exact h

theorem valid_exec (s : Statement) (first last : Position) (state : State σ)
    (h : state.scope.Valid) : (s.exec first last state).state.scope.Valid := by
  cases hfault : (s.exec first last state).fault? with
  | none => exact valid_of_effect (effect_of_exec hfault) h
  | some fault => exact valid_of_residue (residue_of_exec hfault).1 h

end Statement

/--
Whatever tokens a machine is given, after each of its steps, also one that failed, all variables
are found under their own names, no two under the same, and each has a name that may be declared
and a value of its type, if it has one.
-/
theorem scope_valid_afterSteps (tokens : List Token) (sink : σ) (count : Nat) :
    let machine := Machine.start tokens sink
    let scope := (machine.afterSteps (machine.steps count)).state.scope
    (∀ entry ∈ scope, entry.2.name = entry.1) ∧
      (scope.held.map Variable.name).Nodup ∧
      ∀ x ∈ scope.held,
        (∀ word ∈ reservedWords, ¬ Text.eqFold x.name word.toList) ∧
        (∀ c ∈ x.name, c ∉ [' ', '(', ')', '{', '}', '[', ']']) ∧
        ∀ value, x.value? = some value → x.ty.Admits value := by
  intro machine scope
  have hvalid : scope.Valid := by
    apply Machine.steps_invariant (P := fun state => state.scope.Valid)
    · exact Statement.valid_exec
    · exact Scope.valid_nil
  refine ⟨hvalid.named, ?_, ?_⟩
  · have hnames : scope.held.map Variable.name = scope.map Prod.fst := by
      rw [Scope.held, List.map_map]
      apply List.map_congr_left
      exact hvalid.named
    rw [hnames]
    exact hvalid.nodup
  · intro x hx
    obtain ⟨entry, hentry, rfl⟩ := List.mem_map.1 hx
    obtain ⟨hreserved, hbad, hadmits⟩ := hvalid.valid entry hentry
    refine ⟨?_, ?_, hadmits⟩
    · exact List.any_eq_false.1 hreserved
    · simpa [hasBadCharacter] using hbad

end Stackline
