import Stackline.Proofs.Group
import Stackline.Proofs.Source.Lines
import Stackline.Proofs.Typing

/-!
Values that are printed on one line. A literal stands on a line of the source, numbers and Booleans
have no newline in their texts, and joining texts or filling holes brings none in, so that no string
of a program that was read from a source has one.
-/

namespace Stackline

variable {σ : Type} [Sink σ]

theorem Integer.newline_not_mem_toDigits (n : Nat) : '\n' ∉ Nat.toDigits 10 n :=
  not_mem_toDigits rfl n

theorem Integer.newline_not_mem_text (n : Int) : '\n' ∉ text n := by
  unfold text
  split <;> simp [newline_not_mem_toDigits]

namespace Decimal

variable (d : Decimal)

theorem newline_not_mem_digits : '\n' ∉ d.digits := by
  apply Integer.newline_not_mem_toDigits

theorem newline_not_mem_leftpad {digits : Text} (h : '\n' ∉ digits) (length : Nat) :
    '\n' ∉ digits.leftpad length '0' := by
  simp [List.leftpad, h]

theorem newline_not_mem_positional : '\n' ∉ d.positional := by
  have hdigits := d.newline_not_mem_digits
  unfold positional
  split
  · simp [hdigits]
  · have hpadded := newline_not_mem_leftpad hdigits (d.exponent.natAbs + 1)
    intro h
    rcases List.mem_append.1 h with h | h
    · exact hpadded (List.mem_of_mem_take h)
    · rcases List.mem_cons.1 h with h | h
      · cases h
      · exact hpadded (List.mem_of_mem_drop h)

theorem newline_not_mem_mantissa {digits : Text} (h : '\n' ∉ digits) :
    '\n' ∉ scientific.mantissa digits := by
  unfold scientific.mantissa
  split
  · simpa using h
  · exact h

theorem newline_not_mem_signed (e : Int) : '\n' ∉ scientific.signed e := by
  have hpadded := newline_not_mem_leftpad (Integer.newline_not_mem_toDigits e.natAbs) 2
  unfold scientific.signed
  split <;> simpa using hpadded

theorem newline_not_mem_scientific : '\n' ∉ d.scientific := by
  have hmantissa := newline_not_mem_mantissa d.newline_not_mem_digits
  simp [scientific, hmantissa, newline_not_mem_signed]

end Decimal

theorem Double.newline_not_mem_text (x : Float) : '\n' ∉ text x := by
  have hmagnitude : '\n' ∉ magnitude x := by
    unfold magnitude
    split
    · apply Decimal.newline_not_mem_scientific
    · apply Decimal.newline_not_mem_positional
  unfold text
  split
  · decide
  · rw [List.mem_append, not_or]
    constructor
    · split <;> decide
    · split
      · decide
      · exact hmagnitude

namespace Value

def OneLine : Value → Prop
  | .str t => '\n' ∉ t
  | _ => True

theorem OneLine.newline_not_mem_display {value : Value} (h : value.OneLine) :
    '\n' ∉ value.display := by
  cases value with
  | int n => apply Integer.newline_not_mem_text
  | float x => apply Double.newline_not_mem_text
  | bool b => cases b <;> decide
  | str t => exact h

end Value

namespace Operator

theorem oneLine_of_exactly {word? : Option Int64} {value : Value}
    (h : exactly word? = .ok value) : value.OneLine := by
  unfold exactly at h
  split at h
  · cases h
    exact True.intro
  · cases h

theorem oneLine_of_onInts {op : Operator} {a b : Int64} {value : Value}
    (h : op.onInts a b = .ok value) : value.OneLine := by
  unfold onInts at h
  split at h
  next => exact oneLine_of_exactly h
  next => exact oneLine_of_exactly h
  next => exact oneLine_of_exactly h
  next => exact oneLine_of_exactly h
  next =>
    cases h
    exact True.intro
  next =>
    split at h
    next =>
      cases h
      exact True.intro
    next => exact oneLine_of_exactly h

theorem oneLine_of_apply {op : Operator} {a b value : Value} (ha : a.OneLine) (hb : b.OneLine)
    (h : op.apply a b = .ok value) : value.OneLine := by
  unfold apply at h
  split at h
  · cases h
  · split at h
    next => exact oneLine_of_onInts h
    next =>
      cases h
      exact True.intro
    next =>
      cases h
      exact True.intro
    next =>
      cases h
      exact True.intro
    next =>
      cases h
      simp [Value.OneLine, ha.newline_not_mem_display, hb.newline_not_mem_display]

end Operator

namespace Scope

def OneLine (scope : Scope) : Prop :=
  ∀ x ∈ scope.held, ∀ value, x.value? = some value → value.OneLine

theorem mem_held_of_get? {scope : Scope} {name : Text} {x : Variable}
    (h : scope.get? name = some x) : x ∈ scope.held :=
  List.mem_map.2 ⟨(name, x), mem_of_get? h, rfl⟩

namespace OneLine

variable {scope : Scope} (h : scope.OneLine)

include h

theorem read {name : Text} {value : Value} (hread : scope.read name = .ok value) :
    value.OneLine := by
  unfold Scope.read at hread
  split at hread
  next => cases hread
  next x hx =>
    split at hread
    next => cases hread
    next v hv =>
      cases hread
      exact h x (mem_held_of_get? hx) value hv

theorem erase (name : Text) : (scope.erase name).OneLine := by
  intro x hx
  apply h
  exact (List.filter_sublist.map Prod.snd).mem hx

theorem insert {x : Variable} (hx : ∀ value, x.value? = some value → value.OneLine) (name : Text) :
    (scope.insert name x).OneLine := by
  unfold Scope.OneLine
  rw [held, Scope.insert, List.map_cons, List.forall_mem_cons]
  exact ⟨hx, h.erase name⟩

end OneLine
end Scope

theorem Template.newline_not_mem_fill {scope : Scope} (hscope : scope.OneLine) {template : Template}
    (hsource : '\n' ∉ template.source) {t : Text} (h : template.fill scope = .ok t) : '\n' ∉ t := by
  induction template generalizing t with
  | plain text =>
    cases h
    exact hsource
  | hole before name rest ih =>
    obtain ⟨value, hvalue, h⟩ := Result.bind_eq_ok_iff.1 h
    obtain ⟨filled, hfilled, h⟩ := Result.bind_eq_ok_iff.1 h
    cases h
    have hdisplay := (hscope.read hvalue).newline_not_mem_display
    simp only [source, List.mem_append, List.mem_cons, not_or] at hsource
    have hrest := ih hsource.2.2 hfilled
    simp [hsource.1, hdisplay, hrest]

namespace Literal

theorem mem_of_unquote {text inner : Text} (h : unquote text = .ok inner) {c : Char}
    (hc : c ∈ inner) : c ∈ text := by
  unfold unquote at h
  split at h
  next rest =>
    split at h
    next =>
      cases h
      exact List.mem_cons_of_mem _ ((List.dropLast_sublist rest).mem hc)
    next => cases h
  next => cases h

theorem oneLine_of_read {scope : Scope} (hscope : scope.OneLine) {ty : Ty} {text : Text}
    (htext : '\n' ∉ text) {value : Value} (h : read scope ty text = .ok value) : value.OneLine := by
  cases value with
  | str t =>
    cases ty with
    | string =>
      obtain ⟨inner, hinner, h⟩ := Result.bind_eq_ok_iff.1 h
      obtain ⟨filled, hfilled, h⟩ := Result.bind_eq_ok_iff.1 h
      cases h
      apply Template.newline_not_mem_fill hscope _ hfilled
      rw [Template.source_parse]
      intro hnewline
      exact htext (mem_of_unquote hinner hnewline)
    | _ => cases admits_of_read h
  | _ => exact True.intro

end Literal

structure State.OneLine (state : State σ) : Prop where
  stack : ∀ value ∈ state.stack, value.OneLine
  scope : state.scope.OneLine

omit [Sink σ] in
theorem State.oneLine_start (sink : σ) : (State.start sink).OneLine :=
  ⟨nofun, nofun⟩

namespace Statement

/--
No name and no literal of a statement has a newline.
-/
def OneLine (s : Statement) : Prop :=
  ∀ kind t, (kind, some (.text t)) ∈ s.shape → '\n' ∉ t

variable {s : Statement} (hs : s.OneLine)

include hs

theorem oneLine_of_effect {last : Position} {state state' : State σ}
    (heffect : Effect last s state state') (h : state.OneLine) : state'.OneLine := by
  -- every rule keeps the values that it does not name
  obtain ⟨hstack, hscope⟩ := h
  cases heffect with
  | pushLiteral hread | pushdLiteral hread =>
    have hvalue := Literal.oneLine_of_read hscope (hs .value _ (by simp [shape, operandShape])) hread
    exact ⟨List.forall_mem_cons.2 ⟨hvalue, hstack⟩, hscope⟩
  | pushName hread => exact ⟨List.forall_mem_cons.2 ⟨hscope.read hread, hstack⟩, hscope⟩
  | pushdName hx hvalue =>
    have hv := hscope _ (Scope.mem_held_of_get? hx) _ hvalue
    exact ⟨List.forall_mem_cons.2 ⟨hv, hstack⟩, hscope.erase _⟩
  | arith hbool happly =>
    rw [List.forall_mem_cons, List.forall_mem_cons] at hstack
    obtain ⟨ha, hb, hstack⟩ := hstack
    exact ⟨List.forall_mem_cons.2 ⟨Operator.oneLine_of_apply ha hb happly, hstack⟩, hscope⟩
  | discard => exact ⟨(List.forall_mem_cons.1 hstack).2, hscope⟩
  | pop hx =>
    rw [List.forall_mem_cons] at hstack
    refine ⟨hstack.2, hscope.insert ?_ _⟩
    intro value hvalue
    cases hvalue
    exact hstack.1
  | drop hx => exact ⟨hstack, hscope.erase _⟩
  | var hrefusal =>
    refine ⟨hstack, hscope.insert ?_ _⟩
    intro value hvalue
    cases hvalue
  | move hx hread =>
    refine ⟨hstack, hscope.insert ?_ _⟩
    intro value hvalue
    cases hvalue
    exact Literal.oneLine_of_read hscope (hs .value _ (by simp [shape])) hread
  | print hwrite => exact ⟨(List.forall_mem_cons.1 hstack).2, hscope⟩
  | printVariable hread hwrite => exact ⟨hstack, hscope⟩

omit hs in
theorem oneLine_of_residue {state state' : State σ} (hresidue : Residue s state state')
    (h : state.OneLine) : state'.OneLine := by
  obtain ⟨hstack, hscope⟩ := h
  cases hresidue with
  | unchanged => exact ⟨hstack, hscope⟩
  | pushdName hx hvalue => exact ⟨hstack, hscope.erase _⟩
  | arith hfails => exact ⟨(List.forall_mem_cons.1 (List.forall_mem_cons.1 hstack).2).2, hscope⟩
  | print hwrite => exact ⟨(List.forall_mem_cons.1 hstack).2, hscope⟩
  | printVariable hread hwrite => exact ⟨hstack, hscope⟩

theorem oneLine_exec (first last : Position) {state : State σ} (h : state.OneLine) :
    (s.exec first last state).state.OneLine := by
  cases hfault : (s.exec first last state).fault? with
  | none => exact oneLine_of_effect hs (effect_of_exec hfault) h
  | some fault => exact oneLine_of_residue (residue_of_exec hfault).1 h

end Statement

theorem Block.oneLine_exec {block : Block} (hblock : ∀ i ∈ block, i.statement.OneLine)
    {state : State σ} (h : state.OneLine) : (block.exec state).state.OneLine := by
  apply exec_invariant_of_mem _ h
  intro i hi state hstate
  exact Statement.oneLine_exec (hblock i hi) i.position i.position hstate

namespace Group

theorem name_of_mem {m : Mnemonic} {name? : Option Text} {kind : Kind} {t : Text}
    (h : (kind, some (.text t)) ∈ [(Kind.instruction m, none), (.ident, name?.map Payload.text)]) :
    name? = some t := by
  have hname : name?.map Payload.text = some (.text t) := by
    simp only [List.mem_cons, Prod.mk.injEq, reduceCtorEq, and_false, List.not_mem_nil, or_false,
      false_or] at h
    exact h.2.symm
  obtain ⟨name, hsome, heq⟩ := Option.map_eq_some_iff.1 hname
  cases heq
  exact hsome

theorem WellFormed.isPhrase_of_mem {g : Group} (h : g.WellFormed) {kind : Kind} {t : Text}
    (ht : (kind, some (.text t)) ∈ g) : t.IsPhrase := by
  cases h with
  | name hm hname => exact (hname t (name_of_mem ht)).isPhrase
  | pop hname => exact (hname t (name_of_mem ht)).1
  | drop hname => exact hname t (name_of_mem ht)
  | literal hm htext =>
    obtain ⟨-, rfl⟩ : kind = .value ∧ t = _ := by simpa using ht
    exact htext
  | var hname | printVariable hname =>
    obtain ⟨-, rfl⟩ : kind = .ident ∧ t = _ := by simpa using ht
    exact hname
  | move hname hdigits htext =>
    obtain ⟨-, rfl⟩ | ⟨-, rfl⟩ : kind = .ident ∧ t = _ ∨ kind = .value ∧ t = _ := by simpa using ht
    · exact hname.isPhrase
    · exact htext
  | arith | discard | print => simp at ht

end Group

namespace Source

theorem oneLine_of_mem_block {source : Text} {i : Instruction} (h : i ∈ block source) :
    i.statement.OneLine := by
  obtain ⟨line, hline, hi⟩ := List.mem_filterMap.1 h
  obtain ⟨hparse, -⟩ := Line.parse_of_instruction? hi
  have hwf := Group.wellFormed_of_parse (Line.isPhrase_trimmed hline) hparse
  intro kind t ht
  exact (hwf.isPhrase_of_mem ht).newline

theorem oneLine_afterSteps {source : Text} {tokens : List Token} (h : lex source = .ok tokens)
    (sink : σ) (count : Nat) :
    ((Machine.start tokens sink).afterSteps
      ((Machine.start tokens sink).steps count)).state.OneLine := by
  rw [state_afterSteps h]
  apply Block.oneLine_exec
  · intro i hi
    exact oneLine_of_mem_block (List.mem_of_mem_take hi)
  · apply State.oneLine_start

end Source
end Stackline
