import Stackline.Proofs.Machine.Steps
import Stackline.Proofs.Statement.Decode

/-!
What one step of a machine can be, by the tokens in front of it. The tokens need not stem from a
source: an instruction may lack its operands, and any token may stand in their place.
-/

namespace Stackline

variable {σ : Type} [Sink σ]

namespace Machine

/--
The next tokens of a machine form a statement.
-/
structure Faces (machine : Machine σ) (first : Token) (operands rest : List Token) (s : Statement) :
    Prop where
  tokens : machine.cursor.tokens = first :: (operands ++ rest)
  kind : first.kind = .instruction s.mnemonic
  forms : Statement.Forms first operands s

/--
A step of a machine, with the machine behind it and the fault that stopped it, if one did.
-/
inductive Step (machine : Machine σ) : Machine σ → Option Fault → Prop where
  | exhausted (h : machine.cursor.tokens = []) :
    Step machine { machine with running := false } (some (.located machine.cursor.last .outOfTokens))
  | finish {first rest} (h : machine.cursor.tokens = first :: rest) (hkind : first.kind = .eof) :
    Step machine ⟨⟨first.position, rest⟩, machine.state, false⟩
      (machine.state.finish first.position).fault?
  /-- The token begins no instruction, or one that can not be decoded or executed. -/
  | refuse {first rest fault} (h : machine.cursor.tokens = first :: rest) :
    Step machine ⟨⟨first.position, rest⟩, machine.state, false⟩ (some fault)
  | exec {first operands rest s outcome} (h : machine.Faces first operands rest s)
    (houtcome : s.exec first.position (Cursor.behind first.position operands rest).last
      machine.state = outcome) :
    Step machine ⟨Cursor.behind first.position operands rest, outcome.state, outcome.fault?.isNone⟩
      outcome.fault?

section Equations

variable {machine : Machine σ} {first : Token} {rest : List Token}

theorem step_of_nil (h : machine.cursor.tokens = []) :
    machine.step =
      ({ machine with running := false }, some (.located machine.cursor.last .outOfTokens)) := by
  simp only [step, Cursor.next, h]

theorem step_of_cons (h : machine.cursor.tokens = first :: rest) :
    machine.step =
      let result := execute first ⟨first.position, rest⟩ machine.state
      (⟨result.1, result.2.state, result.2.fault?.isNone && first.kind ≠ .eof⟩,
        result.2.fault?) := by
  simp only [step, Cursor.next, h]

theorem step_of_eof (h : machine.cursor.tokens = first :: rest) (hkind : first.kind = .eof) :
    machine.step =
      (⟨⟨first.position, rest⟩, machine.state, false⟩,
        (machine.state.finish first.position).fault?) := by
  rw [step_of_cons h]
  simp [execute, hkind, State.state_finish]

theorem step_of_refuse {fault : Fault} (h : machine.cursor.tokens = first :: rest)
    (hexecute : execute first ⟨first.position, rest⟩ machine.state =
      (⟨first.position, rest⟩, ⟨machine.state, some fault⟩)) :
    machine.step = (⟨⟨first.position, rest⟩, machine.state, false⟩, some fault) := by
  rw [step_of_cons h, hexecute]
  rfl

theorem step_of_faces {operands : List Token} {s : Statement}
    (h : machine.Faces first operands rest s)
    (hpop : s.mnemonic = .pop → machine.state.stack ≠ []) :
    let cursor := Cursor.behind first.position operands rest
    let outcome := s.exec first.position cursor.last machine.state
    machine.step = (⟨cursor, outcome.state, outcome.fault?.isNone⟩, outcome.fault?) := by
  have hunderflow : ¬ (s.mnemonic = .pop && machine.state.stack.isEmpty) := by
    intro hboth
    simp only [Bool.and_eq_true, decide_eq_true_eq, List.isEmpty_iff] at hboth
    exact hpop hboth.1 hboth.2
  rw [step_of_cons h.tokens, execute, h.kind]
  simp only [if_neg hunderflow, Statement.decode_of_forms h.forms]
  simp

end Equations

theorem step_spec (machine : Machine σ) : machine.Step machine.step.1 machine.step.2 := by
  cases htokens : machine.cursor.tokens with
  | nil =>
    rw [step_of_nil htokens]
    exact .exhausted htokens
  | cons first rest =>
    cases hkind : first.kind with
    | eof =>
      rw [step_of_eof htokens hkind]
      exact .finish htokens hkind
    | instruction m =>
      by_cases hunderflow : (m = .pop && machine.state.stack.isEmpty) = true
      · rw [step_of_refuse htokens (by rw [execute, hkind]; exact if_pos hunderflow)]
        exact .refuse htokens
      · cases hdecode : Statement.decode m first ⟨first.position, rest⟩ with
        | error fault =>
          have hexecute : execute first ⟨first.position, rest⟩ machine.state =
              (⟨first.position, rest⟩, ⟨machine.state, some fault⟩) := by
            rw [execute, hkind]
            simp only [if_neg hunderflow, hdecode]
          rw [step_of_refuse htokens hexecute]
          exact .refuse htokens
        | ok decoded =>
          obtain ⟨s, cursor⟩ := decoded
          obtain ⟨rfl, operands, behind, hforms, rfl, -⟩ := Statement.taken_of_decode hdecode
          have hfaces : machine.Faces first operands behind s := ⟨htokens, hkind, hforms⟩
          rw [step_of_faces hfaces (by simpa using hunderflow)]
          exact .exec hfaces rfl
    | type | value | ident =>
      rw [step_of_refuse htokens (by rw [execute, hkind]; rfl)]
      exact .refuse htokens

theorem step_of_next {machine : Machine σ} {t : Transition σ} (h : machine.next = some t) :
    machine.Step t.after t.fault? := by
  cases hrun : machine.running with
  | false =>
    rw [next_eq_none_iff.2 hrun] at h
    cases h
  | true =>
    rw [next_of_running hrun] at h
    cases h
    apply step_spec

/--
The tokens that a step leaves stand at the end of those that it found.
-/
theorem tokens_step_suffix (machine : Machine σ) :
    machine.step.1.cursor.tokens <:+ machine.cursor.tokens := by
  have hstep := machine.step_spec
  generalize machine.step.1 = after, machine.step.2 = fault? at hstep
  cases hstep with
  | exhausted h => exact List.suffix_refl _
  | finish h hkind | refuse h =>
    rw [h]
    exact List.suffix_cons _ _
  | exec h houtcome =>
    rw [h.tokens]
    exact (List.suffix_append _ _).trans (List.suffix_cons _ _)

/--
A step after which the machine is still running has taken a token.
-/
theorem length_tokens_step {machine : Machine σ} (h : machine.step.1.running) :
    machine.step.1.cursor.tokens.length < machine.cursor.tokens.length := by
  have hstep := machine.step_spec
  generalize machine.step.1 = after, machine.step.2 = fault? at hstep h
  cases hstep with
  | exhausted => cases h
  | finish => cases h
  | refuse => cases h
  | exec hfaces houtcome =>
    rw [hfaces.tokens]
    simp only [Cursor.behind, List.length_cons, List.length_append]
    omega

end Machine
end Stackline
