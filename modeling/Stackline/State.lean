import Stackline.Fault
import Stackline.Sink

/-!
What a program has computed so far, and the outcome of computing further.
-/

namespace Stackline

variable {σ : Type}

/--
The state of a program that prints to a sink of the type `σ`.
-/
structure State (σ : Type) where
  /-- The top value comes first. -/
  stack : List Value
  scope : Scope
  sink : σ
  deriving Repr, DecidableEq

/--
A state together with the fault at which the program stopped there, if it did.
-/
structure Outcome (σ : Type) where
  state : State σ
  fault? : Option Fault
  deriving Repr, DecidableEq

namespace State

def start (sink : σ) : State σ :=
  ⟨[], [], sink⟩

def done (state : State σ) : Outcome σ :=
  ⟨state, none⟩

def fail (state : State σ) (position : Position) (cause : Cause) : Outcome σ :=
  ⟨state, some (.located position cause)⟩

def push (state : State σ) (value : Value) : Outcome σ :=
  done { state with stack := value :: state.stack }

/--
Push a value, or stop with the cause why there is none.
-/
def pushOr (state : State σ) (position : Position) : Except Cause Value → Outcome σ
  | .ok value => state.push value
  | .error cause => state.fail position cause

/--
Write the line that prints a value.
-/
def print [Sink σ] (state : State σ) (value : Value) : Outcome σ :=
  let (sink, complete) := Sink.write state.sink (Text.utf8 (value.display ++ ['\n']))
  ⟨{ state with sink }, if complete then none else some .output⟩

end State
end Stackline
