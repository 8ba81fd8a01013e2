import Stackline.Machine
import Stackline.Source

/-!
Running whole programs.
-/

namespace Stackline

variable {σ : Type} [Sink σ]

/--
Execute a list of tokens from the start.
-/
def evaluate (tokens : List Token) (sink : σ) : Outcome σ :=
  let (machine, fault?) := (Machine.start tokens sink).evaluate
  ⟨machine.state, fault?⟩

/--
Read and execute a program. A malformed line anywhere keeps all of it from being executed.
-/
def run (source : Text) (sink : σ) : Outcome σ :=
  match Source.lex source with
  | .error fault => ⟨State.start sink, some fault⟩
  | .ok tokens => evaluate tokens sink

end Stackline
