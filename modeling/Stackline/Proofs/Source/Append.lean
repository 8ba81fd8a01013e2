import Stackline.Proofs.Displacement
import Stackline.Proofs.Source.Lex

/-!
Sources put behind one another. A source that is empty or ends in a newline keeps its own lines, and
those of the source behind it are only displaced.
-/

namespace Stackline

def Line.shift (d : Displacement) (line : Line) : Line :=
  ⟨line.number + d.lines, line.offset + d.bytes, line.text⟩

namespace Line

theorem position_shift (d : Displacement) (line : Line) :
    (line.shift d).position = line.position.shift d := by
  simp only [position, trimmed, shift, Position.shift, Span.shift, Position.mk.injEq,
    Span.mk.injEq, true_and, and_true]
  omega

theorem instruction?_shift (d : Displacement) (line : Line) :
    (line.shift d).instruction? = line.instruction?.map (Instruction.shift d) := by
  have hparse : (line.shift d).parse = line.parse := rfl
  rw [instruction?, instruction?, hparse, position_shift]
  cases line.parse <;> rfl

end Line

namespace Source

def IsWhole (source : Text) : Prop :=
  source = [] ∨ source.getLast? = some '\n'

/--
How far a source and its output displace what is put behind it.
-/
def displacement (source : Text) (output : Array UInt8) : Displacement :=
  ⟨(lines source).length, source.byteLength, output⟩

theorem locate_shift (d : Displacement) (number offset : Nat) (xs : List Text) :
    locate (number + d.lines) (offset + d.bytes) xs =
      (locate number offset xs).map (Line.shift d) := by
  induction xs generalizing number offset with
  | nil => rfl
  | cons x xs ih =>
    have hnumber : number + d.lines + 1 = number + 1 + d.lines := by omega
    have hoffset : offset + d.bytes + x.byteLength = offset + x.byteLength + d.bytes := by omega
    rw [locate, locate, List.map_cons, hnumber, hoffset, ih]
    rfl

theorem length_locate (number offset : Nat) (xs : List Text) :
    (locate number offset xs).length = xs.length := by
  induction xs generalizing number offset with
  | nil => rfl
  | cons x xs ih => rw [locate, List.length_cons, List.length_cons, ih]

theorem cutLines_append {s : Text} (h : IsWhole s) (t : Text) :
    cutLines (s ++ t) = cutLines s ++ cutLines t := by
  rcases h with rfl | h
  · rfl
  · obtain ⟨s, rfl⟩ := List.getLast?_eq_some_iff.1 h
    rw [List.append_assoc]
    exact cutLines_newline_append s t

section Append

variable {s : Text} (h : IsWhole s) (t : Text) (output : Array UInt8)

include h

theorem lines_append :
    lines (s ++ t) = lines s ++ (lines t).map (Line.shift (displacement s output)) := by
  rw [lines, cutLines_append h, locate_append, flatten_cutLines]
  congr 1
  rw [lines, ← locate_shift]
  simp only [displacement, lines, length_locate]

theorem codeLines_append :
    codeLines (s ++ t) = codeLines s ++ (codeLines t).map (Line.shift (displacement s output)) := by
  rw [codeLines, lines_append h t output, List.filter_append, List.filter_map]
  rfl

theorem block_append :
    block (s ++ t) = block s ++ (block t).shift (displacement s output) := by
  rw [block, codeLines_append h t output, List.filterMap_append, List.filterMap_map]
  congr 1
  rw [Block.shift, block, List.map_filterMap]
  congr 1
  funext line
  exact line.instruction?_shift (displacement s output)

theorem wellFormed_append : WellFormed (s ++ t) ↔ WellFormed s ∧ WellFormed t := by
  rw [WellFormed, codeLines_append h t #[], List.forall_mem_append, List.forall_mem_map]
  rfl

theorem position_endToken_append :
    (endToken (s ++ t)).position =
      (endToken t).position.shift (displacement s output) := by
  simp only [endToken, lines_append h t output, Position.shift, Span.shift, displacement,
    List.length_append, List.length_map, Text.byteLength_append, Position.mk.injEq, Span.mk.injEq,
    and_true]
  omega

end Append
end Source
end Stackline
