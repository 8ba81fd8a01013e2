import Stackline.Proofs.Result
import Stackline.Statement.Exec

/-!
Which faults there can be: the causes for which a line can not be read, those for which a literal
has no value, and those for which the execution of a statement stops.
-/

namespace Stackline

namespace Cause

/--
The causes for which a line is malformed.
-/
def isReading : Cause → Bool
  | .unknownInstruction _ | .unknownType _ | .declarationForm | .assignmentForm | .numericName => true
  | _ => false

/--
The causes for which a literal has no value.
-/
def isLiteral : Cause → Bool
  | .incompatibleLiteral _ | .negativeInteger _ | .negativeFloat _ | .invalidBoolean _
  | .missingOpeningQuote | .missingClosingQuote | .unknownVariable _ | .unassigned _ => true
  | _ => false

/--
The causes for which the execution of a statement stops. A variable that is to be printed always
comes with its name.
-/
def isExecution : Cause → Bool
  | .missingName m => m ≠ .print
  | .stackUnderflow _ | .arithmetic _ | .boolOperand _ | .reservedName _ | .badName _
  | .alreadyDefined .. => true
  | cause => cause.isLiteral

theorem isExecution_of_isLiteral {cause : Cause} (h : cause.isLiteral) : cause.isExecution := by
  cases cause with
  | missingName _ | stackUnderflow _ | arithmetic _ | boolOperand _ | reservedName _ | badName _
  | alreadyDefined _ _ => cases h
  | _ => exact h

end Cause

/--
The faults of an execution: the sink may also refuse what is printed.
-/
def Fault.isExecution : Fault → Bool
  | .located _ cause => cause.isExecution
  | .unreadable .. => false
  | .output => true

theorem Scope.isLiteral_of_read {scope : Scope} {name : Text} {cause : Cause}
    (h : scope.read name = .error cause) : cause.isLiteral := by
  unfold read at h
  split at h
  next =>
    cases h
    rfl
  next =>
    split at h
    next =>
      cases h
      rfl
    next => cases h

theorem Template.isLiteral_of_fill {scope : Scope} {template : Template} {cause : Cause}
    (h : template.fill scope = .error cause) : cause.isLiteral := by
  induction template with
  | plain t => cases h
  | hole before name rest ih =>
    rw [fill, Result.bind_eq_error_iff] at h
    rcases h with h | ⟨value, -, h⟩
    · exact Scope.isLiteral_of_read h
    · rw [Result.bind_eq_error_iff] at h
      rcases h with h | ⟨t, -, h⟩
      · exact ih h
      · cases h

namespace Literal

theorem eq_of_readInt_eq_error {text : Text} {cause : Cause} (h : readInt text = .error cause) :
    cause = .incompatibleLiteral text := by
  rw [readInt_eq_readWord, readWord] at h
  split at h
  next => cases h
  next =>
    cases h
    rfl

theorem isLiteral_of_readInt {text : Text} {cause : Cause} (h : readInt text = .error cause) :
    cause.isLiteral := by
  rw [eq_of_readInt_eq_error h]
  rfl

theorem isLiteral_of_readFloat {text : Text} {cause : Cause} (h : readFloat text = .error cause) :
    cause.isLiteral := by
  unfold readFloat at h
  split at h
  next => cases h
  next =>
    cases h
    rfl

theorem isLiteral_of_readBool {text : Text} {cause : Cause} (h : readBool text = .error cause) :
    cause.isLiteral := by
  unfold readBool at h
  split at h
  next => cases h
  next =>
    split at h
    next => cases h
    next =>
      cases h
      rfl

theorem isLiteral_of_unquote {text : Text} {cause : Cause} (h : unquote text = .error cause) :
    cause.isLiteral := by
  unfold unquote at h
  split at h
  next =>
    split at h
    next => cases h
    next =>
      cases h
      rfl
  next =>
    cases h
    rfl

theorem isLiteral_of_read {scope : Scope} {ty : Ty} {text : Text} {cause : Cause}
    (h : read scope ty text = .error cause) : cause.isLiteral := by
  cases ty with
  | int => exact isLiteral_of_readInt (Result.map_eq_error_iff.1 h)
  | uint =>
    rw [read, Result.bind_eq_error_iff] at h
    rcases h with h | ⟨n, -, h⟩
    · exact isLiteral_of_readInt h
    · split at h
      next =>
        cases h
        rfl
      next => cases h
  | float => exact isLiteral_of_readFloat (Result.map_eq_error_iff.1 h)
  | ufloat =>
    rw [read, Result.bind_eq_error_iff] at h
    rcases h with h | ⟨x, -, h⟩
    · exact isLiteral_of_readFloat h
    · split at h
      next =>
        cases h
        rfl
      next => cases h
  | bool => exact isLiteral_of_readBool (Result.map_eq_error_iff.1 h)
  | string =>
    rw [read, Result.bind_eq_error_iff] at h
    rcases h with h | ⟨inner, -, h⟩
    · exact isLiteral_of_unquote h
    · rw [Result.bind_eq_error_iff] at h
      rcases h with h | ⟨t, -, h⟩
      · exact Template.isLiteral_of_fill h
      · cases h

end Literal

theorem Scope.isExecution_of_refusal? {scope : Scope} {name : Text} {cause : Cause}
    (h : scope.refusal? name = some cause) : cause.isExecution := by
  unfold refusal? at h
  split at h
  · cases h
    rfl
  · split at h
    · cases h
      rfl
    · obtain ⟨x, -, rfl⟩ := Option.map_eq_some_iff.1 h
      rfl

end Stackline
