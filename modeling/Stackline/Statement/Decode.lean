import Stackline.Fault
import Stackline.Statement.Basic

/-!
Taking statements off a list of tokens, which need not stem from a source. Main statement: decoding
undoes `Statement.tokens`.
-/

namespace Stackline

/--
The tokens that are left of a program, and the position of the token before them.
-/
structure Cursor where
  last : Position
  tokens : List Token
  deriving Repr, DecidableEq

def Cursor.start (tokens : List Token) : Cursor :=
  ⟨Position.start, tokens⟩

def Cursor.next (cursor : Cursor) : Except Fault (Token × Cursor) :=
  match cursor.tokens with
  | [] => .error (.located cursor.last .outOfTokens)
  | token :: tokens => .ok (token, ⟨token.position, tokens⟩)

namespace Statement

/--
The fault of a token that does not belong behind another.
-/
def unexpected (after found : Token) : Fault :=
  .located after.position (.unexpectedToken after.kind found.kind)

/--
Decode a literal behind the token of its type.
-/
def decodeLiteral (type : Token) (cursor : Cursor) : Except Fault (Operand × Cursor) := do
  let (value, cursor) ← cursor.next
  match type.type?, value.text? with
  | some ty, some text =>
    if value.kind = .value then
      return (.literal ty text, cursor)
    else
      throw (unexpected type value)
  | _, _ => throw (.located type.position .incompleteLiteral)

/--
Decode the operand of `push` or `pushd`.
-/
def decodeOperand (first : Token) (cursor : Cursor) : Except Fault (Operand × Cursor) := do
  let (operand, cursor) ← cursor.next
  match operand.kind with
  | .ident => return (.name operand.text?, cursor)
  | .type => decodeLiteral operand cursor
  | _ => throw (unexpected first operand)

def decodePop (first : Token) (cursor : Cursor) : Except Fault (Statement × Cursor) := do
  let (operand, cursor) ← cursor.next
  match operand.kind with
  | .instruction .drop => return (.discard, cursor)
  | .ident => return (.pop operand.text?, cursor)
  | _ => throw (unexpected first operand)

def decodeDrop (first : Token) (cursor : Cursor) : Except Fault (Statement × Cursor) := do
  let (operand, cursor) ← cursor.next
  match operand.kind with
  | .ident => return (.drop operand.text?, cursor)
  | _ => throw (unexpected first operand)

def decodeVar (first : Token) (cursor : Cursor) : Except Fault (Statement × Cursor) := do
  let (type, cursor) ← cursor.next
  let (name, cursor) ← cursor.next
  match type.kind, type.type?, name.kind, name.text? with
  | .type, some ty, .ident, some name => return (.var ty name, cursor)
  | _, _, _, _ => throw (.located first.position .declarationForm)

def decodeMove (first : Token) (cursor : Cursor) : Except Fault (Statement × Cursor) := do
  let (name, cursor) ← cursor.next
  let (value, cursor) ← cursor.next
  match name.kind, name.text?, value.kind, value.text? with
  | .ident, some name, .value, some text => return (.move name text, cursor)
  | _, _, _, _ => throw (.located first.position .assignmentForm)

/--
Decode `print`, which has an operand exactly if its token announces one.
-/
def decodePrint (first : Token) (cursor : Cursor) : Except Fault (Statement × Cursor) := do
  if first.payload = some (.sentinel .ident) then
    let (operand, cursor) ← cursor.next
    match operand.kind, operand.text? with
    | .ident, some name => return (.printVariable name, cursor)
    | .ident, none => throw (.located first.position (.missingName .print))
    | _, _ => throw (unexpected first operand)
  else
    return (.print, cursor)

/--
Decode the statement that the token `first` of the instruction `m` begins.
-/
def decode (m : Mnemonic) (first : Token) (cursor : Cursor) : Except Fault (Statement × Cursor) :=
  match m with
  | .push => (decodeOperand first cursor).map fun (operand, cursor) => (.push operand, cursor)
  | .pushd => (decodeOperand first cursor).map fun (operand, cursor) => (.pushd operand, cursor)
  | .arith op => .ok (.arith op, cursor)
  | .pop => decodePop first cursor
  | .drop => decodeDrop first cursor
  | .var => decodeVar first cursor
  | .move => decodeMove first cursor
  | .print => decodePrint first cursor

/--
Decoding undoes `tokens`, whatever follows.
-/
theorem decode_tokens (s : Statement) (position : Position) (rest : List Token) :
    ∃ first behind, s.tokens position = first :: behind ∧
      first.kind = .instruction s.mnemonic ∧ first.position = position ∧
      decode s.mnemonic first ⟨position, behind ++ rest⟩ = .ok (s, ⟨position, rest⟩) := by
  cases s with
  | push operand =>
    cases operand with
    | name name? => cases name? <;> exact ⟨_, _, rfl, rfl, rfl, rfl⟩
    | literal ty text => exact ⟨_, _, rfl, rfl, rfl, rfl⟩
  | pushd operand =>
    cases operand with
    | name name? => cases name? <;> exact ⟨_, _, rfl, rfl, rfl, rfl⟩
    | literal ty text => exact ⟨_, _, rfl, rfl, rfl, rfl⟩
  | pop name? => cases name? <;> exact ⟨_, _, rfl, rfl, rfl, rfl⟩
  | drop name? => cases name? <;> exact ⟨_, _, rfl, rfl, rfl, rfl⟩
  | _ => exact ⟨_, _, rfl, rfl, rfl, rfl⟩

end Statement
end Stackline
