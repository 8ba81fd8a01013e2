import Stackline.Proofs.Result
import Stackline.Statement.Decode

/-!
What statements are decoded from. `Forms` tells which tokens may stand behind the first token of an
instruction; payloads that the statement has no use for may be anything. Main statements:
`decode_of_forms` and `taken_of_decode`, which say that nothing else is decoded.
-/

namespace Stackline

namespace Cursor

/--
The cursor behind operands, with the tokens that follow them.
-/
def behind (last : Position) (operands rest : List Token) : Cursor :=
  ⟨(operands.getLast?.map Token.position).getD last, rest⟩

end Cursor

namespace Statement

/--
The tokens that form an operand of `push` or `pushd`.
-/
inductive FormsOperand : List Token → Operand → Prop where
  | name {token} (h : token.kind = .ident) : FormsOperand [token] (.name token.text?)
  | literal {type value ty text} (hkind : type.kind = .type) (hty : type.type? = some ty)
    (hvalue : value.kind = .value) (htext : value.text? = some text) :
    FormsOperand [type, value] (.literal ty text)

/--
The tokens that form a statement behind its first token, which has been found to be one of the
instruction.
-/
inductive Forms (first : Token) : List Token → Statement → Prop where
  | push {tokens operand} (h : FormsOperand tokens operand) :
    Forms first tokens (.push operand)
  | pushd {tokens operand} (h : FormsOperand tokens operand) :
    Forms first tokens (.pushd operand)
  | arith {op} : Forms first [] (.arith op)
  | discard {token} (h : token.kind = .instruction .drop) : Forms first [token] .discard
  | pop {token} (h : token.kind = .ident) : Forms first [token] (.pop token.text?)
  | drop {token} (h : token.kind = .ident) : Forms first [token] (.drop token.text?)
  | var {type token ty name} (hkind : type.kind = .type) (hty : type.type? = some ty)
    (hident : token.kind = .ident) (hname : token.text? = some name) :
    Forms first [type, token] (.var ty name)
  | move {token value name text} (hident : token.kind = .ident) (hname : token.text? = some name)
    (hvalue : value.kind = .value) (htext : value.text? = some text) :
    Forms first [token, value] (.move name text)
  | print (h : first.payload ≠ some (.sentinel .ident)) : Forms first [] .print
  | printVariable {token name} (h : first.payload = some (.sentinel .ident))
    (hident : token.kind = .ident) (hname : token.text? = some name) :
    Forms first [token] (.printVariable name)

/--
The tokens that form a statement of the instruction `m` have been taken off the front of a list.
-/
def Taken (first : Token) (last : Position) (all : List Token) (m : Mnemonic) (s : Statement)
    (cursor : Cursor) : Prop :=
  s.mnemonic = m ∧ ∃ tokens rest, Forms first tokens s ∧ all = tokens ++ rest ∧
    cursor = Cursor.behind last tokens rest

theorem decodeOperand_of_forms {tokens : List Token} {operand : Operand}
    (h : FormsOperand tokens operand) (first : Token) (last : Position) (rest : List Token) :
    decodeOperand first ⟨last, tokens ++ rest⟩ =
      .ok (operand, Cursor.behind last tokens rest) := by
  cases h with
  | name h =>
    simp only [decodeOperand, List.cons_append, Cursor.next, bind, Except.bind, h]
    rfl
  | literal hkind hty hvalue htext =>
    simp only [decodeOperand, decodeLiteral, List.cons_append, Cursor.next, bind, Except.bind, hkind,
      hty, hvalue, htext]
    rfl

theorem decode_of_forms {first : Token} {tokens : List Token} {s : Statement}
    (h : Forms first tokens s) (last : Position) (rest : List Token) :
    decode s.mnemonic first ⟨last, tokens ++ rest⟩ = .ok (s, Cursor.behind last tokens rest) := by
  cases h with
  | push h | pushd h => rw [mnemonic, decode, decodeOperand_of_forms h, Except.map]
  | arith => rfl
  | discard h | pop h | drop h =>
    simp only [mnemonic, decode, decodePop, decodeDrop, List.cons_append, Cursor.next, bind, Except.bind, h]
    rfl
  | var hkind hty hident hname =>
    simp only [mnemonic, decode, decodeVar, List.cons_append, Cursor.next, bind, Except.bind, hkind, hty,
      hident, hname]
    rfl
  | move hident hname hvalue htext =>
    simp only [mnemonic, decode, decodeMove, List.cons_append, Cursor.next, bind, Except.bind, hident, hname,
      hvalue, htext]
    rfl
  | print h =>
    simp only [mnemonic, decode, decodePrint, h]
    rfl
  | printVariable h hident hname =>
    simp only [mnemonic, decode, decodePrint, h, List.cons_append, Cursor.next, bind, Except.bind, hident,
      hname]
    rfl

section Inversion

variable {first : Token} {last : Position} {all : List Token} {cursor : Cursor}

theorem forms_of_decodeOperand {operand : Operand}
    (h : decodeOperand first ⟨last, all⟩ = .ok (operand, cursor)) :
    ∃ tokens rest, FormsOperand tokens operand ∧ all = tokens ++ rest ∧
      cursor = Cursor.behind last tokens rest := by
  match all with
  | [] => cases h
  | token :: rest =>
    simp only [decodeOperand, Cursor.next, bind, Except.bind] at h
    split at h
    next hkind =>
      cases h
      exact ⟨[token], rest, .name hkind, rfl, rfl⟩
    next hkind =>
      match rest with
      | [] => cases h
      | value :: rest =>
        simp only [decodeLiteral, Cursor.next, bind, Except.bind] at h
        split at h
        next hty htext =>
          split at h
          next hvalue =>
            cases h
            exact ⟨[token, value], rest, .literal hkind hty hvalue htext, rfl, rfl⟩
          next => cases h
        next => cases h
    next => cases h

variable {s : Statement}

theorem taken_of_decodePop (h : decodePop first ⟨last, all⟩ = .ok (s, cursor)) :
    Taken first last all .pop s cursor := by
  match all with
  | [] => cases h
  | token :: rest =>
    simp only [decodePop, Cursor.next, bind, Except.bind] at h
    split at h
    next hkind =>
      cases h
      exact ⟨rfl, [token], rest, .discard hkind, rfl, rfl⟩
    next hkind =>
      cases h
      exact ⟨rfl, [token], rest, .pop hkind, rfl, rfl⟩
    next => cases h

theorem taken_of_decodeDrop (h : decodeDrop first ⟨last, all⟩ = .ok (s, cursor)) :
    Taken first last all .drop s cursor := by
  match all with
  | [] => cases h
  | token :: rest =>
    simp only [decodeDrop, Cursor.next, bind, Except.bind] at h
    split at h
    next hkind =>
      cases h
      exact ⟨rfl, [token], rest, .drop hkind, rfl, rfl⟩
    next => cases h

theorem taken_of_decodeVar (h : decodeVar first ⟨last, all⟩ = .ok (s, cursor)) :
    Taken first last all .var s cursor := by
  match all with
  | [] | [_] => cases h
  | type :: token :: rest =>
    simp only [decodeVar, Cursor.next, bind, Except.bind] at h
    split at h
    next hkind hty hident hname =>
      cases h
      exact ⟨rfl, [type, token], rest, .var hkind hty hident hname, rfl, rfl⟩
    next => cases h

theorem taken_of_decodeMove (h : decodeMove first ⟨last, all⟩ = .ok (s, cursor)) :
    Taken first last all .move s cursor := by
  match all with
  | [] | [_] => cases h
  | token :: value :: rest =>
    simp only [decodeMove, Cursor.next, bind, Except.bind] at h
    split at h
    next hident hname hvalue htext =>
      cases h
      exact ⟨rfl, [token, value], rest, .move hident hname hvalue htext, rfl, rfl⟩
    next => cases h

theorem taken_of_decodePrint (h : decodePrint first ⟨last, all⟩ = .ok (s, cursor)) :
    Taken first last all .print s cursor := by
  unfold decodePrint at h
  split at h
  next hpayload =>
    match all with
    | [] => cases h
    | token :: rest =>
      simp only [Cursor.next, bind, Except.bind] at h
      split at h
      next hident hname =>
        cases h
        exact ⟨rfl, [token], rest, .printVariable hpayload hident hname, rfl, rfl⟩
      next => cases h
      next => cases h
  next hpayload =>
    cases h
    exact ⟨rfl, [], all, .print hpayload, rfl, rfl⟩

theorem taken_of_decode {m : Mnemonic} (h : decode m first ⟨last, all⟩ = .ok (s, cursor)) :
    Taken first last all m s cursor := by
  cases m with
  | push =>
    obtain ⟨⟨operand, cursor'⟩, hoperand, heq⟩ := Result.map_eq_ok_iff.1 h
    cases heq
    obtain ⟨tokens, rest, hforms, hrest⟩ := forms_of_decodeOperand hoperand
    exact ⟨rfl, tokens, rest, .push hforms, hrest⟩
  | pushd =>
    obtain ⟨⟨operand, cursor'⟩, hoperand, heq⟩ := Result.map_eq_ok_iff.1 h
    cases heq
    obtain ⟨tokens, rest, hforms, hrest⟩ := forms_of_decodeOperand hoperand
    exact ⟨rfl, tokens, rest, .pushd hforms, hrest⟩
  | arith op =>
    cases h
    exact ⟨rfl, [], all, .arith, rfl, rfl⟩
  | pop => exact taken_of_decodePop h
  | drop => exact taken_of_decodeDrop h
  | var => exact taken_of_decodeVar h
  | move => exact taken_of_decodeMove h
  | print => exact taken_of_decodePrint h

end Inversion

end Statement
end Stackline
