import Stackline.Proofs.Source.Append
import Stackline.Proofs.Source.Lines
import Stackline.Proofs.Source.Malformed
import Stackline.Proofs.Source.Reader
import Stackline.Proofs.Statement.Parse

/-!
Reading is local to lines. The tokens of two sources put behind one another are those of the first
without its end, and those of the second displaced; a malformed line in the first hides the second.
This holds for reading a source as a whole and for reading it token by token.
-/

namespace Stackline

def Token.shift (d : Displacement) (token : Token) : Token :=
  { token with position := token.position.shift d }

theorem Statement.tokens_shift (d : Displacement) (s : Statement) (position : Position) :
    s.tokens (position.shift d) = (s.tokens position).map (Token.shift d) := by
  rw [tokens, tokens, List.map_map]
  rfl

namespace Line

theorem mem_tokens {line : Line} {token : Token} (h : token ∈ line.tokens) :
    token.position = line.position := by
  unfold tokens at h
  split at h
  · obtain ⟨shape, -, rfl⟩ := List.mem_map.1 h
    rfl
  · cases h

end Line

namespace Source

theorem endToken_append {s : Text} (h : IsWhole s) (t : Text) (output : Array UInt8) :
    endToken (s ++ t) = (endToken t).shift (displacement s output) := by
  have hposition := position_endToken_append h t output
  rw [Token.shift, ← hposition]
  rfl

theorem scan.before_shift (d : Displacement) (line : Line) (rest : List Token × Option Fault) :
    scan.before (line.shift d) (rest.1.map (Token.shift d), rest.2.map (Fault.shift d)) =
      ((scan.before line rest).1.map (Token.shift d),
        (scan.before line rest).2.map (Fault.shift d)) := by
  have hblank : (line.shift d).isBlank = line.isBlank := rfl
  have hparse : (line.shift d).parse = line.parse := rfl
  unfold before
  rw [hblank, hparse, Line.position_shift]
  split
  · rfl
  · split
    next s hs =>
      rw [Statement.tokens_shift, ← List.map_append]
    next cause hcause =>
      have hcause' := Cause.shift_of_isReading d (Statement.isReading_of_parse hcause)
      simp only [List.map_nil, Option.map_some, Fault.shift, hcause']

theorem scan.foldr_before_shift (d : Displacement) (ls : List Line)
    (rest : List Token × Option Fault) :
    (ls.map (Line.shift d)).foldr scan.before
        (rest.1.map (Token.shift d), rest.2.map (Fault.shift d)) =
      ((ls.foldr scan.before rest).1.map (Token.shift d),
        (ls.foldr scan.before rest).2.map (Fault.shift d)) := by
  induction ls with
  | nil => rfl
  | cons line ls ih =>
    rw [List.map_cons, List.foldr_cons, List.foldr_cons, ih, scan.before_shift]

theorem scan_append {s : Text} (h : IsWhole s) (t : Text) (output : Array UInt8) :
    scan (s ++ t) =
      (lines s).foldr scan.before
        ((scan t).1.map (Token.shift (displacement s output)),
          (scan t).2.map (Fault.shift (displacement s output))) := by
  rw [scan, lines_append h t output, List.foldr_append, endToken_append h t output]
  congr 1
  rw [scan, ← scan.foldr_before_shift]
  rfl

variable {s t : Text} {body tokens : List Token} {closing : Token} {fault : Fault}
  {fault? : Option Fault}

theorem lex_eq_ok_iff_scan : lex s = .ok tokens ↔ scan s = (tokens, none) := by
  unfold lex
  split <;> simp_all

theorem lex_eq_error_iff_scan : lex s = .error fault ↔ ∃ tokens, scan s = (tokens, some fault) := by
  unfold lex
  split <;> simp_all

theorem scan_append_of_wellFormed (h : IsWhole s) (output : Array UInt8)
    (hs : scan s = (body ++ [closing], none)) (ht : scan t = (tokens, fault?)) :
    scan (s ++ t) =
      (body ++ tokens.map (Token.shift (displacement s output)),
        fault?.map (Fault.shift (displacement s output))) := by
  have hwf := (lex_eq_ok_iff.1 (lex_eq_ok_iff_scan.2 hs)).1
  rw [scan_append h t output, scan.foldr_before_of_wellFormed _ hwf, ht]
  rw [scan_of_wellFormed hwf, tokens_block hwf] at hs
  have hbody := (List.append_inj' (Prod.mk.inj hs).1 rfl).1
  rw [← hbody]
  rfl

theorem scan_append_of_malformed (h : IsWhole s) (hs : scan s = (tokens, some fault)) :
    scan (s ++ t) = (tokens, some fault) := by
  obtain ⟨before, line, cause, hmalformed, -⟩ :=
    lex_eq_error_iff.1 (lex_eq_error_iff_scan.2 ⟨tokens, hs⟩)
  rw [scan_append h t #[], scan.foldr_before_of_malformed hmalformed.code hmalformed.wellFormed
    hmalformed.malformed, ← hmalformed.scan_eq, hs]

theorem getLast?_shift_of_lex (h : lex t = .ok tokens) (s : Text) (output : Array UInt8) :
    (tokens.map (Token.shift (displacement s output))).getLast? =
      some ⟨.eof, ⟨(lines s).length + (lines t).length, ⟨s.byteLength + t.byteLength, 0⟩⟩,
        none⟩ := by
  rw [(lex_eq_ok_iff.1 h).2, List.map_append, List.map_singleton, List.getLast?_concat]
  simp only [endToken, Token.shift, Position.shift, Span.shift, displacement, Nat.add_comm]

/--
No token of the malformed line or of a later one is handed out.
-/
theorem FirstMalformed.line_lt {source : Text} {before : List Line} {line : Line} {cause : Cause}
    (h : FirstMalformed source before line cause) {token : Token}
    (htoken : token ∈ before.flatMap Line.tokens) : token.position.line < line.number := by
  obtain ⟨earlier, hearlier, htoken⟩ := List.mem_flatMap.1 htoken
  have hpairwise := (pairwise_number_codeLines source).sublist h.code.sublist
  rw [List.pairwise_append] at hpairwise
  rw [Line.mem_tokens htoken]
  exact hpairwise.2.2 earlier hearlier line (List.mem_singleton_self line)

theorem reader_cases (source : Text) :
    (∃ body, lex source = .ok (body ++ [endToken source]) ∧
      (Reader.start source).Yields (body ++ [endToken source]) none) ∨
    ∃ before line cause, FirstMalformed source before line cause ∧
      lex source = .error (.located line.position cause) ∧
      (Reader.start source).Yields (before.flatMap Line.tokens)
        (some (.located line.position cause)) ∧
      ∀ token ∈ before.flatMap Line.tokens, token.position.line < line.number := by
  rcases wellFormed_or_firstMalformed source with h | ⟨before, line, cause, h⟩
  · left
    refine ⟨(block source).tokens, lex_eq_ok_iff.2 ⟨h, rfl⟩, ?_⟩
    rw [Reader.yields_start_iff]
    exact scan_of_wellFormed h
  · right
    refine ⟨before, line, cause, h, h.lex_eq, ?_, ?_⟩
    · rw [Reader.yields_start_iff]
      exact h.scan_eq
    · intro token htoken
      exact h.line_lt htoken

/--
Reading a source that consists of whole lines and another behind it gives the tokens of the first
without its end and those of the second, displaced, and so does reading them token by token. A
malformed line of the first stops the reading as if the second were not there, and one of the second
stops it at a place that is displaced. Each reading ends with the token of the end or with the first
malformed line, and nothing is handed out from then on.
-/
theorem lex_append_of_whole {s : Text} (hs : IsWhole s) (t : Text) :
    let d := displacement s #[]
    (∀ body closing tokens, lex s = .ok (body ++ [closing]) → lex t = .ok tokens →
      lex (s ++ t) = .ok (body ++ tokens.map (Token.shift d)) ∧
        (tokens.map (Token.shift d)).getLast? =
          some ⟨.eof, ⟨(lines s).length + (lines t).length, ⟨s.byteLength + t.byteLength, 0⟩⟩,
            none⟩) ∧
    (∀ fault, lex s = .error fault → lex (s ++ t) = .error fault) ∧
    (∀ tokens fault, lex s = .ok tokens → lex t = .error fault →
      lex (s ++ t) = .error (fault.shift d)) ∧
    (∀ body closing tokens fault?, (Reader.start s).Yields (body ++ [closing]) none →
      (Reader.start t).Yields tokens fault? →
      (Reader.start (s ++ t)).Yields (body ++ tokens.map (Token.shift d))
        (fault?.map (Fault.shift d))) ∧
    (∀ tokens fault, (Reader.start s).Yields tokens (some fault) →
      (Reader.start (s ++ t)).Yields tokens (some fault)) ∧
    ∀ source,
      (∃ body, lex source = .ok (body ++ [endToken source]) ∧
        (Reader.start source).Yields (body ++ [endToken source]) none) ∨
      ∃ before line cause, FirstMalformed source before line cause ∧
        lex source = .error (.located line.position cause) ∧
        (Reader.start source).Yields (before.flatMap Line.tokens)
          (some (.located line.position cause)) ∧
        ∀ token ∈ before.flatMap Line.tokens, token.position.line < line.number := by
  intro d
  refine ⟨?_, ?_, ?_, ?_, ?_, reader_cases⟩
  · intro body closing tokens hlexs hlext
    constructor
    · rw [lex_eq_ok_iff_scan] at hlexs hlext ⊢
      exact scan_append_of_wellFormed hs #[] hlexs hlext
    · exact getLast?_shift_of_lex hlext s #[]
  · intro fault hlex
    rw [lex_eq_error_iff_scan] at hlex ⊢
    obtain ⟨tokens, hscan⟩ := hlex
    exact ⟨tokens, scan_append_of_malformed hs hscan⟩
  · intro tokens fault hlexs hlext
    obtain ⟨hwf, rfl⟩ := lex_eq_ok_iff.1 hlexs
    rw [lex_eq_ok_iff_scan] at hlexs
    rw [lex_eq_error_iff_scan] at hlext ⊢
    obtain ⟨yielded, hscan⟩ := hlext
    exact ⟨_, scan_append_of_wellFormed hs #[] hlexs hscan⟩
  · intro body closing tokens fault? hyields hyieldt
    rw [Reader.yields_start_iff] at hyields hyieldt ⊢
    exact scan_append_of_wellFormed hs #[] hyields hyieldt
  · intro tokens fault hyield
    rw [Reader.yields_start_iff] at hyield ⊢
    exact scan_append_of_malformed hs hyield

theorem lex_append_of_whole_displaced :
    lex ("add\n\n".toList ++ " sub\njump 3\nmul".toList) =
        .error (.located ⟨4, ⟨10, 6⟩⟩ (.unknownInstruction "jump 3".toList)) ∧
      (Reader.start ("add\n\n".toList ++ " sub\njump 3\nmul".toList)).Yields
        [⟨.instruction (.arith .add), ⟨1, ⟨0, 3⟩⟩, none⟩,
          ⟨.instruction (.arith .sub), ⟨3, ⟨6, 3⟩⟩, none⟩]
        (some (.located ⟨4, ⟨10, 6⟩⟩ (.unknownInstruction "jump 3".toList))) := by
  have h := lex_append_of_whole (s := "add\n\n".toList) (.inr rfl) " sub\njump 3\nmul".toList
  constructor
  · exact h.2.2.1 _ (.located ⟨2, ⟨5, 6⟩⟩ (.unknownInstruction "jump 3".toList)) rfl rfl
  · apply h.2.2.2.1 [⟨.instruction (.arith .add), ⟨1, ⟨0, 3⟩⟩, none⟩]
      (endToken "add\n\n".toList)
      [⟨.instruction (.arith .sub), ⟨1, ⟨1, 3⟩⟩, none⟩]
      (some (.located ⟨2, ⟨5, 6⟩⟩ (.unknownInstruction "jump 3".toList)))
    · exact Reader.yields_start_iff.2 rfl
    · exact Reader.yields_start_iff.2 rfl

end Source
end Stackline
