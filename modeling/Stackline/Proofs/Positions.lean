import Stackline.Proofs.Lexing
import Stackline.Proofs.OneLine

/-!
Where tokens stand. The line of a token is counted among the texts between the newlines of a source,
and its span covers such a text without the blanks around it. `map_filter_cutLines_prefix` and
`length_lines` compare the lines that are read with the texts between newlines, `exists_scan_eq`
says which lines the tokens stem from.
-/

namespace Stackline

namespace Text

theorem Covers.within {source part : Text} {span : Span} (h : source.Covers span part) :
    span.offset + span.length ≤ source.byteLength := by
  obtain ⟨before, behind, rfl, rfl⟩ := h
  simp only [byteLength_append]
  omega

theorem trimStart_suffix (t : Text) : trimStart t <:+ t :=
  ⟨indent t, indent_append_trimStart t⟩

theorem trim_infix (t : Text) : trim t <:+: t := by
  obtain ⟨right, -, heq⟩ := exists_trim_append t
  exact ⟨indent t, right, heq⟩

theorem infix_of_cut? {p : Char → Bool} {t before after : Text}
    (h : cut? p t = some (before, after)) : before <:+: t ∧ after <:+: t := by
  obtain ⟨c, rfl, -, -⟩ := cut?_eq_some_iff.1 h
  constructor
  · apply (List.prefix_append before (c :: after)).isInfix
  · rw [List.append_cons]
    apply (List.suffix_append (before ++ [c]) after).isInfix

theorem infix_of_nonempty? {t name : Text} (h : t.nonempty? = some name) : name <:+: t := by
  obtain ⟨rfl, -⟩ := of_nonempty? h
  apply List.infix_refl

end Text

section Payload

variable {kind : Kind} {t : Text}

theorem Operand.infix_of_parse {rest : Text} {operand : Operand} (h : parse rest = .ok operand)
    (ht : (kind, some (.text t)) ∈ Statement.operandShape operand) : t <:+: rest := by
  unfold parse at h
  split at h
  next hcut =>
    cases h
    apply Text.infix_of_nonempty?
    exact Group.name_of_mem (m := .push) (List.mem_cons_of_mem _ ht)
  next word text hcut =>
    split at h
    next => cases h
    next ty hty =>
      cases h
      obtain ⟨-, rfl⟩ : kind = .value ∧ t = Text.trimStart text := by
        simpa [Statement.operandShape] using ht
      apply (Text.trimStart_suffix text).isInfix.trans
      exact (Text.infix_of_cut? hcut).2

namespace Statement

theorem infix_of_parseVar {rest : Text} {s : Statement} (h : parseVar rest = .ok s)
    (ht : (kind, some (.text t)) ∈ s.shape) : t <:+: rest := by
  unfold parseVar at h
  split at h
  next => cases h
  next ty name hoperand =>
    cases h
    obtain ⟨-, rfl⟩ : kind = .ident ∧ t = name := by simpa [shape] using ht
    apply Operand.infix_of_parse hoperand
    apply List.mem_cons_of_mem
    apply List.mem_cons_self
  next => cases h

theorem infix_of_parseMove {rest : Text} {s : Statement} (h : parseMove rest = .ok s)
    (ht : (kind, some (.text t)) ∈ s.shape) : t <:+: rest := by
  unfold parseMove at h
  split at h
  next => cases h
  next name text hcut =>
    split at h
    next => cases h
    next =>
      cases h
      obtain ⟨hname, htext⟩ := Text.infix_of_cut? hcut
      obtain ⟨-, rfl⟩ | ⟨-, rfl⟩ :
          kind = .ident ∧ t = name ∨ kind = .value ∧ t = Text.trim text := by
        simpa [shape] using ht
      · exact hname
      · apply (Text.trim_infix text).trans htext

theorem infix_of_parseRest {rest : Text} {m : Mnemonic} {s : Statement}
    (h : parseRest rest m = .ok s) (ht : (kind, some (.text t)) ∈ s.shape) : t <:+: rest := by
  cases m with
  | push =>
    obtain ⟨operand, hoperand, rfl⟩ := Result.map_eq_ok_iff.1 h
    apply Operand.infix_of_parse hoperand
    simpa [shape] using ht
  | pushd =>
    obtain ⟨operand, hoperand, rfl⟩ := Result.map_eq_ok_iff.1 h
    apply Operand.infix_of_parse hoperand
    simpa [shape] using ht
  | arith op =>
    cases h
    simp [shape] at ht
  | pop =>
    cases h
    split at ht
    next => simp [shape] at ht
    next => exact Text.infix_of_nonempty? (Group.name_of_mem ht)
  | drop =>
    cases h
    exact Text.infix_of_nonempty? (Group.name_of_mem ht)
  | var => exact infix_of_parseVar h ht
  | move => exact infix_of_parseMove h ht
  | print =>
    cases h
    split at ht
    next => simp [shape] at ht
    next =>
      obtain ⟨-, rfl⟩ : kind = .ident ∧ t = rest := by simpa [shape] using ht
      apply List.infix_refl

/--
A text that a statement carries is a piece of its line.
-/
theorem infix_of_parse {line : Text} {s : Statement} (h : parse line = .ok s)
    (ht : (kind, some (.text t)) ∈ s.shape) : t <:+: line := by
  unfold parse at h
  split at h
  next => cases h
  next m rest hsplit =>
    obtain ⟨lead, behind, rfl, -, rfl⟩ := (Mnemonic.split?_eq_some_iff.1 hsplit).begins
    apply (infix_of_parseRest h ht).trans
    apply (Text.trimStart_suffix behind).isInfix.trans
    apply (List.suffix_append lead behind).isInfix

end Statement
end Payload

namespace Line

theorem infix_of_mem_tokens {line : Line} {token : Token} (h : token ∈ line.tokens) {t : Text}
    (ht : token.payload = some (.text t)) : t <:+: line.trimmed := by
  unfold tokens at h
  split at h
  next s hs =>
    obtain ⟨⟨kind, payload⟩, hshape, rfl⟩ := List.mem_map.1 h
    subst ht
    exact Statement.infix_of_parse hs hshape
  next => cases h

theorem kind_of_mem_tokens {line : Line} {token : Token} (h : token ∈ line.tokens) :
    token.kind ≠ .eof := by
  unfold tokens at h
  split at h
  next s hs =>
    obtain ⟨⟨kind, payload⟩, hshape, rfl⟩ := List.mem_map.1 h
    rintro rfl
    cases s with
    | push operand => cases operand <;> simp [Statement.shape, Statement.operandShape] at hshape
    | pushd operand => cases operand <;> simp [Statement.shape, Statement.operandShape] at hshape
    | _ => simp [Statement.shape] at hshape
  next => cases h

end Line

namespace Source

/--
How many lines a source has, by its newlines and what stands behind the last of them.
-/
def countLines (source : Text) : Nat :=
  source.count '\n' + if source = [] ∨ source.getLast? = some '\n' then 0 else 1

theorem length_cutLines (source : Text) : (cutLines source).length = countLines source := by
  induction source with
  | nil => rfl
  | cons c source ih =>
    have hlines : cutLines (c :: source) = cutLines.extend c (cutLines source) := rfl
    cases source with
    | nil => by_cases hc : c = '\n' <;> simp [cutLines, cutLines.extend, countLines, hc]
    | cons d source =>
      rw [cutLines_cons] at ih
      rw [hlines, cutLines_cons, cutLines.extend]
      simp only [countLines, List.getLast?_cons_cons, reduceCtorEq, false_or] at ih ⊢
      by_cases hc : c = '\n'
      · rw [if_pos hc, hc, List.count_cons_self, List.length_cons, ih]
        omega
      · rw [if_neg hc, List.count_cons_of_ne hc, List.length_cons, ← ih, List.length_cons]

theorem length_lines (source : Text) : (lines source).length = countLines source := by
  rw [lines, length_locate, length_cutLines]

/--
Without its newline, each line is the text between two newlines of the source.
-/
theorem map_filter_cutLines_prefix (source : Text) :
    (cutLines source).map (·.filter (· ≠ '\n')) <+: source.splitOn '\n' := by
  induction source with
  | nil => exact List.nil_prefix
  | cons c source ih =>
    have hlines : cutLines (c :: source) = cutLines.extend c (cutLines source) := rfl
    have hsplit : (c :: source).splitOn '\n' =
        if c = '\n' then [] :: source.splitOn '\n'
        else (source.splitOn '\n').modifyHead (c :: ·) := by
      simp [List.splitOn, List.splitOnP_cons_eq_if_modifyHead]
    rw [hlines, hsplit]
    cases source with
    | nil => by_cases hc : c = '\n' <;> simp [cutLines, cutLines.extend, hc]
    | cons d source =>
      rw [cutLines_cons, List.map_cons] at ih
      obtain ⟨rest, hrest⟩ := ih
      rw [cutLines_cons, cutLines.extend, ← hrest]
      by_cases hc : c = '\n'
      · rw [if_pos hc, if_pos hc, hc]
        exact ⟨rest, rfl⟩
      · rw [if_neg hc, if_neg hc, List.map_cons, List.filter_cons_of_pos (by simpa using hc)]
        exact ⟨rest, rfl⟩

theorem trim_filter_of_mem_cutLines {source line : Text} (h : line ∈ cutLines source) :
    Text.trim (line.filter (· ≠ '\n')) = Text.trim line := by
  obtain ⟨core, hcore, hline⟩ := mem_cutLines h
  have hfilter : core.filter (· ≠ '\n') = core := by
    rw [List.filter_eq_self]
    intro c hc
    apply decide_eq_true
    rintro rfl
    exact hcore hc
  rcases hline with rfl | rfl
  · rw [hfilter]
  · have htrim := Text.trim_append_append Text.blank_nil Text.blank_newline core
    rw [List.filter_append, hfilter, ← List.nil_append core, htrim]
    simp

theorem le_offset_of_mem_locate {number offset : Nat} {xs : List Text} {line : Line}
    (h : line ∈ locate number offset xs) : offset ≤ line.offset := by
  induction xs generalizing number offset with
  | nil => cases h
  | cons x xs ih =>
    rcases List.mem_cons.1 h with rfl | h
    · apply Nat.le_refl
    · apply Nat.le_trans (Nat.le_add_right offset x.byteLength)
      exact ih h

theorem pairwise_offset_locate (number offset : Nat) (xs : List Text) :
    (locate number offset xs).Pairwise fun a b => a.offset + a.text.byteLength ≤ b.offset := by
  induction xs generalizing number offset with
  | nil => exact .nil
  | cons x xs ih =>
    rw [locate, List.pairwise_cons]
    refine ⟨?_, ih _ _⟩
    intro line hline
    apply le_offset_of_mem_locate hline

end Source

/--
One position stands on an earlier line than another, and its span ends before the other begins.
-/
structure Position.Precedes (p q : Position) : Prop where
  line_lt : p.line < q.line
  end_le : p.span.offset + p.span.length ≤ q.span.offset

theorem Line.end_position_le (line : Line) :
    line.position.span.offset + line.position.span.length ≤ line.offset + line.text.byteLength := by
  obtain ⟨right, -, hright⟩ := Text.exists_trim_append line.text
  have hlength := congrArg Text.byteLength hright
  simp only [Text.byteLength_append] at hlength
  simp only [position, trimmed]
  omega

namespace Source

theorem pairwise_precedes_codeLines (source : Text) :
    (codeLines source).Pairwise fun a b => a.position.Precedes b.position := by
  have hoffset := (pairwise_offset_locate 1 0 (cutLines source)).filter fun line => !line.isBlank
  apply (pairwise_number_codeLines source).imp₂ _ hoffset
  intro a b hnumber hoffset
  constructor
  · exact hnumber
  · have hend := a.end_position_le
    have hstart : b.offset ≤ b.position.span.offset := Nat.le_add_right _ _
    omega

/--
The tokens that are handed out are those of the first lines that are not blank.
-/
theorem exists_scan_eq (source : Text) :
    ∃ ls, ls <+: codeLines source ∧
      (scan source = (ls.flatMap Line.tokens ++ [endToken source], none) ∨
        ∃ fault, scan source = (ls.flatMap Line.tokens, some fault)) := by
  rcases wellFormed_or_firstMalformed source with h | ⟨before, line, cause, h⟩
  · refine ⟨codeLines source, List.prefix_refl _, .inl ?_⟩
    rw [scan_of_wellFormed h, tokens_block h]
  · refine ⟨before, ?_, .inr ⟨_, h.scan_eq⟩⟩
    apply (List.prefix_append before [line]).trans h.code

theorem pairwise_position_tokens {ls : List Line}
    (h : ls.Pairwise fun a b => a.position.Precedes b.position) :
    (ls.flatMap Line.tokens).Pairwise fun a b =>
      a.position = b.position ∨ a.position.Precedes b.position := by
  rw [List.pairwise_flatMap]
  constructor
  · intro line hline
    rw [List.pairwise_iff_forall_sublist]
    intro a b hsublist
    left
    rw [Line.mem_tokens (hsublist.mem (by simp)), Line.mem_tokens (hsublist.mem (by simp))]
  · apply h.imp
    intro line line' hprecedes a ha b hb
    right
    rw [Line.mem_tokens ha, Line.mem_tokens hb]
    exact hprecedes

end Source

/--
A token stands where its line does: the line is counted among the texts between the newlines of the
source, and the span covers the bytes of the trimmed text.
-/
structure Token.IsPlaced (source : Text) (token : Token) : Prop where
  numbered : 1 ≤ token.position.line ∧ token.position.line ≤ Source.countLines source
  nonempty : 0 < token.position.span.length
  within : token.position.span.offset + token.position.span.length ≤ source.byteLength
  text : ∃ line, (source.splitOn '\n')[token.position.line - 1]? = some line ∧
    source.Covers token.position.span (Text.trim line) ∧
    ((Text.utf8 source).drop token.position.span.offset).take token.position.span.length =
      Text.utf8 (Text.trim line) ∧
    ∀ t, token.payload = some (.text t) → t <:+: Text.trim line

namespace Source

theorem getElem?_splitOn {source text : Text} {index : Nat}
    (h : (cutLines source)[index]? = some text) :
    ∃ line, (source.splitOn '\n')[index]? = some line ∧ Text.trim line = Text.trim text := by
  refine ⟨text.filter (· ≠ '\n'), ?_, trim_filter_of_mem_cutLines (List.mem_of_getElem? h)⟩
  have hmap : ((cutLines source).map (·.filter (· ≠ '\n')))[index]? =
      some (text.filter (· ≠ '\n')) := by
    rw [List.getElem?_map, h]
    rfl
  obtain ⟨rest, hrest⟩ := map_filter_cutLines_prefix source
  rw [← hrest, List.getElem?_append_left (List.getElem?_eq_some_iff.1 hmap).1, hmap]

theorem isPlaced_of_mem_tokens {source : Text} {line : Line} (hline : line ∈ codeLines source)
    {token : Token} (h : token ∈ line.tokens) : token.IsPlaced source := by
  have hposition := Line.mem_tokens h
  have hmem := (List.mem_filter.1 hline).1
  have hpoints := pointsAt_position hline
  have hcovers := covers_position hmem
  obtain ⟨index, hnumber, htext, -⟩ := hpoints.numbered
  obtain ⟨part, hpart, htrim⟩ := getElem?_splitOn htext
  have hindex : token.position.line = index + 1 := by rw [hposition, hpoints.number, hnumber]
  constructor
  · have hlt := (List.getElem?_eq_some_iff.1 htext).1
    rw [length_cutLines] at hlt
    omega
  · rw [hposition, hpoints.length, Nat.pos_iff_ne_zero, ne_eq, Text.byteLength_eq_zero_iff]
    exact hpoints.not_blank
  · rw [hposition]
    exact hcovers.within
  · rw [hindex, hposition]
    refine ⟨part, hpart, ?_⟩
    rw [htrim]
    refine ⟨hcovers, hcovers.bytes, ?_⟩
    intro t ht
    exact Line.infix_of_mem_tokens h ht

theorem consecutive_of_pairwise {body before between behind : List Token} {a b : Token}
    (h : body.Pairwise fun a b => a.position = b.position ∨ a.position.Precedes b.position)
    (hbody : body = before ++ a :: between ++ b :: behind)
    (hline : a.position.line = b.position.line) : ∀ c ∈ between, c.position = a.position := by
  intro c hc
  rw [hbody, List.append_assoc, List.pairwise_append] at h
  obtain ⟨-, h, -⟩ := h
  rw [List.cons_append, List.pairwise_cons, List.pairwise_append] at h
  obtain ⟨ha, -, -, hbetween⟩ := h
  rcases ha c (List.mem_append_left _ hc) with heq | hprecedes
  · exact heq.symm
  · -- the line of `c` would lie between two equal ones
    have hlt := hprecedes.line_lt
    rcases hbetween c hc b List.mem_cons_self with heq | hprecedes'
    · rw [heq] at hlt
      omega
    · have hlt' := hprecedes'.line_lt
      omega

/--
Whether a source can be read or not, the tokens that are handed out before the end stand where their
lines do. Those of one line stand next to each other and have one position; from line to line the
numbers grow, and the spans follow each other without overlap. A source that can be read ends with
one token for the end, behind the last line and the last byte.
-/
theorem token_positions_exact (source : Text) :
    let closing : Token := ⟨.eof, ⟨countLines source, ⟨source.byteLength, 0⟩⟩, none⟩
    ∃ body : List Token,
      ((lex source = .ok (body ++ [closing]) ∧
          (Reader.start source).Yields (body ++ [closing]) none) ∨
        ∃ fault, lex source = .error fault ∧ (Reader.start source).Yields body (some fault)) ∧
      (∀ token ∈ body, token.kind ≠ .eof ∧ token.IsPlaced source) ∧
      (body.Pairwise fun a b => a.position = b.position ∨ a.position.Precedes b.position) ∧
      ∀ before between behind a b, body = before ++ a :: between ++ b :: behind →
        a.position.line = b.position.line → ∀ c ∈ between, c.position = a.position := by
  intro closing
  obtain ⟨ls, hlead, hscan⟩ := exists_scan_eq source
  have hpairwise := pairwise_position_tokens
    ((pairwise_precedes_codeLines source).sublist hlead.sublist)
  have hclosing : endToken source = closing := by
    rw [endToken, length_lines]
  refine ⟨ls.flatMap Line.tokens, ?_, ?_, hpairwise, ?_⟩
  · rw [hclosing] at hscan
    rcases hscan with hscan | ⟨fault, hscan⟩
    · left
      exact ⟨lex_eq_ok_iff_scan.2 hscan, Reader.yields_start_iff.2 hscan⟩
    · right
      exact ⟨fault, lex_eq_error_iff_scan.2 ⟨_, hscan⟩, Reader.yields_start_iff.2 hscan⟩
  · intro token htoken
    obtain ⟨line, hline, htoken⟩ := List.mem_flatMap.1 htoken
    exact ⟨Line.kind_of_mem_tokens htoken, isPlaced_of_mem_tokens (hlead.mem hline) htoken⟩
  · intro before between behind a b hbody hline
    exact consecutive_of_pairwise hpairwise hbody hline

theorem token_positions_exact_unterminated :
    let source := "\u3000push é\n\n add x".toList
    let first : Position := ⟨1, ⟨3, 7⟩⟩
    lex source = .ok
        [⟨.instruction .push, first, none⟩, ⟨.ident, first, some (.text ['é'])⟩,
          ⟨.instruction (.arith .add), ⟨3, ⟨13, 5⟩⟩, none⟩, ⟨.eof, ⟨3, ⟨18, 0⟩⟩, none⟩] ∧
      Token.IsPlaced source ⟨.ident, first, some (.text ['é'])⟩ := by
  intro source first
  let body : List Token :=
    [⟨.instruction .push, first, none⟩, ⟨.ident, first, some (.text ['é'])⟩,
      ⟨.instruction (.arith .add), ⟨3, ⟨13, 5⟩⟩, none⟩]
  have hlex : lex source = .ok (body ++ [⟨.eof, ⟨3, ⟨18, 0⟩⟩, none⟩]) := rfl
  refine ⟨hlex, ?_⟩
  obtain ⟨tokens, hends, hplaced, -⟩ := token_positions_exact source
  rcases hends with ⟨hok, -⟩ | ⟨fault, herror, -⟩
  · rw [hlex] at hok
    obtain ⟨rfl, -⟩ := List.append_inj' (Except.ok.inj hok) rfl
    exact (hplaced _ (by decide)).2
  · rw [hlex] at herror
    cases herror

end Source
end Stackline
