import Stackline.Proofs.Source.Lex
import Stackline.Proofs.Text.Trim

/-!
Where the lines of a source stand: their numbers count from one, and each begins behind the bytes of
the lines before it. The bytes at the position of a line are those of its trimmed text.
-/

namespace Stackline

/--
A span covers a part of a text: it begins behind the bytes of what stands before, and cuts no
character.
-/
def Text.Covers (source : Text) (span : Span) (part : Text) : Prop :=
  ∃ before behind, source = before ++ part ++ behind ∧
    span = ⟨before.byteLength, part.byteLength⟩

theorem Text.Covers.bytes {source part : Text} {span : Span} (h : source.Covers span part) :
    ((utf8 source).drop span.offset).take span.length = utf8 part := by
  obtain ⟨before, behind, rfl, rfl⟩ := h
  rw [utf8_append, utf8_append, List.append_assoc, ← length_utf8 before, List.drop_left,
    ← length_utf8 part, List.take_left]

namespace Source

theorem mem_cutLines {source line : Text} (h : line ∈ cutLines source) :
    ∃ core, '\n' ∉ core ∧ (line = core ∨ line = core ++ ['\n']) := by
  induction source generalizing line with
  | nil => cases h
  | cons c source ih =>
    have hlines : cutLines (c :: source) = cutLines.extend c (cutLines source) := rfl
    -- a newline is a line of its own before the lines behind it, any other character joins the next
    have hsingle : ∃ core, '\n' ∉ core ∧ ([c] = core ∨ [c] = core ++ ['\n']) := by
      by_cases hc : c = '\n'
      · exact ⟨[], List.not_mem_nil, .inr (by rw [hc, List.nil_append])⟩
      · exact ⟨[c], by simpa using Ne.symm hc, .inl rfl⟩
    rw [hlines] at h
    cases hrest : cutLines source with
    | nil =>
      rw [hrest, cutLines.extend, List.mem_singleton] at h
      rw [h]
      exact hsingle
    | cons first rest =>
      rw [hrest] at ih
      rw [hrest, cutLines.extend] at h
      split at h
      next =>
        rcases List.mem_cons.1 h with rfl | h
        · exact hsingle
        · exact ih h
      next hc =>
        rcases List.mem_cons.1 h with rfl | h
        · obtain ⟨core, hcore, hfirst⟩ := ih List.mem_cons_self
          refine ⟨c :: core, ?_, ?_⟩
          · rw [List.mem_cons, not_or]
            exact ⟨Ne.symm hc, hcore⟩
          · rcases hfirst with rfl | rfl
            · exact .inl rfl
            · exact .inr rfl
        · exact ih (List.mem_cons_of_mem first h)

theorem cutLines_of_not_mem {t : Text} (hne : t ≠ []) (h : '\n' ∉ t) : cutLines t = [t] := by
  induction t with
  | nil => exact absurd rfl hne
  | cons c t ih =>
    rw [List.mem_cons, not_or] at h
    have hlines : cutLines (c :: t) = cutLines.extend c (cutLines t) := rfl
    cases t with
    | nil => rfl
    | cons d t =>
      rw [hlines, ih (List.cons_ne_nil d t) h.2, cutLines.extend, if_neg (Ne.symm h.1)]

theorem cutLines_cons_newline {t : Text} (h : '\n' ∉ t) (rest : Text) :
    cutLines (t ++ '\n' :: rest) = (t ++ ['\n']) :: cutLines rest := by
  have hline : cutLines (t ++ ['\n']) = [t ++ ['\n']] := by
    induction t with
    | nil => rfl
    | cons c t ih =>
      rw [List.mem_cons, not_or] at h
      have hlines : cutLines (c :: t ++ ['\n']) = cutLines.extend c (cutLines (t ++ ['\n'])) := rfl
      rw [hlines, ih h.2, cutLines.extend, if_neg (Ne.symm h.1)]
      rfl
  rw [cutLines_newline_append, hline]
  rfl

theorem getElem?_locate (number offset : Nat) (xs : List Text) (index : Nat) :
    (locate number offset xs)[index]? =
      xs[index]?.map fun text =>
        ⟨number + index, offset + Text.byteLength (xs.take index).flatten, text⟩ := by
  induction xs generalizing number offset index with
  | nil => rfl
  | cons x xs ih =>
    cases index with
    | zero => rfl
    | succ index =>
      rw [locate, List.getElem?_cons_succ, List.getElem?_cons_succ, ih]
      simp only [List.take_succ_cons, List.flatten_cons, Text.byteLength_append]
      congr 1
      funext text
      congr 1
      · omega
      · omega

theorem getElem?_lines (source : Text) (index : Nat) :
    (lines source)[index]? =
      (cutLines source)[index]?.map fun text =>
        ⟨index + 1, Text.byteLength ((cutLines source).take index).flatten, text⟩ := by
  rw [lines, getElem?_locate]
  simp only [Nat.zero_add, Nat.add_comm 1]

theorem exists_of_mem_lines {source : Text} {line : Line} (h : line ∈ lines source) :
    ∃ index text, (cutLines source)[index]? = some text ∧
      line = ⟨index + 1, Text.byteLength ((cutLines source).take index).flatten, text⟩ := by
  obtain ⟨index, hindex⟩ := List.mem_iff_getElem?.1 h
  rw [getElem?_lines] at hindex
  obtain ⟨text, htext, rfl⟩ := Option.map_eq_some_iff.1 hindex
  exact ⟨index, text, htext, rfl⟩

theorem pairwise_number_lines (source : Text) :
    (lines source).Pairwise fun a b => a.number < b.number := by
  rw [List.pairwise_iff_getElem]
  intro i j hi hj hij
  have hnumber : ∀ k (hk : k < (lines source).length), (lines source)[k].number = k + 1 := by
    intro k hk
    have hline := getElem?_lines source k
    rw [List.getElem?_eq_getElem hk] at hline
    obtain ⟨text, -, hline⟩ := Option.map_eq_some_iff.1 hline.symm
    rw [← hline]
  rw [hnumber i hi, hnumber j hj]
  omega

theorem pairwise_number_codeLines (source : Text) :
    (codeLines source).Pairwise fun a b => a.number < b.number :=
  (pairwise_number_lines source).filter _

/--
A position points at a line of the source that is not blank: it has the number of the line, and its
span begins behind the lines before and the blanks that lead the line and covers the bytes of the
trimmed text.
-/
structure PointsAt (source : Text) (position : Position) (line : Line) : Prop where
  number : position.line = line.number
  numbered : ∃ index, line.number = index + 1 ∧ (cutLines source)[index]? = some line.text ∧
    position.span.offset =
      Text.byteLength (((cutLines source).take index).flatten ++ Text.indent line.text)
  not_blank : line.trimmed ≠ []
  length : position.span.length = Text.byteLength line.trimmed
  bytes : ((Text.utf8 source).drop position.span.offset).take position.span.length =
    Text.utf8 line.trimmed

theorem eq_append_of_getElem?_cutLines {source text : Text} {index : Nat}
    (h : (cutLines source)[index]? = some text) :
    source = ((cutLines source).take index).flatten ++ text ++
      ((cutLines source).drop (index + 1)).flatten := by
  obtain ⟨hlt, rfl⟩ := List.getElem?_eq_some_iff.1 h
  conv => lhs; rw [← flatten_cutLines source, ← List.take_append_drop index (cutLines source),
    List.drop_eq_getElem_cons hlt, List.flatten_append, List.flatten_cons, ← List.append_assoc]

theorem covers_position {source : Text} {line : Line} (h : line ∈ lines source) :
    source.Covers line.position.span line.trimmed := by
  obtain ⟨index, text, htext, rfl⟩ := exists_of_mem_lines h
  obtain ⟨right, -, hright⟩ := Text.exists_trim_append text
  have hsource := eq_append_of_getElem?_cutLines htext
  rw [← hright] at hsource
  refine ⟨((cutLines source).take index).flatten ++ Text.indent text,
    right ++ ((cutLines source).drop (index + 1)).flatten, ?_, ?_⟩
  · simpa [Line.trimmed] using hsource
  · rw [Text.byteLength_append]
    rfl

theorem pointsAt_position {source : Text} {line : Line} (h : line ∈ codeLines source) :
    PointsAt source line.position line := by
  obtain ⟨hmem, hblank⟩ := List.mem_filter.1 h
  obtain ⟨index, text, htext, rfl⟩ := exists_of_mem_lines hmem
  constructor
  · rfl
  · refine ⟨index, rfl, htext, ?_⟩
    rw [Text.byteLength_append]
    rfl
  · simpa [Line.isBlank] using hblank
  · rfl
  · exact (covers_position hmem).bytes

end Source

theorem Line.isPhrase_trimmed {source : Text} {line : Line} (h : line ∈ Source.codeLines source) :
    line.trimmed.IsPhrase := by
  obtain ⟨hmem, hblank⟩ := List.mem_filter.1 h
  refine ⟨by simpa [isBlank] using hblank, Text.isTrimmed_trim line.text, ?_⟩
  obtain ⟨index, text, htext, rfl⟩ := Source.exists_of_mem_lines hmem
  obtain ⟨core, hcore, rfl | rfl⟩ := Source.mem_cutLines (List.mem_of_getElem? htext)
  · intro hnewline
    exact hcore (Text.mem_of_mem_trim hnewline)
  · -- the newline at the end of the line is trimmed
    have htrim := Text.trim_append_append Text.blank_nil Text.blank_newline core
    rw [List.nil_append] at htrim
    intro hnewline
    rw [trimmed, htrim] at hnewline
    exact hcore (Text.mem_of_mem_trim hnewline)

end Stackline
