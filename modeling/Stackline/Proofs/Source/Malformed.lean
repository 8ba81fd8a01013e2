import Stackline.Proofs.Source.Lex

/-!
Reading a source that need not be well formed. Reading stops at the first malformed line, and no
token of this line or of a later one is handed out.
-/

namespace Stackline
namespace Source

/--
The first malformed line of a source, the lines before it that are not blank, and the cause.
-/
structure FirstMalformed (source : Text) (before : List Line) (line : Line) (cause : Cause) :
    Prop where
  code : before ++ [line] <+: codeLines source
  wellFormed : ∀ l ∈ before, ∃ s, l.parse = .ok s
  malformed : line.parse = .error cause

theorem wellFormed_or_malformed (ls : List Line) :
    (∀ line ∈ ls, ∃ s, line.parse = .ok s) ∨
      ∃ before line cause, before ++ [line] <+: ls ∧ (∀ l ∈ before, ∃ s, l.parse = .ok s) ∧
        line.parse = .error cause := by
  induction ls with
  | nil =>
    left
    intro line hline
    cases hline
  | cons first ls ih =>
    cases hparse : first.parse with
    | error cause =>
      right
      refine ⟨[], first, cause, ?_, ?_, hparse⟩
      · rw [List.nil_append, List.singleton_prefix_cons_iff]
      · intro line hline
        cases hline
    | ok s =>
      rcases ih with hwf | ⟨before, line, cause, hcode, hbefore, hline⟩
      · left
        rw [List.forall_mem_cons]
        exact ⟨⟨s, hparse⟩, hwf⟩
      · right
        refine ⟨first :: before, line, cause, ?_, ?_, hline⟩
        · rw [List.cons_append, List.cons_prefix_cons]
          exact ⟨rfl, hcode⟩
        · rw [List.forall_mem_cons]
          exact ⟨⟨s, hparse⟩, hbefore⟩

theorem wellFormed_or_firstMalformed (source : Text) :
    WellFormed source ∨ ∃ before line cause, FirstMalformed source before line cause := by
  rcases wellFormed_or_malformed (codeLines source) with
    h | ⟨before, line, cause, hcode, hbefore, hline⟩
  · exact .inl h
  · exact .inr ⟨before, line, cause, hcode, hbefore, hline⟩

theorem scan.foldr_before_of_malformed {ls before : List Line} {line : Line} {cause : Cause}
    (hcode : before ++ [line] <+: ls.filter fun line => !line.isBlank)
    (hbefore : ∀ l ∈ before, ∃ s, l.parse = .ok s) (hline : line.parse = .error cause)
    (rest : List Token × Option Fault) :
    ls.foldr scan.before rest =
      (before.flatMap Line.tokens, some (.located line.position cause)) := by
  induction ls generalizing before with
  | nil => simp at hcode
  | cons first ls ih =>
    rw [List.foldr_cons, scan.before]
    cases hblank : first.isBlank with
    | true =>
      simp only [hblank, List.filter_cons, Bool.not_true, Bool.false_eq_true, if_false] at hcode
      rw [if_pos rfl]
      exact ih hcode hbefore
    | false =>
      simp only [hblank, List.filter_cons, Bool.not_false, if_true] at hcode
      rw [if_neg Bool.false_ne_true]
      cases before with
      | nil =>
        rw [List.nil_append, List.singleton_prefix_cons_iff] at hcode
        subst hcode
        rw [hline]
        rfl
      | cons l before =>
        rw [List.cons_append, List.cons_prefix_cons] at hcode
        rw [List.forall_mem_cons] at hbefore
        obtain ⟨rfl, hcode⟩ := hcode
        obtain ⟨⟨s, hs⟩, hbefore⟩ := hbefore
        rw [ih hcode hbefore, hs, List.flatMap_cons, Line.tokens_of_parse hs]

theorem scan_of_wellFormed {source : Text} (h : WellFormed source) :
    scan source = ((block source).tokens ++ [endToken source], none) := by
  rw [scan, scan.foldr_before_of_wellFormed _ h, tokens_block h]
  rfl

namespace FirstMalformed

variable {source : Text} {before : List Line} {line : Line} {cause : Cause}

theorem scan_eq (h : FirstMalformed source before line cause) :
    scan source = (before.flatMap Line.tokens, some (.located line.position cause)) :=
  scan.foldr_before_of_malformed h.code h.wellFormed h.malformed _

theorem lex_eq (h : FirstMalformed source before line cause) :
    lex source = .error (.located line.position cause) := by
  rw [lex, h.scan_eq]

end FirstMalformed

theorem lex_eq_error_iff {source : Text} {fault : Fault} :
    lex source = .error fault ↔
      ∃ before line cause, FirstMalformed source before line cause ∧
        fault = .located line.position cause := by
  constructor
  · intro h
    rcases wellFormed_or_firstMalformed source with hwf | ⟨before, line, cause, hmalformed⟩
    · rw [lex, scan_of_wellFormed hwf] at h
      cases h
    · rw [hmalformed.lex_eq] at h
      cases h
      exact ⟨before, line, cause, hmalformed, rfl⟩
  · rintro ⟨before, line, cause, hmalformed, rfl⟩
    exact hmalformed.lex_eq

end Source
end Stackline
