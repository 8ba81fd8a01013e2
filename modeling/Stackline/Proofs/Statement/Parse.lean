import Stackline.Proofs.Faults
import Stackline.Proofs.Mnemonic
import Stackline.Statement.Parse

/-!
Why a line can not be read as a statement, told by its text alone. `parse_eq_error_iff` says that the
malformed lines are those which reading refuses, each for its own cause.
-/

namespace Stackline

namespace Text

/--
A text begins with a word in any case; `rest` is what follows, without the blanks that lead it.
-/
def Begins (t word rest : Text) : Prop :=
  ∃ lead behind, t = lead ++ behind ∧ eqFold lead word ∧ rest = trimStart behind

/--
There is a blank in a text, and `word` stands before the first one.
-/
def FirstWord (t word : Text) : Prop :=
  ∃ c behind, t = word ++ c :: behind ∧ isBlank c = true ∧ ∀ x ∈ word, isBlank x = false

theorem begins_iff {t word rest : Text} : t.Begins word rest ↔ dropWord? word t = some rest :=
  dropWord?_eq_some_iff.symm

theorem firstWord_iff {t word : Text} :
    t.FirstWord word ↔ ∃ behind, t.cut? isBlank = some (word, behind) := by
  simp only [FirstWord, cut?_eq_some_iff]
  exact exists_comm

end Text

namespace Mnemonic

/--
The instruction word of a line. A line that begins with `pushd` does not count as one of `push`.
-/
structure Leads (m : Mnemonic) (line rest : Text) : Prop where
  begins : line.Begins m.word.toList rest
  longest : m = .push → ∀ rest', ¬ line.Begins pushd.word.toList rest'

theorem word_prefix_of_begins {m : Mnemonic} {line rest : Text}
    (h : line.Begins m.word.toList rest) : m.word.toList <+: line.map Char.toLower := by
  obtain ⟨lead, behind, rfl, hlead, -⟩ := h
  rw [Text.eqFold_iff, map_toLower_word] at hlead
  rw [List.map_append, hlead]
  apply List.prefix_append

theorem eq_push_of_prefix {m m' : Mnemonic} (h : m' ∈ all.takeWhile (· ≠ m))
    (hword : m.word.toList <+: m'.word.toList) : m = .push ∧ m' = .pushd := by
  have hall : ∀ m ∈ all, ∀ m' ∈ all.takeWhile (· ≠ m), m.word.toList <+: m'.word.toList →
      m = .push ∧ m' = .pushd := by
    decide
  exact hall m (mem_all m) m' h hword

theorem split?_eq_some_iff {m : Mnemonic} {line rest : Text} :
    split? line = some (m, rest) ↔ m.Leads line rest := by
  constructor
  · intro h
    constructor
    · obtain ⟨m', -, hm'⟩ := List.exists_of_findSome?_eq_some h
      obtain ⟨rest', hrest, heq⟩ := Option.map_eq_some_iff.1 hm'
      cases heq
      exact Text.begins_iff.2 hrest
    · rintro rfl rest' hbegins
      have hsplit : split? line = some (.pushd, rest') :=
        split?_of_dropWord? (Text.begins_iff.1 hbegins) nofun
      rw [h] at hsplit
      cases hsplit
  · intro h
    apply split?_of_dropWord? (Text.begins_iff.1 h.begins)
    intro m' hm'
    rw [Option.eq_none_iff_forall_ne_some]
    intro rest' hrest'
    have hbegins := Text.begins_iff.2 hrest'
    -- of two words that begin one line, one is the beginning of the other
    rcases List.prefix_or_prefix_of_prefix (word_prefix_of_begins h.begins)
      (word_prefix_of_begins hbegins) with hword | hword
    · obtain ⟨rfl, rfl⟩ := eq_push_of_prefix hm' hword
      exact h.longest rfl rest' hbegins
    · exact not_prefix_of_mem_takeWhile hm' hword

/--
What may not stand behind an instruction word.
-/
inductive Rejects (rest : Text) : Mnemonic → Cause → Prop where
  | untyped {m : Mnemonic} {word : Text} (typed : m = .push ∨ m = .pushd ∨ m = .var)
      (first : rest.FirstWord word) (untyped : ∀ ty : Ty, ¬ Text.eqFold word ty.word.toList) :
      Rejects rest m (.unknownType rest)
  | undeclared (lone : ∀ c ∈ rest, Text.isBlank c = false) : Rejects rest .var .declarationForm
  | unassigned (lone : ∀ c ∈ rest, Text.isBlank c = false) : Rejects rest .move .assignmentForm
  | numeric {word : Text} (first : rest.FirstWord word) (digits : ∀ c ∈ word, c.isDigit = true) :
      Rejects rest .move .numericName

theorem rejects_iff_of_push {m : Mnemonic} {rest : Text} {cause : Cause}
    (h : m = .push ∨ m = .pushd) :
    m.Rejects rest cause ↔
      cause = .unknownType rest ∧
        ∃ word, rest.FirstWord word ∧ ∀ ty : Ty, ¬ Text.eqFold word ty.word.toList := by
  constructor
  · intro hrejects
    cases hrejects with
    | untyped typed first untyped => exact ⟨rfl, _, first, untyped⟩
    | _ => simp at h
  · rintro ⟨rfl, word, first, untyped⟩
    exact .untyped (h.imp_right .inl) first untyped

theorem not_rejects {m : Mnemonic} {rest : Text} {cause : Cause} (hpush : m ≠ .push)
    (hpushd : m ≠ .pushd) (hvar : m ≠ .var) (hmove : m ≠ .move) : ¬ m.Rejects rest cause := by
  intro h
  cases h with
  | untyped typed first untyped => simp [hpush, hpushd, hvar] at typed
  | undeclared lone => exact hvar rfl
  | unassigned lone => exact hmove rfl
  | numeric first digits => exact hmove rfl

end Mnemonic

/--
The lines that are no statement, with the reason.
-/
inductive Malformed (line : Text) : Cause → Prop where
  | unknown (unmatched : ∀ (m : Mnemonic) (rest : Text), ¬ line.Begins m.word.toList rest) :
      Malformed line (.unknownInstruction line)
  | operand {m : Mnemonic} {rest : Text} {cause : Cause} (leads : m.Leads line rest)
      (rejects : m.Rejects rest cause) : Malformed line cause

theorem Ty.ofWord?_eq_none_iff {word : Text} :
    ofWord? word = none ↔ ∀ ty : Ty, ¬ Text.eqFold word ty.word.toList := by
  simp only [Option.eq_none_iff_forall_ne_some, ne_eq, ofWord?_eq_some_iff]

theorem Operand.parse_eq_error_iff {t : Text} {cause : Cause} :
    parse t = .error cause ↔
      cause = .unknownType t ∧
        ∃ word, t.FirstWord word ∧ ∀ ty : Ty, ¬ Text.eqFold word ty.word.toList := by
  simp only [Text.firstWord_iff, ← Ty.ofWord?_eq_none_iff, parse]
  split
  next hcut => simp [hcut]
  next word text hcut =>
    split
    next hty => simp [hcut, hty, eq_comm]
    next ty hty => simp [hcut, hty]

theorem Operand.parse_eq_name_iff {t : Text} :
    (∃ name?, parse t = .ok (.name name?)) ↔ ∀ c ∈ t, Text.isBlank c = false := by
  rw [← Text.cut?_eq_none_iff, parse]
  split
  next hcut => simp [hcut]
  next word text hcut => split <;> simp [hcut]

namespace Statement

theorem parseVar_eq_error_iff {rest : Text} {cause : Cause} :
    parseVar rest = .error cause ↔ Mnemonic.Rejects rest .var cause := by
  constructor
  · intro h
    unfold parseVar at h
    split at h
    next cause' hoperand =>
      cases h
      obtain ⟨rfl, word, hfirst, hty⟩ := Operand.parse_eq_error_iff.1 hoperand
      exact .untyped (.inr (.inr rfl)) hfirst hty
    next => cases h
    next name? hoperand =>
      cases h
      exact .undeclared (Operand.parse_eq_name_iff.1 ⟨name?, hoperand⟩)
  · intro h
    cases h with
    | untyped typed first untyped =>
      rw [parseVar, Operand.parse_eq_error_iff.2 ⟨rfl, _, first, untyped⟩]
    | undeclared lone =>
      obtain ⟨name?, hoperand⟩ := Operand.parse_eq_name_iff.2 lone
      rw [parseVar, hoperand]

theorem parseMove_eq_error_iff {rest : Text} {cause : Cause} :
    parseMove rest = .error cause ↔ Mnemonic.Rejects rest .move cause := by
  constructor
  · intro h
    unfold parseMove at h
    split at h
    next hcut =>
      cases h
      exact .unassigned (Text.cut?_eq_none_iff.1 hcut)
    next name text hcut =>
      split at h
      next hdigits =>
        cases h
        exact .numeric (Text.firstWord_iff.2 ⟨text, hcut⟩) (List.all_eq_true.1 hdigits)
      next => cases h
  · intro h
    cases h with
    | untyped typed first untyped => simp at typed
    | unassigned lone => rw [parseMove, Text.cut?_eq_none_iff.2 lone]
    | numeric first digits =>
      obtain ⟨behind, hcut⟩ := Text.firstWord_iff.1 first
      simp only [parseMove, hcut, List.all_eq_true.2 digits, if_true]

theorem parseRest_eq_error_iff {m : Mnemonic} {rest : Text} {cause : Cause} :
    parseRest rest m = .error cause ↔ m.Rejects rest cause := by
  cases m with
  | push =>
    rw [parseRest, Result.map_eq_error_iff, Operand.parse_eq_error_iff]
    exact (Mnemonic.rejects_iff_of_push (.inl rfl)).symm
  | pushd =>
    rw [parseRest, Result.map_eq_error_iff, Operand.parse_eq_error_iff]
    exact (Mnemonic.rejects_iff_of_push (.inr rfl)).symm
  | var => exact parseVar_eq_error_iff
  | move => exact parseMove_eq_error_iff
  | _ => simp [parseRest, Mnemonic.not_rejects]

theorem parse_eq_error_iff {line : Text} {cause : Cause} :
    parse line = .error cause ↔ Malformed line cause := by
  constructor
  · intro h
    unfold parse at h
    split at h
    next hsplit =>
      cases h
      apply Malformed.unknown
      intro m rest hbegins
      have hnone := Mnemonic.split?_eq_none_iff.1 hsplit m
      rw [Text.begins_iff.1 hbegins] at hnone
      cases hnone
    next m rest hsplit =>
      exact .operand (Mnemonic.split?_eq_some_iff.1 hsplit) (parseRest_eq_error_iff.1 h)
  · intro h
    cases h with
    | unknown unmatched =>
      have hsplit : Mnemonic.split? line = none := by
        rw [Mnemonic.split?_eq_none_iff]
        intro m
        rw [Option.eq_none_iff_forall_ne_some]
        intro rest hrest
        exact unmatched m rest (Text.begins_iff.2 hrest)
      rw [parse, hsplit]
    | operand leads rejects =>
      rw [parse, Mnemonic.split?_eq_some_iff.2 leads]
      exact parseRest_eq_error_iff.2 rejects

theorem isReading_of_parse {line : Text} {cause : Cause} (h : parse line = .error cause) :
    cause.isReading := by
  cases parse_eq_error_iff.1 h with
  | unknown unmatched => rfl
  | operand leads rejects => cases rejects <;> rfl

end Statement
end Stackline
