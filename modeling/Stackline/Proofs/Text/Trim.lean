import Stackline.Text.Blank

/-!
Trimmed texts. A text is made of blanks, its trimmed text and blanks, and the trimmed text is the
only one without blanks at its ends for which this holds.
-/

namespace Stackline
namespace Text

def Blank (t : Text) : Prop :=
  ∀ c ∈ t, isBlank c = true

instance (t : Text) : Decidable t.Blank :=
  List.decidableBAll (fun c => isBlank c = true) t

/--
There are no blanks at the ends of a text.
-/
structure IsTrimmed (t : Text) : Prop where
  head : ∀ c, t.head? = some c → isBlank c = false
  last : ∀ c, t.getLast? = some c → isBlank c = false

theorem blank_nil : Blank [] :=
  nofun

theorem blank_newline : Blank ['\n'] := by decide +kernel

theorem Blank.append {s t : Text} (hs : s.Blank) (ht : t.Blank) : (s ++ t).Blank := by
  intro c hc
  rcases List.mem_append.1 hc with hc | hc
  · exact hs c hc
  · exact ht c hc

theorem trimStart_append {left : Text} (h : left.Blank) (t : Text) :
    trimStart (left ++ t) = trimStart t :=
  List.dropWhile_append_of_pos h

theorem trimStart_of_blank {t : Text} (h : t.Blank) : trimStart t = [] := by
  have happend := trimStart_append h []
  rwa [List.append_nil] at happend

theorem trimStart_of_head {t : Text} (h : ∀ c, t.head? = some c → isBlank c = false) :
    trimStart t = t := by
  cases t with
  | nil => rfl
  | cons c t => exact trimStart_cons_of_not_blank (h c rfl) t

theorem head_trimStart (t : Text) : ∀ c, (trimStart t).head? = some c → isBlank c = false := by
  induction t with
  | nil =>
    intro c hc
    cases hc
  | cons d t ih =>
    cases hd : isBlank d with
    | true =>
      rw [trimStart_cons_of_blank hd]
      exact ih
    | false =>
      rw [trimStart_cons_of_not_blank hd]
      intro c hc
      cases hc
      exact hd

theorem trimEnd_eq_reverse (t : Text) : trimEnd t = (trimStart t.reverse).reverse := rfl

theorem trimEnd_append {right : Text} (h : right.Blank) (t : Text) :
    trimEnd (t ++ right) = trimEnd t := by
  rw [trimEnd_eq_reverse, List.reverse_append, trimStart_append, trimEnd_eq_reverse]
  intro c hc
  exact h c (List.mem_reverse.1 hc)

theorem trimEnd_of_last {t : Text} (h : ∀ c, t.getLast? = some c → isBlank c = false) :
    trimEnd t = t := by
  rw [trimEnd_eq_reverse, trimStart_of_head, List.reverse_reverse]
  intro c hc
  rw [List.head?_reverse] at hc
  exact h c hc

theorem last_trimEnd (t : Text) : ∀ c, (trimEnd t).getLast? = some c → isBlank c = false := by
  intro c hc
  rw [trimEnd_eq_reverse, List.getLast?_reverse] at hc
  exact head_trimStart t.reverse c hc

theorem blank_indent (t : Text) : (indent t).Blank := by
  intro c hc
  exact List.all_eq_true.1 List.all_takeWhile c hc

theorem exists_trimEnd_append (t : Text) : ∃ right, Blank right ∧ trimEnd t ++ right = t := by
  refine ⟨(indent t.reverse).reverse, ?_, ?_⟩
  · intro c hc
    exact blank_indent t.reverse c (List.mem_reverse.1 hc)
  · rw [trimEnd_eq_reverse, ← List.reverse_append, indent_append_trimStart, List.reverse_reverse]

theorem exists_trim_append (t : Text) :
    ∃ right, Blank right ∧ indent t ++ trim t ++ right = t := by
  obtain ⟨right, hright, heq⟩ := exists_trimEnd_append (trimStart t)
  refine ⟨right, hright, ?_⟩
  rw [trim, List.append_assoc, heq, indent_append_trimStart]

theorem isTrimmed_trim (t : Text) : (trim t).IsTrimmed := by
  constructor
  · intro c hc
    obtain ⟨right, -, heq⟩ := exists_trimEnd_append (trimStart t)
    apply head_trimStart t
    rw [trim] at hc
    rw [← heq, List.head?_append, hc]
    rfl
  · exact last_trimEnd (trimStart t)

theorem trim_of_isTrimmed {left core right : Text} (hleft : left.Blank) (hcore : core.IsTrimmed)
    (hright : right.Blank) : trim (left ++ core ++ right) = core := by
  rw [trim, List.append_assoc, trimStart_append hleft]
  cases core with
  | nil =>
    rw [List.nil_append, trimStart_of_blank hright]
    rfl
  | cons c core =>
    rw [List.cons_append, trimStart_cons_of_not_blank (hcore.head c rfl), ← List.cons_append,
      trimEnd_append hright, trimEnd_of_last hcore.last]

theorem trim_append_append {left right : Text} (hleft : left.Blank) (hright : right.Blank)
    (core : Text) : trim (left ++ core ++ right) = trim core := by
  obtain ⟨right', hright', heq⟩ := exists_trim_append core
  have hsplit : left ++ core ++ right =
      (left ++ indent core) ++ trim core ++ (right' ++ right) := by
    conv => lhs; rw [← heq]
    simp only [List.append_assoc]
  rw [hsplit]
  exact trim_of_isTrimmed (hleft.append (blank_indent core)) (isTrimmed_trim core)
    (hright'.append hright)

/--
A text between two trimmed ones.
-/
theorem IsTrimmed.append {s t : Text} (hs : s.IsTrimmed) (ht : t.IsTrimmed) (hsne : s ≠ [])
    (htne : t ≠ []) (between : Text) : (s ++ between ++ t).IsTrimmed := by
  constructor
  · intro c hc
    obtain ⟨d, s, rfl⟩ := List.exists_cons_of_ne_nil hsne
    exact hs.head c hc
  · intro c hc
    rw [List.getLast?_append, Option.or_of_isSome (List.getLast?_isSome.2 htne)] at hc
    exact ht.last c hc

theorem isTrimmed_of_not_blank {t : Text} (h : ∀ c ∈ t, isBlank c = false) : t.IsTrimmed := by
  constructor
  · intro c hc
    exact h c (List.mem_of_head? hc)
  · intro c hc
    exact h c (List.mem_of_getLast? hc)

theorem IsTrimmed.trim_eq {t : Text} (h : t.IsTrimmed) : trim t = t := by
  rw [trim, trimStart_of_head h.head, trimEnd_of_last h.last]

theorem isTrimmed_iff {t : Text} : t.IsTrimmed ↔ trim t = t := by
  constructor
  · intro h
    exact h.trim_eq
  · intro h
    rw [← h]
    exact isTrimmed_trim t

theorem IsTrimmed.trimStart_of_append {s t : Text} (h : (s ++ t).IsTrimmed) :
    (trimStart t).IsTrimmed := by
  constructor
  · exact head_trimStart t
  · intro c hc
    apply h.last
    rw [← indent_append_trimStart t, List.getLast?_append, List.getLast?_append, hc]
    rfl

theorem IsTrimmed.trimStart_ne_nil {s t : Text} {c : Char} (h : (s ++ c :: t).IsTrimmed)
    (hc : isBlank c = true) : trimStart t ≠ [] := by
  intro hnil
  -- otherwise there is nothing but blanks from the character on
  have ht := indent_append_trimStart t
  rw [hnil, List.append_nil] at ht
  have hblank : Blank (c :: t) := by
    intro d hd
    rcases List.mem_cons.1 hd with rfl | hd
    · exact hc
    · rw [← ht] at hd
      exact blank_indent t d hd
  obtain ⟨d, hd⟩ := Option.isSome_iff_exists.1 (List.getLast?_isSome.2 (List.cons_ne_nil c t))
  have hlast := h.last d (by rw [List.getLast?_append, hd]; rfl)
  rw [hblank d (List.mem_of_getLast? hd)] at hlast
  cases hlast

theorem mem_of_mem_trimStart {t : Text} {c : Char} (h : c ∈ trimStart t) : c ∈ t := by
  rw [← indent_append_trimStart t]
  exact List.mem_append_right _ h

theorem mem_of_mem_trim {t : Text} {c : Char} (h : c ∈ trim t) : c ∈ t := by
  obtain ⟨right, -, heq⟩ := exists_trim_append t
  rw [← heq]
  exact List.mem_append_left _ (List.mem_append_right _ h)

structure IsWord (t : Text) : Prop where
  ne_nil : t ≠ []
  not_blank : ∀ c ∈ t, isBlank c = false

instance (t : Text) : Decidable t.IsWord :=
  decidable_of_iff (t ≠ [] ∧ t.all (fun c => !isBlank c) = true)
    ⟨fun h => ⟨h.1, by simpa using h.2⟩, fun h => ⟨h.ne_nil, by simpa using h.not_blank⟩⟩

/--
What can stand in a line between blanks: one word or several.
-/
structure IsPhrase (t : Text) : Prop where
  ne_nil : t ≠ []
  trimmed : t.IsTrimmed
  newline : '\n' ∉ t

instance (t : Text) : Decidable t.IsPhrase :=
  decidable_of_iff (t ≠ [] ∧ trim t = t ∧ '\n' ∉ t)
    ⟨fun h => ⟨h.1, isTrimmed_iff.2 h.2.1, h.2.2⟩,
      fun h => ⟨h.ne_nil, isTrimmed_iff.1 h.trimmed, h.newline⟩⟩

theorem IsWord.isPhrase {t : Text} (h : t.IsWord) : t.IsPhrase := by
  refine ⟨h.ne_nil, isTrimmed_of_not_blank h.not_blank, ?_⟩
  intro hmem
  have hblank := h.not_blank '\n' hmem
  rw [isBlank_newline] at hblank
  cases hblank

theorem IsPhrase.join {s t : Text} (hs : s.IsPhrase) (ht : t.IsPhrase) :
    (s ++ ' ' :: t).IsPhrase := by
  rw [List.append_cons]
  constructor
  · intro hnil
    exact ht.ne_nil (List.append_eq_nil_iff.1 hnil).2
  · exact hs.trimmed.append ht.trimmed hs.ne_nil ht.ne_nil [' ']
  · intro hmem
    rcases List.mem_append.1 hmem with hmem | hmem
    · rcases List.mem_append.1 hmem with hmem | hmem
      · exact hs.newline hmem
      · simp at hmem
    · exact ht.newline hmem

end Text
end Stackline
