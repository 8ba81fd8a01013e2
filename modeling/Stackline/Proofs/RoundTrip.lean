import Mathlib.Data.List.Forall2
import Stackline.Proofs.Group
import Stackline.Proofs.Source.Append
import Stackline.Proofs.Source.Lines

/-!
Reading and rendering undo each other. Well-formed groups of tokens, rendered as the lines of a
source, are read back, and what is read from any source are well-formed groups, one from each line
that is not blank.
-/

namespace Stackline

/--
A token and the number of its line.
-/
def Token.entry (token : Token) : Kind × Option Payload × Nat :=
  (token.kind, token.payload, token.position.line)

namespace Group

/--
The source whose lines are the groups.
-/
def source (groups : List Group) : Text :=
  ['\n'].intercalate (groups.map render)

/--
The tokens of groups that stand on the lines with certain numbers.
-/
def entries (groups : List Group) (numbers : List Nat) : List (Kind × Option Payload × Nat) :=
  (groups.zipWith (fun g number => g.map fun (kind, payload) => (kind, payload, number))
    numbers).flatten

end Group

/--
The group of tokens that a line is read as.
-/
def Line.ReadAs (line : Line) (g : Group) : Prop :=
  ∃ s, line.parse = .ok s ∧ s.shape = g

def Line.group (line : Line) : Group :=
  match line.parse with
  | .ok s => s.shape
  | .error _ => []

theorem Line.group_of_parse {line : Line} {s : Statement} (h : line.parse = .ok s) :
    line.group = s.shape := by
  rw [group, h]

namespace Source

theorem entry_tokens_of_readAs {ls : List Line} {groups : List Group}
    (h : List.Forall₂ Line.ReadAs ls groups) :
    (ls.flatMap Line.tokens).map Token.entry = Group.entries groups (ls.map Line.number) := by
  induction h with
  | nil => rfl
  | @cons line g ls groups hline _ ih =>
    obtain ⟨s, hs, rfl⟩ := hline
    rw [List.flatMap_cons, List.map_append, ih, Line.tokens_of_parse hs, Statement.tokens,
      List.map_map]
    rfl

theorem lex_of_readAs {source : Text} {groups : List Group}
    (h : List.Forall₂ Line.ReadAs (codeLines source) groups) :
    ∃ tokens, lex source = .ok tokens ∧
      tokens.map Token.entry =
        Group.entries groups ((codeLines source).map Line.number) ++
          [(.eof, none, (lines source).length)] := by
  have hwf : WellFormed source := by
    have hboth : List.Forall₂ (fun line g => (∃ s, line.parse = .ok s) ∧ line.ReadAs g)
        (codeLines source) groups := by
      refine h.imp ?_
      rintro line g ⟨s, hs, hshape⟩
      exact ⟨⟨s, hs⟩, s, hs, hshape⟩
    exact ((List.forall₂_and_left _ _).1 hboth).1
  refine ⟨_, lex_eq_ok_iff.2 ⟨hwf, rfl⟩, ?_⟩
  rw [List.map_append, tokens_block hwf, entry_tokens_of_readAs h]
  rfl

theorem forall₂_cutLines_intercalate {ts : List Text} (h : ∀ t ∈ ts, t.IsPhrase) :
    List.Forall₂ (fun line t => Text.trim line = t) (cutLines (['\n'].intercalate ts)) ts := by
  induction ts with
  | nil => exact .nil
  | cons t ts ih =>
    rw [List.forall_mem_cons] at h
    obtain ⟨ht, hts⟩ := h
    cases ts with
    | nil =>
      have hsource : ['\n'].intercalate [t] = t := by simp
      rw [hsource, cutLines_of_not_mem ht.ne_nil ht.newline]
      exact .cons ht.trimmed.trim_eq .nil
    | cons t' ts =>
      have hsource : ['\n'].intercalate (t :: t' :: ts) =
          t ++ '\n' :: ['\n'].intercalate (t' :: ts) := by
        simp [List.intercalate]
      have htrim := Text.trim_of_isTrimmed Text.blank_nil ht.trimmed Text.blank_newline
      rw [hsource, cutLines_cons_newline ht.newline]
      exact .cons htrim (ih hts)

theorem readAs_locate {xs : List Text} {groups : List Group}
    (h : List.Forall₂ (fun line g => Text.trim line = Group.render g) xs groups)
    (hgroups : ∀ g ∈ groups, g.WellFormed) (number offset : Nat) :
    List.Forall₂ Line.ReadAs
        ((locate number offset xs).filter fun line => !line.isBlank) groups ∧
      ((locate number offset xs).filter fun line => !line.isBlank).map Line.number =
        List.range' number groups.length := by
  induction h generalizing number offset with
  | nil => exact ⟨.nil, rfl⟩
  | @cons x g xs groups hx _ ih =>
    rw [List.forall_mem_cons] at hgroups
    obtain ⟨hreads, hnumbers⟩ := ih hgroups.2 (number + 1) (offset + x.byteLength)
    obtain ⟨s, hs, hshape⟩ := hgroups.1.parse_render
    have hblank : Line.isBlank ⟨number, offset, x⟩ = false := by
      have hne := hgroups.1.isPhrase_render.ne_nil
      rw [← hx] at hne
      exact List.isEmpty_eq_false_iff.2 hne
    have hread : Line.ReadAs ⟨number, offset, x⟩ g := by
      refine ⟨s, ?_, hshape⟩
      rw [← hs, ← hx]
      rfl
    rw [locate, List.filter_cons, hblank]
    refine ⟨.cons hread hreads, ?_⟩
    rw [if_pos (by rfl), List.map_cons, hnumbers]
    rfl

theorem readAs_source {groups : List Group} (h : ∀ g ∈ groups, g.WellFormed) :
    List.Forall₂ Line.ReadAs (codeLines (Group.source groups)) groups ∧
      (codeLines (Group.source groups)).map Line.number = List.range' 1 groups.length ∧
      (lines (Group.source groups)).length = groups.length := by
  have hphrases : ∀ t ∈ groups.map Group.render, t.IsPhrase := by
    rw [List.forall_mem_map]
    intro g hg
    exact (h g hg).isPhrase_render
  have hlines := forall₂_cutLines_intercalate hphrases
  rw [List.forall₂_map_right_iff] at hlines
  obtain ⟨hreads, hnumbers⟩ := readAs_locate hlines h 1 0
  refine ⟨hreads, hnumbers, ?_⟩
  rw [lines, length_locate]
  exact hlines.length_eq

theorem lex_source {groups : List Group} (h : ∀ g ∈ groups, g.WellFormed) :
    ∃ tokens, lex (Group.source groups) = .ok tokens ∧
      tokens.map Token.entry =
        Group.entries groups (List.range' 1 groups.length) ++ [(.eof, none, groups.length)] := by
  obtain ⟨hreads, hnumbers, hlength⟩ := readAs_source h
  have hlex := lex_of_readAs hreads
  rwa [hnumbers, hlength] at hlex

theorem exists_readAs {source : Text} (h : WellFormed source) :
    ∃ groups, List.Forall₂ Line.ReadAs (codeLines source) groups ∧
      ∀ g ∈ groups, Group.WellFormed g := by
  refine ⟨(codeLines source).map Line.group, ?_, ?_⟩
  · rw [List.forall₂_map_right_iff, List.forall₂_same]
    intro line hline
    obtain ⟨s, hs⟩ := h line hline
    exact ⟨s, hs, (Line.group_of_parse hs).symm⟩
  · rw [List.forall_mem_map]
    intro line hline
    obtain ⟨s, hs⟩ := h line hline
    rw [Line.group_of_parse hs]
    exact Group.wellFormed_of_parse (Line.isPhrase_trimmed hline) hs

end Source

theorem Group.flatten_of_entries {groups : List Group} {numbers : List Nat}
    (h : groups.length = numbers.length) :
    (entries groups numbers).map (fun (kind, payload, _) => (kind, payload)) = groups.flatten := by
  induction groups generalizing numbers with
  | nil => rfl
  | cons g groups ih =>
    cases numbers with
    | nil => cases h
    | cons number numbers =>
      have hentries : entries (g :: groups) (number :: numbers) =
          (g.map fun (kind, payload) => (kind, payload, number)) ++ entries groups numbers := rfl
      rw [hentries, List.map_append, ih (Nat.succ.inj h), List.map_map, List.flatten_cons]
      congr 1
      exact List.map_id g

/--
Groups of tokens that are well formed are read back from the lines that they are rendered as, each
from its own line. What is read from a source are such groups, one from each line that is not blank,
and these are read back with the same kinds and payloads.
-/
theorem lex_render_groups :
    (∀ groups : List Group, (∀ g ∈ groups, g.WellFormed) →
      ∃ tokens, Source.lex (Group.source groups) = .ok tokens ∧
        tokens.map Token.entry =
          Group.entries groups (List.range' 1 groups.length) ++ [(.eof, none, groups.length)]) ∧
    ∀ source tokens, Source.lex source = .ok tokens →
      ∃ groups : List Group, (∀ g ∈ groups, g.WellFormed) ∧
        groups.length = (Source.codeLines source).length ∧
        tokens.map Token.entry =
          Group.entries groups ((Source.codeLines source).map Line.number) ++
            [(.eof, none, (Source.lines source).length)] ∧
        ∃ tokens', Source.lex (Group.source groups) = .ok tokens' ∧
          tokens'.map (fun token => (token.kind, token.payload)) =
            tokens.map fun token => (token.kind, token.payload) := by
  constructor
  · intro groups hgroups
    exact Source.lex_source hgroups
  · intro source tokens hlex
    obtain ⟨groups, hreads, hgroups⟩ := Source.exists_readAs (Source.lex_eq_ok_iff.1 hlex).1
    obtain ⟨tokens'', hlex'', hentries⟩ := Source.lex_of_readAs hreads
    obtain rfl : tokens = tokens'' := Except.ok.inj (hlex.symm.trans hlex'')
    obtain ⟨tokens', hlex', hentries'⟩ := Source.lex_source hgroups
    have hlength := hreads.length_eq.symm
    refine ⟨groups, hgroups, hlength, hentries, tokens', hlex', ?_⟩
    have hforms : ∀ ts : List Token, (ts.map fun token => (token.kind, token.payload)) =
        (ts.map Token.entry).map fun (kind, payload, _) => (kind, payload) := by
      intro ts
      rw [List.map_map]
      rfl
    rw [hforms, hforms, hentries, hentries', List.map_append, List.map_append,
      Group.flatten_of_entries, Group.flatten_of_entries]
    · rfl
    · rw [List.length_map, hlength]
    · rw [List.length_range']

theorem lex_render_groups_spaced :
    (∃ tokens, Source.lex (Group.source
        [[(.instruction .move, none), (.ident, some (.text "x1".toList)),
          (.value, some (.text "a  b".toList))], [(.instruction .pop, none), (.ident, none)]]) =
        .ok tokens ∧
      tokens.map Token.entry =
        [(.instruction .move, none, 1), (.ident, some (.text "x1".toList), 1),
          (.value, some (.text "a  b".toList), 1), (.instruction .pop, none, 2), (.ident, none, 2),
          (.eof, none, 2)]) ∧
    ∃ tokens, Source.lex "\tPushd UINT  7 \n\nprint".toList = .ok tokens ∧
      ∃ groups : List Group, groups.length = 2 ∧
        ∃ tokens', Source.lex (Group.source groups) = .ok tokens' ∧
          tokens'.map (fun token => (token.kind, token.payload)) =
            tokens.map fun token => (token.kind, token.payload) := by
  constructor
  · apply lex_render_groups.1
    rw [List.forall_mem_cons, List.forall_mem_singleton]
    constructor
    · exact .move (by decide) (by decide) (by decide)
    · exact @Group.WellFormed.pop none nofun
  · have hlex : ∃ tokens, Source.lex "\tPushd UINT  7 \n\nprint".toList = .ok tokens := ⟨_, rfl⟩
    obtain ⟨tokens, hlex⟩ := hlex
    obtain ⟨groups, -, hlength, -, hread⟩ := lex_render_groups.2 _ _ hlex
    exact ⟨tokens, hlex, groups, hlength, hread⟩

end Stackline
