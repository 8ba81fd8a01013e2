import Stackline.Proofs.Agreement
import Stackline.Proofs.Assignment
import Stackline.Proofs.OneLine
import Stackline.Proofs.Statement.Parse

/-!
Which lines reach a variable, by its name. `declared_iff` says which names can be declared and
`movable_iff` into which a literal can be moved; a name with a blank inside can be declared as long
as the blank is no space, but it can be neither pushed nor moved into.
-/

namespace Stackline

variable {σ : Type} [Sink σ]

/--
Some line of a program declares the name: it is read as a declaration, and its step is made without
a fault.
-/
def Declared (name : Text) : Prop :=
  ∃ (σ : Type) (_ : Sink σ) (source : Text) (tokens : List Token) (sink : σ) (count index : Nat)
      (line : Line) (ty : Ty) (t : Transition σ),
    Source.lex source = .ok tokens ∧ (Source.codeLines source)[index]? = some line ∧
      line.parse = .ok (.var ty name) ∧
      ((Machine.start tokens sink).steps count)[index]? = some t ∧ t.fault? = none

/--
Some line of a source is read as one that moves a literal into the name.
-/
def Movable (name : Text) : Prop :=
  ∃ (source : Text) (line : Line) (text : Text),
    line ∈ Source.codeLines source ∧ line.parse = .ok (.move name text)

namespace Source

/--
Behind the program `before`, which can be read, the tokens of the line are those of the group.
-/
def LexesAs (before line : Text) (g : Group) : Prop :=
  ∃ tokens added, lex before = .ok tokens ∧
    lex (before ++ ofLines [line]) =
      .ok (tokens.dropLast ++ added ++ [endToken (before ++ ofLines [line])]) ∧
    added.map (fun token => (token.kind, token.payload)) = g

theorem shape_of_tokens (s : Statement) (position : Position) :
    (s.tokens position).map (fun token => (token.kind, token.payload)) = s.shape := by
  rw [Statement.tokens, List.map_map]
  exact List.map_id s.shape

theorem LexesAs.unique {before line : Text} {g g' : Group} (h : LexesAs before line g)
    (h' : LexesAs before line g') : g = g' := by
  obtain ⟨tokens, added, hbefore, hline, rfl⟩ := h
  obtain ⟨tokens', added', hbefore', hline', rfl⟩ := h'
  rw [hbefore] at hbefore'
  cases hbefore'
  rw [hline, Except.ok.injEq, List.append_cancel_right_eq, List.append_cancel_left_eq] at hline'
  rw [hline']

variable {before : Text} (hwhole : IsWhole before)

include hwhole

theorem lexesAs_of_readsAs {tokens : List Token} (hlex : lex before = .ok tokens) {line : Text}
    {s : Statement} (h : ReadsAs line s) : LexesAs before line s.shape := by
  obtain ⟨added, hadded, hnumbered⟩ := lex_append_ofLines hwhole hlex (.cons h .nil)
  obtain ⟨position, rest, rfl, -, hrest⟩ := hnumbered.exists_cons
  obtain rfl := hrest.eq_nil
  refine ⟨tokens, s.tokens position, hlex, ?_, shape_of_tokens s position⟩
  rw [hadded, (lex_eq_ok_iff.1 hlex).2, List.dropLast_concat]
  simp [Block.tokens, Instruction.tokens]

theorem parse_of_lexesAs {line : Text} (hline : line.IsPhrase) {g : Group}
    (h : LexesAs before line g) : ∃ s, Statement.parse line = .ok s ∧ s.shape = g := by
  have ⟨tokens, _, hbefore, happend, _⟩ := h
  have hwf := ((wellFormed_append hwhole _).1 (lex_eq_ok_iff.1 happend).1).2
  obtain ⟨hlines, hparse⟩ := codeLines_line hline
  have hsource : ofLines [line] = line ++ ['\n'] := List.append_nil _
  rw [hsource] at hwf
  obtain ⟨s, hs⟩ := hwf ⟨1, 0, line ++ ['\n']⟩ (by rw [hlines]; exact List.mem_singleton_self _)
  rw [hparse] at hs
  exact ⟨s, hs, (lexesAs_of_readsAs hwhole hbefore ⟨hline, hs⟩).unique h⟩

theorem lexesAs_line_iff {tokens : List Token} (hlex : lex before = .ok tokens) (m : Mnemonic)
    {rest : Text} (hrest : rest.IsPhrase) {g : Group} :
    LexesAs before (m.line rest) g ↔ ∃ s, Statement.parseRest rest m = .ok s ∧ s.shape = g := by
  rw [← Statement.parse_line m fun _ => hrest]
  have hline : (m.line rest).IsPhrase := m.isPhrase_line fun _ => hrest
  constructor
  · intro h
    exact parse_of_lexesAs hwhole hline h
  · rintro ⟨s, hs, rfl⟩
    exact lexesAs_of_readsAs hwhole hlex ⟨hline, hs⟩

end Source

section Name

variable {name : Text} (hname : name.IsPhrase)

include hname

theorem Operand.parse_eq_self_iff :
    parse name = .ok (.name (some name)) ↔ ∀ c ∈ name, Text.isBlank c = false := by
  constructor
  · intro h
    exact parse_eq_name_iff.1 ⟨some name, h⟩
  · intro h
    exact parse_of_isWord ⟨hname.ne_nil, h⟩

theorem Statement.parseMove_eq_iff {text : Text} (htext : text.IsPhrase) :
    parseMove (name ++ ' ' :: text) = .ok (.move name text) ↔
      (∀ c ∈ name, Text.isBlank c = false) ∧ name.all Char.isDigit = false := by
  constructor
  · intro h
    unfold parseMove at h
    split at h
    next => cases h
    next word behind hcut =>
      split at h
      next => cases h
      next hdigits =>
        cases h
        obtain ⟨c, -, -, hword⟩ := Text.cut?_eq_some_iff.1 hcut
        exact ⟨hword, eq_false_of_ne_true hdigits⟩
  · rintro ⟨hblank, hdigits⟩
    exact parseMove_of_isPhrase ⟨hname.ne_nil, hblank⟩ hdigits htext

namespace Source

variable {before : Text} {tokens : List Token} (hwhole : IsWhole before)
  (hlex : lex before = .ok tokens)

include hwhole hlex

theorem lexesAs_push_iff {m : Mnemonic} (hm : m = .push ∨ m = .pushd) :
    LexesAs before (m.line name) [(.instruction m, none), (.ident, some (.text name))] ↔
      ∀ c ∈ name, Text.isBlank c = false := by
  have hoperand (g : Group) :
      (∃ s, Statement.parseRest name m = .ok s ∧ s.shape = (.instruction m, none) :: g) ↔
        ∃ operand, Operand.parse name = .ok operand ∧ Statement.operandShape operand = g := by
    rcases hm with rfl | rfl <;> simp [Statement.parseRest, Result.map_eq_ok_iff, Statement.shape]
  rw [lexesAs_line_iff hwhole hlex m hname, hoperand, ← Operand.parse_eq_self_iff hname]
  constructor
  · rintro ⟨operand, hparse, hshape⟩
    cases operand with
    | name name? =>
      obtain rfl : name? = some name := by simpa [Statement.operandShape] using hshape
      exact hparse
    | literal ty text => simp [Statement.operandShape] at hshape
  · intro h
    exact ⟨.name (some name), h, rfl⟩

theorem lexesAs_move_iff {text : Text} (htext : text.IsPhrase) :
    LexesAs before (Mnemonic.line .move (name ++ ' ' :: text))
        [(.instruction .move, none), (.ident, some (.text name)), (.value, some (.text text))] ↔
      (∀ c ∈ name, Text.isBlank c = false) ∧ name.all Char.isDigit = false := by
  rw [lexesAs_line_iff hwhole hlex .move (hname.join htext),
    ← Statement.parseMove_eq_iff hname htext]
  constructor
  · rintro ⟨s, hs, hshape⟩
    cases s with
    | move name' text' =>
      obtain ⟨rfl, rfl⟩ : name' = name ∧ text' = text := by simpa [Statement.shape] using hshape
      exact hs
    | push operand => cases operand <;> simp [Statement.shape] at hshape
    | pushd operand => cases operand <;> simp [Statement.shape] at hshape
    | _ => simp [Statement.shape] at hshape
  · intro h
    exact ⟨.move name text, h, rfl⟩

end Source
end Name

namespace Source

/--
A step that succeeds has the effect of the statement on its line.
-/
theorem effect_of_step {source : Text} {tokens : List Token} (hlex : lex source = .ok tokens)
    {sink : σ} {count index : Nat} {line : Line} {s : Statement} {t : Transition σ}
    (hline : (codeLines source)[index]? = some line) (hparse : line.parse = .ok s)
    (ht : ((Machine.start tokens sink).steps count)[index]? = some t) (hfault : t.fault? = none) :
    Statement.Effect line.position s t.before.state t.after.state := by
  have hwf := (lex_eq_ok_iff.1 hlex).1
  have hlt : index < (block source).length := by
    rw [length_block hwf]
    exact (List.getElem?_eq_some_iff.1 hline).1
  obtain ⟨line', s', hline', hparse', hi⟩ := instruction_of_lt hwf hlt
  obtain rfl : line = line' := Option.some.inj (hline.symm.trans hline')
  obtain rfl : s = s' := Except.ok.inj (hparse.symm.trans hparse')
  rw [start_of_lex hlex] at ht
  obtain ⟨hafter, hstep⟩ := Machine.mem_steps (List.mem_of_getElem? ht)
  obtain ⟨-, last, hbefore⟩ := Machine.before_of_getElem?_steps rfl ht
  rw [List.drop_eq_getElem_cons hlt, hi] at hbefore
  rw [hstep, hbefore, Machine.fault?_step_onBlock] at hfault
  rw [hafter, hbefore, Machine.step_onBlock_of_success hfault]
  exact Statement.effect_of_exec hfault

theorem isPhrase_of_var {source : Text} {line : Line} (hline : line ∈ codeLines source) {ty : Ty}
    {name : Text} (h : line.parse = .ok (.var ty name)) : name.IsPhrase := by
  have hwf := Group.wellFormed_of_parse (Line.isPhrase_trimmed hline) h
  have hmem : (Kind.ident, some (Payload.text name)) ∈ (Statement.var ty name).shape := by
    simp [Statement.shape]
  exact hwf.isPhrase_of_mem hmem

end Source

theorem declared_of_accepted {name : Text} (hname : name.IsPhrase)
    (hreserved : isReserved name = false) (hbad : hasBadCharacter name = false) :
    Declared name := by
  have hint : Ty.ofWord? "int".toList = some .int := rfl
  have hreads := Source.readsAs_var hint hname
  obtain ⟨hlines, hparse⟩ := Source.codeLines_line hreads.isPhrase
  rw [hreads.parse_eq] at hparse
  generalize Mnemonic.line .var ("int".toList ++ ' ' :: name) ++ ['\n'] = source at hlines hparse
  have hwf : Source.WellFormed source := by
    rw [Source.WellFormed, hlines, List.forall_mem_singleton]
    exact ⟨_, hparse⟩
  have hlex := Source.lex_eq_ok_iff.2 ⟨hwf, rfl⟩
  have hsteps := @Machine.steps_succ_of_running _ _
    (Machine.start ((Source.block source).tokens ++ [Source.endToken source]) (Store.empty none))
    rfl 0
  refine ⟨Store, inferInstance, source, _, _, 1, 0, _, .int, _, hlex, ?_, hparse,
    congrArg (·[0]?) hsteps, ?_⟩
  · rw [hlines]
    rfl
  · -- nothing has been declared before the only line
    have hrefusal := Scope.refusal?_eq_none_iff.2 ⟨hreserved, hbad, Scope.get?_nil name⟩
    rw [Source.start_of_lex hlex, Source.block, hlines,
      List.filterMap_cons_some (Line.instruction?_of_parse hparse), Machine.fault?_step_onBlock,
      Instruction.exec, Statement.exec, Statement.execVar, State.start, hrefusal]
    rfl

theorem declared_iff {name : Text} :
    Declared name ↔
      name.IsPhrase ∧ isReserved name = false ∧ hasBadCharacter name = false := by
  constructor
  · rintro ⟨σ, _, source, tokens, sink, count, index, line, ty, t, hlex, hline, hparse, ht, hfault⟩
    refine ⟨Source.isPhrase_of_var (List.mem_of_getElem? hline) hparse, ?_⟩
    have heffect := Source.effect_of_step hlex hline hparse ht hfault
    generalize t.before.state = state, t.after.state = state' at heffect
    cases heffect with
    | var hrefusal =>
      obtain ⟨hreserved, hbad, -⟩ := Scope.refusal?_eq_none_iff.1 hrefusal
      exact ⟨hreserved, hbad⟩
  · rintro ⟨hname, hreserved, hbad⟩
    exact declared_of_accepted hname hreserved hbad

theorem movable_iff {name : Text} :
    Movable name ↔ name.IsWord ∧ name.all Char.isDigit = false := by
  constructor
  · rintro ⟨source, line, text, hline, hparse⟩
    have hwf := Group.wellFormed_of_parse (Line.isPhrase_trimmed hline) hparse
    generalize hg : (Statement.move name text).shape = g at hwf
    cases hwf with
    | move hname hdigits htext =>
      cases hg
      exact ⟨hname, hdigits⟩
    | _ => simp [Statement.shape] at hg
  · rintro ⟨hname, hdigits⟩
    have htext : Text.IsPhrase ['0'] := by
      decide
    have hreads := Source.readsAs_move hname hdigits htext
    obtain ⟨hlines, hparse⟩ := Source.codeLines_line hreads.isPhrase
    rw [hreads.parse_eq] at hparse
    refine ⟨Mnemonic.line .move (name ++ [' ', '0']) ++ ['\n'], _, _, ?_, hparse⟩
    rw [hlines]
    apply List.mem_singleton_self

/--
A name between the brackets of a hole is looked up as it stands.
-/
theorem Literal.read_hole {name : Text} (h : '}' ∉ name) {scope : Scope} {x : Variable}
    (hx : scope.get? name = some x) :
    read scope .string (quote ('$' :: '{' :: name ++ ['}'])) =
      match x.value? with
      | none => .error (.unassigned name)
      | some value => .ok (.str value.display) := by
  have hparse : Template.parse ('$' :: '{' :: name ++ ['}']) = .hole [] name (.plain []) :=
    @Template.parse_of_hole [] name (by simp [Text.Opens]) h []
  rw [read_quote, hparse, Template.fill, Scope.read]
  simp only [hx]
  cases x.value? with
  | none => rfl
  | some value => simp [Template.fill, bind, Except.bind, Except.map, pure, Except.pure]

theorem Literal.isPhrase_quote {text : Text} (h : '\n' ∉ text) : (quote text).IsPhrase := by
  constructor
  · exact List.cons_ne_nil _ _
  · constructor
    · intro c hc
      cases hc
      decide
    · intro c hc
      rw [quote, List.getLast?_concat] at hc
      cases hc
      decide
  · simpa [quote] using h

namespace Declared

variable {name : Text} (h : Declared name)

include h

theorem isPhrase : name.IsPhrase :=
  (declared_iff.1 h).1

theorem not_mem_of_bad {c : Char} (hc : c ∈ [' ', '(', ')', '{', '}', '[', ']']) : c ∉ name := by
  have hbad := (declared_iff.1 h).2.2
  intro hmem
  have := List.any_eq_false.1 hbad c hmem
  exact this (decide_eq_true hc)

theorem ne_drop : name ≠ "drop".toList := by
  rintro rfl
  have hdrop : isReserved "drop".toList = true := isReserved_word .drop
  rw [(declared_iff.1 h).2.1] at hdrop
  cases hdrop

theorem not_movable_iff :
    ¬ Movable name ↔
      (∃ c ∈ name, Text.isBlank c = true ∧ c ≠ ' ') ∨ ∀ c ∈ name, c.isDigit = true := by
  rw [movable_iff, not_and_or, Bool.not_eq_false, List.all_eq_true]
  apply or_congr_left
  constructor
  · intro hword
    by_contra hblank
    apply hword
    refine ⟨h.isPhrase.ne_nil, ?_⟩
    intro c hc
    apply eq_false_of_ne_true
    intro hc'
    apply hblank
    refine ⟨c, hc, hc', ?_⟩
    rintro rfl
    exact h.not_mem_of_bad (by simp) hc
  · rintro ⟨c, hc, hblank, -⟩ hword
    rw [hword.not_blank c hc] at hblank
    cases hblank

section Behind

variable {before : Text} {tokens : List Token} (hwhole : Source.IsWhole before)
  (hlex : Source.lex before = .ok tokens)

include hwhole hlex

theorem lexesAs_drop :
    Source.LexesAs before (Mnemonic.line .drop name)
      [(.instruction .drop, none), (.ident, some (.text name))] := by
  rw [Source.lexesAs_line_iff hwhole hlex .drop h.isPhrase]
  refine ⟨.drop (some name), ?_, rfl⟩
  rw [Statement.parseRest, Text.nonempty?_of_ne_nil h.isPhrase.ne_nil]

theorem lexesAs_pop :
    Source.LexesAs before (Mnemonic.line .pop name)
      [(.instruction .pop, none), (.ident, some (.text name))] := by
  rw [Source.lexesAs_line_iff hwhole hlex .pop h.isPhrase]
  refine ⟨.pop (some name), ?_, rfl⟩
  rw [Statement.parseRest, if_neg h.ne_drop, Text.nonempty?_of_ne_nil h.isPhrase.ne_nil]

theorem lexesAs_print :
    Source.LexesAs before (Mnemonic.line .print name)
      [(.instruction .print, some (.sentinel .ident)), (.ident, some (.text name))] := by
  rw [Source.lexesAs_line_iff hwhole hlex .print h.isPhrase]
  refine ⟨.printVariable name, ?_, rfl⟩
  have hne := List.isEmpty_eq_false_iff.2 h.isPhrase.ne_nil
  rw [Statement.parseRest, if_neg (by rw [hne]; exact Bool.false_ne_true)]

theorem lexesAs_hole :
    let literal := Literal.quote ('$' :: '{' :: name ++ ['}'])
    Source.LexesAs before (Mnemonic.line .push ("string".toList ++ ' ' :: literal))
      [(.instruction .push, none), (.type, some (.type .string)),
        (.value, some (.text literal))] := by
  intro literal
  have hliteral : literal.IsPhrase := by
    apply Literal.isPhrase_quote
    simpa using h.isPhrase.newline
  have hword : Ty.ofWord? "string".toList = some .string := rfl
  exact Source.lexesAs_of_readsAs hwhole hlex (Source.readsAs_push hword hliteral)

end Behind
end Declared

/--
A name that some line declares is what the lines that drop it, pop into it and print it carry, and
between the brackets of a hole it stands for its variable. Behind each program, it can be pushed
exactly if there is no blank in it, and moved into exactly if it is moreover not made of digits. So
the names that can be declared but not moved into are those with a blank inside that is no space,
and the numeric ones.
-/
theorem declared_name_reach (name : Text) :
    (Declared name →
      ∀ before tokens, Source.IsWhole before → Source.lex before = .ok tokens →
        Source.LexesAs before (Mnemonic.line .drop name)
          [(.instruction .drop, none), (.ident, some (.text name))] ∧
        Source.LexesAs before (Mnemonic.line .pop name)
          [(.instruction .pop, none), (.ident, some (.text name))] ∧
        Source.LexesAs before (Mnemonic.line .print name)
          [(.instruction .print, some (.sentinel .ident)), (.ident, some (.text name))] ∧
        (let literal := Literal.quote ('$' :: '{' :: name ++ ['}'])
        Source.LexesAs before (Mnemonic.line .push ("string".toList ++ ' ' :: literal))
            [(.instruction .push, none), (.type, some (.type .string)),
              (.value, some (.text literal))] ∧
          ∀ (scope : Scope) (x : Variable), scope.get? name = some x →
            Literal.read scope .string literal =
              match x.value? with
              | none => .error (.unassigned name)
              | some value => .ok (.str value.display)) ∧
        (∀ m : Mnemonic, m = .push ∨ m = .pushd →
          (Source.LexesAs before (m.line name)
              [(.instruction m, none), (.ident, some (.text name))] ↔
            ∀ c ∈ name, Text.isBlank c = false)) ∧
        ∀ text : Text, text.IsPhrase →
          (Source.LexesAs before (Mnemonic.line .move (name ++ ' ' :: text))
              [(.instruction .move, none), (.ident, some (.text name)),
                (.value, some (.text text))] ↔
            (∀ c ∈ name, Text.isBlank c = false) ∧ ¬ ∀ c ∈ name, c.isDigit = true)) ∧
    (Declared name ∧ ¬ Movable name ↔
      (name.IsPhrase ∧ isReserved name = false ∧ hasBadCharacter name = false) ∧
        ((∃ c ∈ name, Text.isBlank c = true ∧ c ≠ ' ') ∨ ∀ c ∈ name, c.isDigit = true)) := by
  constructor
  · intro h before tokens hwhole hlex
    refine ⟨h.lexesAs_drop hwhole hlex, h.lexesAs_pop hwhole hlex, h.lexesAs_print hwhole hlex,
      ⟨h.lexesAs_hole hwhole hlex, ?_⟩, ?_, ?_⟩
    · intro scope x hx
      exact Literal.read_hole (h.not_mem_of_bad (by simp)) hx
    · intro m hm
      exact Source.lexesAs_push_iff h.isPhrase hwhole hlex hm
    · intro text htext
      rw [Source.lexesAs_move_iff h.isPhrase hwhole hlex htext, ← List.all_eq_true,
        Bool.not_eq_true]
  · rw [← declared_iff]
    apply and_congr_right
    intro h
    exact h.not_movable_iff

theorem declared_name_reach_tab :
    let name := "a\tb".toList
    let before := "var int a\tb\n".toList
    Declared name ∧
      Source.LexesAs before "pop a\tb".toList
        [(.instruction .pop, none), (.ident, some (.text name))] ∧
      ¬ Source.LexesAs before "push a\tb".toList
        [(.instruction .push, none), (.ident, some (.text name))] ∧
      ¬ Movable name := by
  intro name before
  have hdeclared : Declared name :=
    ⟨Store, inferInstance, before, _, Store.empty none, 1, 0, _, .int, _, rfl, rfl, rfl, rfl, rfl⟩
  obtain ⟨hreach, hgap⟩ := declared_name_reach name
  obtain ⟨-, hpop, -, -, hpush, -⟩ := hreach hdeclared before _ (.inr rfl) rfl
  refine ⟨hdeclared, hpop, ?_, ?_⟩
  · intro hlexes
    have hblank := (hpush .push (.inl rfl)).1 hlexes '\t' (by decide)
    exact absurd hblank (by decide)
  · have hname : Text.IsPhrase name ∧ isReserved name = false ∧ hasBadCharacter name = false := by
      decide
    have hblank : ∃ c ∈ name, Text.isBlank c = true ∧ c ≠ ' ' :=
      ⟨'\t', by decide, by decide, by decide⟩
    exact (hgap.2 ⟨hname, .inl hblank⟩).2

end Stackline
