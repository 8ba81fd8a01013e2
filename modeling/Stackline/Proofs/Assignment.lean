import Stackline.Proofs.Fragment
import Stackline.Proofs.RoundTrip

/-!
A literal means the same wherever it stands: to declare a variable, move a literal into it and take
its value off the scope comes to the same as to push the literal. Both fragments are read from the
lines of a source, and the variable must not occur in the literal itself.
-/

namespace Stackline

variable {σ : Type} [Sink σ]

namespace Source

/--
The text of some lines, each of which ends in a newline.
-/
def ofLines (texts : List Text) : Text :=
  texts.flatMap (· ++ ['\n'])

/--
The text of a line is read as a statement.
-/
structure ReadsAs (text : Text) (s : Statement) : Prop where
  isPhrase : text.IsPhrase
  parse_eq : Statement.parse text = .ok s

section Line

variable {text : Text} {s : Statement}

theorem lines_line (h : text.IsPhrase) :
    lines (text ++ ['\n']) = [⟨1, 0, text ++ ['\n']⟩] := by
  rw [lines, cutLines_cons_newline h.newline]
  rfl

theorem codeLines_line (h : text.IsPhrase) :
    codeLines (text ++ ['\n']) = [⟨1, 0, text ++ ['\n']⟩] ∧
      Line.parse ⟨1, 0, text ++ ['\n']⟩ = Statement.parse text := by
  have htrim : Line.trimmed ⟨1, 0, text ++ ['\n']⟩ = text :=
    Text.trim_of_isTrimmed Text.blank_nil h.trimmed Text.blank_newline
  have hblank : Line.isBlank ⟨1, 0, text ++ ['\n']⟩ = false := by
    rw [Line.isBlank, htrim, List.isEmpty_eq_false_iff]
    exact h.ne_nil
  constructor
  · rw [codeLines, lines_line h, List.filter_singleton, hblank]
    rfl
  · rw [Line.parse, htrim]

variable {before : Text} (hbefore : IsWhole before)

include hbefore

theorem length_lines_append_line (h : text.IsPhrase) :
    (lines (before ++ (text ++ ['\n']))).length = (lines before).length + 1 := by
  rw [lines_append hbefore _ #[], lines_line h, List.length_append, List.length_map]
  rfl

theorem wellFormed_append_line (hwf : WellFormed before) (h : ReadsAs text s) :
    WellFormed (before ++ (text ++ ['\n'])) := by
  obtain ⟨hlines, hparse⟩ := codeLines_line h.isPhrase
  rw [h.parse_eq] at hparse
  rw [wellFormed_append hbefore]
  refine ⟨hwf, ?_⟩
  rw [WellFormed, hlines, List.forall_mem_singleton]
  exact ⟨s, hparse⟩

theorem block_append_line (h : ReadsAs text s) :
    ∃ position, position.line = (lines before).length + 1 ∧
      block (before ++ (text ++ ['\n'])) = block before ++ [⟨position, s⟩] := by
  obtain ⟨hlines, hparse⟩ := codeLines_line h.isPhrase
  rw [h.parse_eq] at hparse
  refine ⟨Position.shift (displacement before #[]) (Line.position ⟨1, 0, text ++ ['\n']⟩), ?_, ?_⟩
  · apply Nat.add_comm
  · rw [block_append hbefore _ #[], block, block, hlines, List.filterMap_cons_some
      (Line.instruction?_of_parse hparse)]
    rfl

end Line

/--
Instructions stand for statements, on lines that are numbered from `number` on.
-/
def Numbered (number : Nat) (ss : List Statement) (block : Block) : Prop :=
  List.Forall₂ (fun i entry => i.statement = entry.1 ∧ i.position.line = entry.2) block
    (ss.zipIdx number)

theorem Numbered.exists_cons {number : Nat} {s : Statement} {ss : List Statement} {block : Block}
    (h : Numbered number (s :: ss) block) :
    ∃ position rest, block = ⟨position, s⟩ :: rest ∧ position.line = number ∧
      Numbered (number + 1) ss rest := by
  cases h with
  | @cons i entry rest entries hi hrest =>
    obtain ⟨rfl, rfl⟩ := hi
    exact ⟨i.position, rest, rfl, rfl, hrest⟩

theorem Numbered.eq_nil {number : Nat} {block : Block} (h : Numbered number [] block) :
    block = [] := by
  cases h
  rfl

theorem block_append_ofLines {before : Text} (hbefore : IsWhole before) (hwf : WellFormed before)
    {texts : List Text} {ss : List Statement} (h : List.Forall₂ ReadsAs texts ss) :
    WellFormed (before ++ ofLines texts) ∧ ∃ added : Block,
      block (before ++ ofLines texts) = block before ++ added ∧
      Numbered ((lines before).length + 1) ss added := by
  induction h generalizing before with
  | nil =>
    rw [ofLines, List.flatMap_nil, List.append_nil]
    refine ⟨hwf, [], ?_, .nil⟩
    rw [List.append_nil]
  | @cons text s texts ss hline _ ih =>
    have hwhole : IsWhole (before ++ (text ++ ['\n'])) := by
      right
      rw [← List.append_assoc, List.getLast?_concat]
    have htext : before ++ ofLines (text :: texts) =
        before ++ (text ++ ['\n']) ++ ofLines texts := by
      rw [ofLines, List.flatMap_cons, ← List.append_assoc]
      rfl
    obtain ⟨position, hposition, hblock⟩ := block_append_line hbefore hline
    obtain ⟨hwf', added, hadded, hnumbered⟩ :=
      ih hwhole (wellFormed_append_line hbefore hwf hline)
    rw [length_lines_append_line hbefore hline.isPhrase] at hnumbered
    rw [htext]
    refine ⟨hwf', ⟨position, s⟩ :: added, ?_, .cons ⟨rfl, hposition⟩ hnumbered⟩
    rw [hadded, hblock, List.append_assoc]
    rfl

/--
Lines behind a program are read as the statements that they are, and numbered on.
-/
theorem lex_append_ofLines {before : Text} {tokens : List Token} (hbefore : IsWhole before)
    (hlex : lex before = .ok tokens) {texts : List Text} {ss : List Statement}
    (h : List.Forall₂ ReadsAs texts ss) :
    ∃ added : Block,
      lex (before ++ ofLines texts) =
        .ok ((block before).tokens ++ added.tokens ++ [endToken (before ++ ofLines texts)]) ∧
      Numbered ((lines before).length + 1) ss added := by
  obtain ⟨hwf, added, hblock, hnumbered⟩ :=
    block_append_ofLines hbefore (lex_eq_ok_iff.1 hlex).1 h
  refine ⟨added, ?_, hnumbered⟩
  rw [lex_eq_ok_iff, hblock, Block.tokens, Block.tokens, Block.tokens, List.flatMap_append]
  exact ⟨hwf, rfl⟩

end Source

theorem Ty.isWord_of_ofWord? {word : Text} {ty : Ty} (h : ofWord? word = some ty) :
    word.IsWord := by
  have hword : ty.word.toList.all (fun c => !Text.isBlank c.toLower) = true := by
    cases ty <;> decide
  rw [ofWord?_eq_some_iff] at h
  constructor
  · rintro rfl
    cases ty <;> cases h
  · apply Text.not_blank_of_eqFold h
    simpa using hword

theorem Operand.parse_of_ofWord? {word text : Text} {ty : Ty} (hword : Ty.ofWord? word = some ty)
    (htext : text.IsPhrase) : parse (word ++ ' ' :: text) = .ok (.literal ty text) := by
  rw [parse, Text.cut?_join (Ty.isWord_of_ofWord? hword)]
  simp only [hword, Text.trimStart_of_head htext.trimmed.head]

namespace Source

section Reads

variable {word name text : Text} {ty : Ty}

theorem readsAs_line {m : Mnemonic} {rest : Text} {s : Statement} (h : rest.IsPhrase)
    (hparse : Statement.parseRest rest m = .ok s) : ReadsAs (m.line rest) s := by
  constructor
  · apply Mnemonic.isPhrase_line
    exact fun _ => h
  · rw [Statement.parse_line m fun _ => h, hparse]

theorem readsAs_var (hword : Ty.ofWord? word = some ty) (hname : name.IsPhrase) :
    ReadsAs (Mnemonic.line .var (word ++ ' ' :: name)) (.var ty name) := by
  apply readsAs_line
  · exact (Ty.isWord_of_ofWord? hword).isPhrase.join hname
  · rw [Statement.parseRest, Statement.parseVar, Operand.parse_of_ofWord? hword hname]

theorem readsAs_push (hword : Ty.ofWord? word = some ty) (htext : text.IsPhrase) :
    ReadsAs (Mnemonic.line .push (word ++ ' ' :: text)) (.push (.literal ty text)) := by
  apply readsAs_line
  · exact (Ty.isWord_of_ofWord? hword).isPhrase.join htext
  · rw [Statement.parseRest, Operand.parse_of_ofWord? hword htext]
    rfl

theorem readsAs_move (hname : name.IsWord) (hdigits : name.all Char.isDigit = false)
    (htext : text.IsPhrase) :
    ReadsAs (Mnemonic.line .move (name ++ ' ' :: text)) (.move name text) := by
  apply readsAs_line
  · exact hname.isPhrase.join htext
  · exact Statement.parseMove_of_isPhrase hname hdigits htext

theorem readsAs_pushd (hname : name.IsWord) :
    ReadsAs (Mnemonic.line .pushd name) (.pushd (.name (some name))) := by
  apply readsAs_line
  · exact hname.isPhrase
  · rw [Statement.parseRest, Operand.parse_of_isWord hname]
    rfl

end Reads

end Source

namespace Scope

theorem erase_of_get?_eq_none {scope : Scope} {name : Text} (h : scope.get? name = none) :
    scope.erase name = scope := by
  rw [erase, List.filter_eq_self]
  intro entry hentry
  have hne := List.lookup_eq_none_iff.1 h entry hentry
  exact decide_eq_true (Ne.symm (bne_iff_ne.1 hne))

theorem erase_insert (scope : Scope) (name : Text) (x : Variable) :
    (scope.insert name x).erase name = scope.erase name := by
  rw [insert, erase, List.filter_cons_of_neg (by simp), erase, List.filter_filter]
  simp only [Bool.and_self]

theorem insert_insert (scope : Scope) (name : Text) (x y : Variable) :
    (scope.insert name x).insert name y = scope.insert name y := by
  rw [insert, erase_insert]
  rfl

theorem read_insert_of_ne {name other : Text} (h : other ≠ name) (scope : Scope) (x : Variable) :
    (scope.insert name x).read other = scope.read other := by
  rw [read, read, get?_insert_of_ne h]

end Scope

/--
Filling a template depends on the names in its holes only.
-/
theorem Template.fill_congr {template : Template} {scope scope' : Scope}
    (h : ∀ name ∈ template.names, scope.read name = scope'.read name) :
    template.fill scope = template.fill scope' := by
  induction template with
  | plain t => rfl
  | hole before name rest ih =>
    rw [names, List.forall_mem_cons] at h
    rw [fill, fill, h.1, ih h.2]

namespace Literal

/--
The names that stand between the quotes of a literal. Only strings have any.
-/
def names (ty : Ty) (text : Text) : List Text :=
  match ty, unquote text with
  | .string, .ok inner => (Template.parse inner).names
  | _, _ => []

theorem read_congr {scope scope' : Scope} {ty : Ty} {text : Text}
    (h : ∀ name ∈ names ty text, scope.read name = scope'.read name) :
    read scope ty text = read scope' ty text := by
  cases ty with
  | string =>
    rw [read, read]
    cases hinner : unquote text with
    | error cause => rfl
    | ok inner =>
      simp only [names, hinner] at h
      dsimp only [bind, Except.bind]
      rw [Template.fill_congr h]
  | _ => rfl

/--
A variable does not show in the value of a literal that does not name it.
-/
theorem read_insert_of_not_mem {name : Text} {ty : Ty} {text : Text} (h : name ∉ names ty text)
    (scope : Scope) (x : Variable) :
    read (scope.insert name x) ty text = read scope ty text := by
  apply read_congr
  intro other hother
  apply Scope.read_insert_of_ne
  rintro rfl
  exact h hother

end Literal

namespace Block

section Assign

variable {state : State σ} {name text : Text} {ty : Ty} (hfree : state.scope.get? name = none)
  (hreserved : isReserved name = false) (hbad : hasBadCharacter name = false) (p : Position)

include hfree hreserved hbad

theorem exec_var_cons (ty : Ty) (block : Block) :
    exec (⟨p, .var ty name⟩ :: block) state =
      exec block { state with scope := state.scope.insert name ⟨name, ty, p, none⟩ } := by
  have hrefusal := Scope.refusal?_eq_none_iff.2 ⟨hreserved, hbad, hfree⟩
  rw [exec, Instruction.exec, Statement.exec, Statement.execVar, hrefusal]
  rfl

variable (hname : name ∉ Literal.names ty text) (q : Position)

include hname

theorem exec_var_move_of_error {cause : Cause}
    (h : Literal.read state.scope ty text = .error cause) (block : Block) :
    (exec (⟨p, .var ty name⟩ :: ⟨q, .move name text⟩ :: block) state).fault? =
      some (.located q cause) := by
  rw [← Literal.read_insert_of_not_mem hname _ ⟨name, ty, p, none⟩] at h
  rw [exec_var_cons hfree hreserved hbad, exec, Instruction.exec, Statement.exec]
  simp only [Statement.execMove, Scope.get?_insert_self, h]
  rfl

theorem exec_var_move_of_ok {value : Value} (h : Literal.read state.scope ty text = .ok value)
    (block : Block) :
    exec (⟨p, .var ty name⟩ :: ⟨q, .move name text⟩ :: block) state =
      exec block { state with scope := state.scope.insert name ⟨name, ty, p, some value⟩ } := by
  rw [← Literal.read_insert_of_not_mem hname _ ⟨name, ty, p, none⟩] at h
  rw [exec_var_cons hfree hreserved hbad, exec, Instruction.exec, Statement.exec]
  simp only [Statement.execMove, Scope.get?_insert_self, h, Scope.insert_insert]
  rfl

theorem exec_var_move_pushd_of_ok {value : Value}
    (h : Literal.read state.scope ty text = .ok value) (r : Position) :
    exec [⟨p, .var ty name⟩, ⟨q, .move name text⟩, ⟨r, .pushd (.name (some name))⟩] state =
      ⟨{ state with stack := value :: state.stack }, none⟩ := by
  have hvalue :
      (state.scope.insert name ⟨name, ty, p, some value⟩).value? name = some value := by
    rw [Scope.value?, Scope.get?_insert_self]
    rfl
  rw [exec_var_move_of_ok hfree hreserved hbad p hname q h, exec_singleton, Instruction.exec,
    Statement.exec_pushd_of_value? hvalue]
  dsimp only
  rw [Scope.erase_insert, Scope.erase_of_get?_eq_none hfree]

end Assign

theorem exec_push_literal (state : State σ) (ty : Ty) (text : Text) (p : Position) :
    exec [⟨p, .push (.literal ty text)⟩] state =
      state.pushOr p (Literal.read state.scope ty text) := by
  rw [exec_singleton]
  rfl

end Block

namespace Machine

/--
Three steps of the machine `long` come to what one step of `short` comes to. If the step of `short`
fails, on the line with a certain number, the second step of `long` fails for the same cause, on the
line with the next number.
-/
structure SpellsOut (long short : Machine σ) (number : Nat) : Prop where
  success_iff : (long.outcome 3).fault? = none ↔ (short.outcome 1).fault? = none
  state_eq : (short.outcome 1).fault? = none → (long.outcome 3).state = (short.outcome 1).state
  fault_eq : ∀ fault, (short.outcome 1).fault? = some fault → ∃ p q cause,
    fault = .located p cause ∧ p.line = number ∧ (long.outcome 1).fault? = none ∧
    (long.outcome 2).fault? = some (.located q cause) ∧ q.line = number + 1 ∧
    (long.outcome 3).fault? = some (.located q cause)

theorem spellsOut_of_free {state : State σ} {name text : Text} {ty : Ty}
    (hfree : state.scope.get? name = none) (hreserved : isReserved name = false)
    (hbad : hasBadCharacter name = false) (hname : name ∉ Literal.names ty text)
    (p r last : Position) {q t : Position} (hq : q.line = t.line + 1) (rest : List Token) :
    (facing last [⟨p, .var ty name⟩, ⟨q, .move name text⟩, ⟨r, .pushd (.name (some name))⟩] rest
      state).SpellsOut (facing last [⟨t, .push (.literal ty text)⟩] rest state) t.line := by
  have hshort := @outcome_facing_of_length _ _ [⟨t, .push (.literal ty text)⟩] 1 rfl last rest state
  have hlong := @outcome_facing_of_length _ _
    [⟨p, .var ty name⟩, ⟨q, .move name text⟩, ⟨r, .pushd (.name (some name))⟩] 3 rfl last rest state
  rw [Block.exec_push_literal] at hshort
  cases hread : Literal.read state.scope ty text with
  | ok value =>
    rw [hread] at hshort
    rw [Block.exec_var_move_pushd_of_ok hfree hreserved hbad p hname q hread r] at hlong
    constructor
    · rw [hlong, hshort]
      rfl
    · intro _
      rw [hlong, hshort]
      rfl
    · intro fault hfault
      rw [hshort] at hfault
      cases hfault
  | error cause =>
    have hfault := Block.exec_var_move_of_error hfree hreserved hbad p hname q hread
    rw [hread] at hshort
    constructor
    · rw [hlong, hshort, hfault]
      simp only [State.pushOr, State.fail, reduceCtorEq]
    · intro hnone
      rw [hshort] at hnone
      cases hnone
    · intro fault hshort'
      rw [hshort] at hshort'
      cases hshort'
      refine ⟨t, q, cause, rfl, rfl, ?_, ?_, hq, ?_⟩
      · rw [outcome_facing (by simp), List.take_succ_cons,
          Block.exec_var_cons hfree hreserved hbad]
        rfl
      · rw [outcome_facing (by simp), List.take_succ_cons, List.take_succ_cons, hfault]
      · rw [hlong, hfault]

end Machine

/--
Lines that declare a variable, move a literal into it and take its value do in any state in which
the name is free what the line that pushes the literal does. If the literal has no value, the line
with `move` fails for the same cause as the line with `push`. Both are lines behind a program that
can be read, and anything may follow them.
-/
theorem literal_alike_in_push_and_move {before word name text : Text} {ty : Ty}
    {tokens : List Token} (hwhole : Source.IsWhole before) (hlex : Source.lex before = .ok tokens)
    (hword : Ty.ofWord? word = some ty) (hname : name.IsWord)
    (hdigits : name.all Char.isDigit = false) (hreserved : isReserved name = false)
    (hbad : hasBadCharacter name = false) (htext : text.IsPhrase)
    (hfresh : name ∉ Literal.names ty text) :
    let long := before ++ Source.ofLines [Mnemonic.line .var (word ++ ' ' :: name),
      Mnemonic.line .move (name ++ ' ' :: text), Mnemonic.line .pushd name]
    let short := before ++ Source.ofLines [Mnemonic.line .push (word ++ ' ' :: text)]
    ∃ assigning pushing : Block,
      Source.lex long =
        .ok ((Source.block before).tokens ++ assigning.tokens ++ [Source.endToken long]) ∧
      Source.lex short =
        .ok ((Source.block before).tokens ++ pushing.tokens ++ [Source.endToken short]) ∧
      ∀ (σ : Type) [Sink σ] (last : Position) (rest : List Token) (state : State σ),
        state.scope.get? name = none →
        (Machine.facing last assigning rest state).SpellsOut
          (Machine.facing last pushing rest state) ((Source.lines before).length + 1) := by
  intro long short
  obtain ⟨assigning, hlong, hassigning⟩ :=
    Source.lex_append_ofLines hwhole hlex (.cons (Source.readsAs_var hword hname.isPhrase)
      (.cons (Source.readsAs_move hname hdigits htext) (.cons (Source.readsAs_pushd hname) .nil)))
  obtain ⟨pushing, hshort, hpushing⟩ :=
    Source.lex_append_ofLines hwhole hlex (.cons (Source.readsAs_push hword htext) .nil)
  refine ⟨assigning, pushing, hlong, hshort, ?_⟩
  intro σ _ last rest state hfree
  obtain ⟨p, _, rfl, -, hassigning⟩ := hassigning.exists_cons
  obtain ⟨q, _, rfl, hq, hassigning⟩ := hassigning.exists_cons
  obtain ⟨r, _, rfl, -, hassigning⟩ := hassigning.exists_cons
  obtain ⟨t, _, rfl, ht, hpushing⟩ := hpushing.exists_cons
  obtain rfl := hassigning.eq_nil
  obtain rfl := hpushing.eq_nil
  rw [← ht] at hq ⊢
  exact Machine.spellsOut_of_free hfree hreserved hbad hfresh p r last hq rest

theorem literal_alike_in_push_and_move_interpolated :
    let before := "var int y\nmove y 5\n".toList
    let long := before ++ Source.ofLines
      ["var String x".toList, "move x \"a ${y}\"".toList, "pushd x".toList]
    let short := before ++ Source.ofLines ["push String \"a ${y}\"".toList]
    ∃ (tokens : List Token) (assigning pushing : Block),
      Source.lex before = .ok tokens ∧
      Source.lex long =
        .ok ((Source.block before).tokens ++ assigning.tokens ++ [Source.endToken long]) ∧
      Source.lex short =
        .ok ((Source.block before).tokens ++ pushing.tokens ++ [Source.endToken short]) ∧
      ∀ (last : Position) (rest : List Token) (sink : Store),
        let state := ((Machine.start tokens sink).outcome 2).state
        let pushed := { state with stack := [.str "a 5".toList] }
        (Machine.facing last assigning rest state).SpellsOut
          (Machine.facing last pushing rest state) 3 ∧
        (Machine.facing last assigning rest state).outcome 3 = ⟨pushed, none⟩ ∧
        (Machine.facing last pushing rest state).outcome 1 = ⟨pushed, none⟩ := by
  intro before long short
  have hlex : ∃ tokens, Source.lex before = .ok tokens := ⟨_, rfl⟩
  obtain ⟨tokens, hlex⟩ := hlex
  obtain ⟨assigning, pushing, hlong, hshort, hspells⟩ :=
    @literal_alike_in_push_and_move before "String".toList ['x'] "\"a ${y}\"".toList .string
      tokens (.inr rfl) hlex rfl (by decide) rfl rfl rfl (by decide +kernel) (by decide +kernel)
  refine ⟨tokens, assigning, pushing, hlex, hlong, hshort, ?_⟩
  intro last rest sink state pushed
  have hspells : (Machine.facing last assigning rest state).SpellsOut
      (Machine.facing last pushing rest state) 3 := by
    apply hspells Store
    cases hlex
    rfl
  have hpushing : (Machine.facing last pushing rest state).outcome 1 = ⟨pushed, none⟩ := by
    let push : Block := [⟨⟨3, ⟨19, 20⟩⟩, .push (.literal .string "\"a ${y}\"".toList)⟩]
    have hpush : Source.lex short =
        .ok ((Source.block before).tokens ++ push.tokens ++ [Source.endToken short]) := rfl
    have hbefore := (List.append_inj' (Except.ok.inj (hpush.symm.trans hshort)) rfl).1
    rw [Machine.facing, ← List.append_cancel_left hbefore]
    cases hlex
    rfl
  have hnone : ((Machine.facing last pushing rest state).outcome 1).fault? = none := by
    rw [hpushing]
  refine ⟨hspells, ?_, hpushing⟩
  have hstate := hspells.state_eq hnone
  rw [hpushing] at hstate
  have hassigning := hspells.success_iff.2 hnone
  generalize (Machine.facing last assigning rest state).outcome 3 = outcome at hstate hassigning
  cases outcome
  cases hstate
  cases hassigning
  rfl

end Stackline
