import Stackline.Proofs.Mnemonic
import Stackline.Proofs.Result
import Stackline.Statement.Parse

/-!
The groups of tokens that lines stand for. A group is rendered as its words, and reading a line gives
back the group that was rendered: `parse_render` and `wellFormed_of_parse` say that the groups which
can be read from a line are the well-formed ones.
-/

namespace Stackline

/--
The kinds and payloads of the tokens of a line.
-/
abbrev Group := List (Kind × Option Payload)

namespace Group

open Text

inductive WellFormed : Group → Prop where
  | name {m : Mnemonic} {name? : Option Text} (hm : m = .push ∨ m = .pushd)
    (hname : ∀ name, name? = some name → IsWord name) :
    WellFormed [(.instruction m, none), (.ident, name?.map .text)]
  | literal {m : Mnemonic} {ty : Ty} {text : Text} (hm : m = .push ∨ m = .pushd)
    (htext : IsPhrase text) :
    WellFormed [(.instruction m, none), (.type, some (.type ty)), (.value, some (.text text))]
  | arith {op : Operator} : WellFormed [(.instruction (.arith op), none)]
  | discard : WellFormed [(.instruction .pop, none), (.instruction .drop, none)]
  | pop {name? : Option Text}
    (hname : ∀ name, name? = some name → IsPhrase name ∧ name ≠ "drop".toList) :
    WellFormed [(.instruction .pop, none), (.ident, name?.map .text)]
  | drop {name? : Option Text} (hname : ∀ name, name? = some name → IsPhrase name) :
    WellFormed [(.instruction .drop, none), (.ident, name?.map .text)]
  | var {ty : Ty} {name : Text} (hname : IsPhrase name) :
    WellFormed [(.instruction .var, none), (.type, some (.type ty)), (.ident, some (.text name))]
  | move {name text : Text} (hname : IsWord name) (hdigits : name.all Char.isDigit = false)
    (htext : IsPhrase text) :
    WellFormed [(.instruction .move, none), (.ident, some (.text name)), (.value, some (.text text))]
  | print : WellFormed [(.instruction .print, none)]
  | printVariable {name : Text} (hname : IsPhrase name) :
    WellFormed [(.instruction .print, some (.sentinel .ident)), (.ident, some (.text name))]

/--
How a token is written, if it is.
-/
def word? : Kind × Option Payload → Option Text
  | (.instruction m, _) => some m.word.toList
  | (_, some (.type ty)) => some ty.name.toList
  | (_, some (.text t)) => some t
  | _ => none

/--
The words of a group with single blanks between them.
-/
def render (g : Group) : Text :=
  [' '].intercalate (g.filterMap word?)

end Group

/--
A line with an instruction and what stands behind it.
-/
def Mnemonic.line (m : Mnemonic) (rest : Text) : Text :=
  if rest = [] then m.word.toList else m.word.toList ++ ' ' :: rest

theorem Ty.isWord_name (ty : Ty) : Text.IsWord ty.name.toList := by
  cases ty <;> decide

namespace Mnemonic

theorem isWord_word (m : Mnemonic) : Text.IsWord m.word.toList := by
  constructor
  · exact m.word_ne_nil
  · intro c hc
    exact (m.of_mem_word c hc).1

theorem isPhrase_line (m : Mnemonic) {rest : Text} (h : rest ≠ [] → rest.IsPhrase) :
    (m.line rest).IsPhrase := by
  unfold line
  split
  next => exact m.isWord_word.isPhrase
  next hne => exact m.isWord_word.isPhrase.join (h hne)

theorem isPhrase_of_split? {m : Mnemonic} {line rest : Text} (h : split? line = some (m, rest))
    (hline : line.IsPhrase) : rest ≠ [] → rest.IsPhrase := by
  intro hne
  obtain ⟨m', -, hm'⟩ := List.exists_of_findSome?_eq_some h
  obtain ⟨rest', hdrop, hrest⟩ := Option.map_eq_some_iff.1 hm'
  obtain ⟨rfl, rfl⟩ := Prod.mk.inj hrest
  obtain ⟨lead, behind, rfl, -, rfl⟩ := Text.dropWord?_eq_some_iff.1 hdrop
  refine ⟨hne, hline.trimmed.trimStart_of_append, ?_⟩
  intro hmem
  exact hline.newline (List.mem_append_right _ (Text.mem_of_mem_trimStart hmem))

end Mnemonic

theorem Text.nonempty?_of_ne_nil {t : Text} (h : t ≠ []) : t.nonempty? = some t := by
  rw [nonempty?, if_neg]
  rwa [List.isEmpty_iff]

theorem Text.of_nonempty? {t name : Text} (h : t.nonempty? = some name) : name = t ∧ t ≠ [] := by
  unfold nonempty? at h
  split at h
  next => cases h
  next hne =>
    cases h
    rw [List.isEmpty_iff] at hne
    exact ⟨rfl, hne⟩

theorem Text.cut?_join {s t : Text} (hs : s.IsWord) : cut? isBlank (s ++ ' ' :: t) = some (s, t) := by
  rw [cut?_eq_some_iff]
  exact ⟨' ', rfl, isBlank_space, hs.not_blank⟩

namespace Operand

theorem parse_of_isWord {name : Text} (h : name.IsWord) : parse name = .ok (.name (some name)) := by
  have hcut : name.cut? Text.isBlank = none := Text.cut?_eq_none_iff.2 h.not_blank
  rw [parse, hcut, Text.nonempty?_of_ne_nil h.ne_nil]

theorem parse_of_isPhrase (ty : Ty) {text : Text} (h : text.IsPhrase) :
    parse (ty.name.toList ++ ' ' :: text) = .ok (.literal ty text) := by
  rw [parse, Text.cut?_join ty.isWord_name]
  simp only [ty.ofWord?_name, Text.trimStart_of_head h.trimmed.head]

end Operand

theorem Text.of_cut? {t before after : Text} (ht : t ≠ [] → t.IsPhrase)
    (hcut : cut? isBlank t = some (before, after)) :
    IsWord before ∧ IsPhrase (trimStart after) := by
  obtain ⟨c, rfl, hc, hbefore⟩ := cut?_eq_some_iff.1 hcut
  have h := ht (by simp)
  constructor
  · refine ⟨?_, hbefore⟩
    rintro rfl
    have hhead := h.trimmed.head c rfl
    rw [hc] at hhead
    cases hhead
  · refine ⟨h.trimmed.trimStart_ne_nil hc, ?_, ?_⟩
    · have htrimmed := h.trimmed
      rw [List.append_cons] at htrimmed
      exact htrimmed.trimStart_of_append
    · intro hmem
      apply h.newline
      exact List.mem_append_right _ (List.mem_cons_of_mem c (mem_of_mem_trimStart hmem))

theorem Operand.parse_cases {rest : Text} (hrest : rest ≠ [] → rest.IsPhrase) {operand : Operand}
    (h : parse rest = .ok operand) :
    (∃ name?, operand = .name name? ∧ ∀ name, name? = some name → Text.IsWord name) ∨
      ∃ ty text, operand = .literal ty text ∧ Text.IsPhrase text := by
  unfold parse at h
  split at h
  next hcut =>
    cases h
    left
    refine ⟨rest.nonempty?, rfl, ?_⟩
    intro name hname
    obtain ⟨rfl, hne⟩ := Text.of_nonempty? hname
    exact ⟨hne, Text.cut?_eq_none_iff.1 hcut⟩
  next word text hcut =>
    split at h
    next => cases h
    next ty hty =>
      cases h
      right
      exact ⟨ty, Text.trimStart text, rfl, (Text.of_cut? hrest hcut).2⟩

namespace Statement

open Text

theorem parse_line (m : Mnemonic) {rest : Text} (h : rest ≠ [] → rest.IsPhrase) :
    parse (m.line rest) = parseRest rest m := by
  have hword : eqFold m.word.toList m.word.toList := eqFold_iff.2 rfl
  unfold Mnemonic.line
  split
  next hnil =>
    have hsplit := @Mnemonic.split?_of_apart m m.word.toList [] hword nofun
    rw [List.append_nil] at hsplit
    rw [parse, hsplit, hnil]
    rfl
  next hne =>
    have hsplit : Mnemonic.split? (m.word.toList ++ ' ' :: rest) =
        some (m, trimStart (' ' :: rest)) := by
      apply Mnemonic.split?_of_apart hword
      intro c hc
      cases hc
      exact isBlank_space
    rw [trimStart_cons_of_blank isBlank_space, trimStart_of_head (h hne).trimmed.head] at hsplit
    rw [parse, hsplit]

theorem parseVar_of_isPhrase (ty : Ty) {name : Text} (h : name.IsPhrase) :
    parseVar (ty.name.toList ++ ' ' :: name) = .ok (.var ty name) := by
  rw [parseVar, Operand.parse_of_isPhrase ty h]

theorem parseMove_of_isPhrase {name text : Text} (hname : name.IsWord)
    (hdigits : name.all Char.isDigit = false) (htext : text.IsPhrase) :
    parseMove (name ++ ' ' :: text) = .ok (.move name text) := by
  rw [parseMove, cut?_join hname]
  simp only [hdigits, Bool.false_eq_true, if_false, htext.trimmed.trim_eq]

end Statement

namespace Group

open Text

theorem render_cons (m : Mnemonic) (payload : Option Payload) {g : Group}
    (h : ∀ t ∈ g.filterMap word?, t ≠ []) :
    render ((.instruction m, payload) :: g) = m.line g.render := by
  have hwords : List.filterMap word? ((.instruction m, payload) :: g) =
      m.word.toList :: g.filterMap word? := rfl
  rw [render, render, hwords, Mnemonic.line]
  cases hrest : g.filterMap word? with
  | nil => simp
  | cons t ts =>
    rw [hrest, List.forall_mem_cons] at h
    have hne : [' '].intercalate (t :: ts) ≠ [] := by
      cases ts <;> simp [List.intercalate, h.1]
    rw [if_neg hne]
    simp [List.intercalate]

theorem render_instruction (m : Mnemonic) (payload : Option Payload) :
    render [(.instruction m, payload)] = m.line [] :=
  render_cons m payload (g := []) nofun

theorem render_absent (m : Mnemonic) : render [(.instruction m, none), (.ident, none)] = m.line [] :=
  render_cons m none (g := [(.ident, none)]) nofun

theorem render_ident (m : Mnemonic) (payload : Option Payload) {name : Text} (h : name ≠ []) :
    render [(.instruction m, payload), (.ident, some (.text name))] = m.line name := by
  rw [render_cons]
  · simp [render, word?]
  · simpa [word?] using h

theorem render_operands (m : Mnemonic) {x y : Kind × Option Payload} {s t : Text}
    (hx : word? x = some s) (hy : word? y = some t) (hs : s ≠ []) (ht : t ≠ []) :
    render [(.instruction m, none), x, y] = m.line (s ++ ' ' :: t) := by
  rw [render_cons]
  · simp [render, hx, hy, List.intercalate]
  · simp [hx, hy, hs, ht]

/--
The text behind an instruction word is read as a group, and rendered it is the same text.
-/
structure ReadFrom (g : Group) (m : Mnemonic) (rest : Text) : Prop where
  render_eq : g.render = m.line rest
  isPhrase : rest ≠ [] → rest.IsPhrase
  parseRest_eq : ∃ s, Statement.parseRest rest m = .ok s ∧ s.shape = g

theorem readFrom_operand {m : Mnemonic} (hm : m = .push ∨ m = .pushd) {rest : Text}
    {operand : Operand} (hrest : rest ≠ [] → rest.IsPhrase) (h : Operand.parse rest = .ok operand)
    (hrender : render ((.instruction m, none) :: Statement.operandShape operand) = m.line rest) :
    ReadFrom ((.instruction m, none) :: Statement.operandShape operand) m rest := by
  refine ⟨hrender, hrest, ?_⟩
  rcases hm with rfl | rfl
  · exact ⟨.push operand, by rw [Statement.parseRest, h]; rfl, rfl⟩
  · exact ⟨.pushd operand, by rw [Statement.parseRest, h]; rfl, rfl⟩

theorem WellFormed.exists_readFrom {g : Group} (h : g.WellFormed) : ∃ m rest, g.ReadFrom m rest := by
  cases h with
  | @name m name? hm hname =>
    cases name? with
    | none =>
      refine ⟨m, [], ?_⟩
      exact @readFrom_operand m hm [] (.name none) nofun rfl (render_absent m)
    | some name =>
      have hword := hname name rfl
      refine ⟨m, name, ?_⟩
      exact readFrom_operand hm (fun _ => hword.isPhrase) (Operand.parse_of_isWord hword)
        (render_ident m none hword.ne_nil)
  | @literal m ty text hm htext =>
    have hname := ty.isWord_name
    refine ⟨m, ty.name.toList ++ ' ' :: text, ?_⟩
    exact readFrom_operand hm (fun _ => hname.isPhrase.join htext)
      (Operand.parse_of_isPhrase ty htext) (render_operands m rfl rfl hname.ne_nil htext.ne_nil)
  | @arith op => exact ⟨.arith op, [], render_instruction _ _, nofun, .arith op, rfl, rfl⟩
  | discard =>
    refine ⟨.pop, "drop".toList, ?_, ?_, .discard, ?_, rfl⟩
    · rw [render_cons]
      · simp [render, word?, Mnemonic.word]
      · decide
    · intro _
      exact (Mnemonic.isWord_word .drop).isPhrase
    · rfl
  | @pop name? hname =>
    cases name? with
    | none => exact ⟨.pop, [], render_absent _, nofun, .pop none, rfl, rfl⟩
    | some name =>
      obtain ⟨hphrase, hdrop⟩ := hname name rfl
      refine ⟨.pop, name, render_ident _ _ hphrase.ne_nil, fun _ => hphrase, .pop (some name), ?_, rfl⟩
      rw [Statement.parseRest, if_neg hdrop, nonempty?_of_ne_nil hphrase.ne_nil]
  | @drop name? hname =>
    cases name? with
    | none => exact ⟨.drop, [], render_absent _, nofun, .drop none, rfl, rfl⟩
    | some name =>
      have hphrase := hname name rfl
      refine ⟨.drop, name, render_ident _ _ hphrase.ne_nil, fun _ => hphrase, .drop (some name), ?_, rfl⟩
      rw [Statement.parseRest, nonempty?_of_ne_nil hphrase.ne_nil]
  | @var ty name hname =>
    have hty := ty.isWord_name
    refine ⟨.var, ty.name.toList ++ ' ' :: name, ?_, ?_, .var ty name, ?_, rfl⟩
    · exact render_operands .var rfl rfl hty.ne_nil hname.ne_nil
    · intro _
      exact hty.isPhrase.join hname
    · exact Statement.parseVar_of_isPhrase ty hname
  | @move name text hname hdigits htext =>
    refine ⟨.move, name ++ ' ' :: text, ?_, ?_, .move name text, ?_, rfl⟩
    · exact render_operands .move rfl rfl hname.ne_nil htext.ne_nil
    · intro _
      exact hname.isPhrase.join htext
    · exact Statement.parseMove_of_isPhrase hname hdigits htext
  | print => exact ⟨.print, [], render_instruction _ _, nofun, .print, rfl, rfl⟩
  | @printVariable name hname =>
    refine ⟨.print, name, render_ident _ _ hname.ne_nil, fun _ => hname, .printVariable name, ?_, rfl⟩
    have hne : ¬ name.isEmpty := by
      rw [List.isEmpty_iff]
      exact hname.ne_nil
    rw [Statement.parseRest, if_neg hne]

theorem WellFormed.isPhrase_render {g : Group} (h : g.WellFormed) : g.render.IsPhrase := by
  obtain ⟨m, rest, hread⟩ := h.exists_readFrom
  rw [hread.render_eq]
  exact m.isPhrase_line hread.isPhrase

theorem WellFormed.parse_render {g : Group} (h : g.WellFormed) :
    ∃ s, Statement.parse g.render = .ok s ∧ s.shape = g := by
  obtain ⟨m, rest, hread⟩ := h.exists_readFrom
  rw [hread.render_eq, Statement.parse_line m hread.isPhrase]
  exact hread.parseRest_eq

theorem wellFormed_operandShape {m : Mnemonic} (hm : m = .push ∨ m = .pushd) {rest : Text}
    (hrest : rest ≠ [] → rest.IsPhrase) {operand : Operand} (h : Operand.parse rest = .ok operand) :
    WellFormed ((.instruction m, none) :: Statement.operandShape operand) := by
  rcases Operand.parse_cases hrest h with ⟨name?, rfl, hname⟩ | ⟨ty, text, rfl, htext⟩
  · exact .name hm hname
  · exact .literal hm htext

theorem wellFormed_of_parseVar {rest : Text} (hrest : rest ≠ [] → rest.IsPhrase) {s : Statement}
    (h : Statement.parseVar rest = .ok s) : WellFormed s.shape := by
  unfold Statement.parseVar at h
  split at h
  next => cases h
  next ty name hoperand =>
    cases h
    rcases Operand.parse_cases hrest hoperand with ⟨name?, hname, -⟩ | ⟨ty, text, htext, hphrase⟩
    · cases hname
    · cases htext
      exact .var hphrase
  next => cases h

theorem wellFormed_of_parseMove {rest : Text} (hrest : rest ≠ [] → rest.IsPhrase) {s : Statement}
    (h : Statement.parseMove rest = .ok s) : WellFormed s.shape := by
  unfold Statement.parseMove at h
  split at h
  next => cases h
  next name text hcut =>
    split at h
    next => cases h
    next hdigits =>
      cases h
      obtain ⟨hname, htext⟩ := of_cut? hrest hcut
      have htrim : trim text = trimStart text := trimEnd_of_last htext.trimmed.last
      rw [← htrim] at htext
      exact .move hname (eq_false_of_ne_true hdigits) htext

theorem wellFormed_of_parseRest {m : Mnemonic} {rest : Text} (hrest : rest ≠ [] → rest.IsPhrase)
    {s : Statement} (h : Statement.parseRest rest m = .ok s) : WellFormed s.shape := by
  have hnonempty : ∀ name, rest.nonempty? = some name → name = rest ∧ rest.IsPhrase := by
    intro name hname
    obtain ⟨heq, hne⟩ := of_nonempty? hname
    exact ⟨heq, hrest hne⟩
  cases m with
  | push =>
    obtain ⟨operand, hoperand, rfl⟩ := Result.map_eq_ok_iff.1 h
    exact wellFormed_operandShape (.inl rfl) hrest hoperand
  | pushd =>
    obtain ⟨operand, hoperand, rfl⟩ := Result.map_eq_ok_iff.1 h
    exact wellFormed_operandShape (.inr rfl) hrest hoperand
  | arith op =>
    cases h
    exact .arith
  | pop =>
    cases h
    split
    next => exact .discard
    next hdrop =>
      refine .pop ?_
      intro name hname
      obtain ⟨rfl, hphrase⟩ := hnonempty name hname
      exact ⟨hphrase, hdrop⟩
  | drop =>
    cases h
    refine .drop ?_
    intro name hname
    obtain ⟨rfl, hphrase⟩ := hnonempty name hname
    exact hphrase
  | var => exact wellFormed_of_parseVar hrest h
  | move => exact wellFormed_of_parseMove hrest h
  | print =>
    cases h
    split
    next => exact .print
    next hne =>
      rw [List.isEmpty_iff] at hne
      exact .printVariable (hrest hne)

theorem wellFormed_of_parse {line : Text} (hline : line.IsPhrase) {s : Statement}
    (h : Statement.parse line = .ok s) : WellFormed s.shape := by
  unfold Statement.parse at h
  split at h
  next => cases h
  next m rest hsplit => exact wellFormed_of_parseRest (Mnemonic.isPhrase_of_split? hsplit hline) h

end Group
end Stackline
