import Mathlib.Data.List.Forall2
import Stackline.Proofs.Mnemonic
import Stackline.Proofs.Source.Append
import Stackline.Proofs.Source.Lines
import Stackline.Proofs.Source.Malformed
import Stackline.Proofs.Statement.Parse

/-!
Layout does not matter. Two sources whose lines differ only in the blanks around them, in the blanks
behind an instruction word that stands apart and in its case, have the same outline, and all that a
run shows but for spans is told by the outline.
-/

namespace Stackline

variable {σ : Type} [Sink σ]

/--
A line in another layout.
-/
inductive Text.Relaid : Text → Text → Prop where
  /-- Other blanks around the line. -/
  | blanks {left right left' right' core : Text}
    (hleft : left.Blank) (hright : right.Blank) (hleft' : left'.Blank) (hright' : right'.Blank) :
    Relaid (left ++ core ++ right) (left' ++ core ++ right')
  /-- Also another case of the instruction word and, before an operand, other blanks behind it. -/
  | word (m : Mnemonic) {left right left' right' lead lead' gap gap' operand : Text}
    (hleft : left.Blank) (hright : right.Blank) (hleft' : left'.Blank) (hright' : right'.Blank)
    (hlead : eqFold lead m.word.toList) (hlead' : eqFold lead' m.word.toList)
    (hgap : gap.Blank) (hgap' : gap'.Blank) (hoperand : operand ≠ [] → gap ≠ [] ∧ gap' ≠ []) :
    Relaid (left ++ (lead ++ gap ++ operand) ++ right)
      (left' ++ (lead' ++ gap' ++ operand) ++ right')

/--
A source whose lines are those of another in another layout.
-/
def Source.Relaid (s t : Text) : Prop :=
  List.Forall₂ Text.Relaid (cutLines s) (cutLines t)

theorem Text.Relaid.of_end {right right' : Text} (hright : right.Blank) (hright' : right'.Blank)
    (core : Text) : Relaid (core ++ right) (core ++ right') :=
  @blanks [] right [] right' core blank_nil hright blank_nil hright'

theorem Text.trim_of_lead {m : Mnemonic} {lead gap operand : Text}
    (hlead : eqFold lead m.word.toList) (hgap : gap.Blank) (hoperand : operand ≠ [] → gap ≠ []) :
    ∃ behind, trim (lead ++ gap ++ operand) = lead ++ behind ∧
      (∀ c, behind.head? = some c → isBlank c = true) ∧ trimStart behind = trim operand := by
  have htrimmed := isTrimmed_of_not_blank (Mnemonic.not_blank_of_eqFold hlead)
  obtain ⟨right, hright, heq⟩ := exists_trim_append operand
  by_cases hnil : trim operand = []
  · -- nothing but blanks stands behind the word
    refine ⟨[], ?_, nofun, hnil.symm⟩
    have hblank : (gap ++ operand).Blank := by
      rw [← heq, hnil, List.append_nil]
      exact hgap.append ((blank_indent operand).append hright)
    have htrim := trim_append_append blank_nil hblank lead
    rw [List.nil_append, ← List.append_assoc, htrimmed.trim_eq] at htrim
    rw [htrim, List.append_nil]
  · have hindent := hgap.append (blank_indent operand)
    have hcore := htrimmed.append (isTrimmed_trim operand) (Mnemonic.ne_nil_of_eqFold hlead) hnil
      (gap ++ indent operand)
    have htrim := trim_append_append blank_nil hright (lead ++ (gap ++ indent operand) ++ trim operand)
    refine ⟨gap ++ indent operand ++ trim operand, ?_, ?_, ?_⟩
    · rw [hcore.trim_eq] at htrim
      rw [← List.append_assoc lead, ← htrim]
      conv => lhs; rw [← heq]
      simp only [List.append_assoc, List.nil_append]
    · have hgapne : gap ≠ [] := by
        apply hoperand
        rintro rfl
        exact hnil rfl
      obtain ⟨d, gap, rfl⟩ := List.exists_cons_of_ne_nil hgapne
      intro c hc
      cases hc
      exact hgap d List.mem_cons_self
    · rw [trimStart_append hindent, trimStart_of_head (isTrimmed_trim operand).head]

namespace Statement

theorem parse_of_lead {m : Mnemonic} {lead gap operand : Text}
    (hlead : Text.eqFold lead m.word.toList) (hgap : gap.Blank)
    (hoperand : operand ≠ [] → gap ≠ []) :
    parse (Text.trim (lead ++ gap ++ operand)) = parseRest (Text.trim operand) m := by
  obtain ⟨behind, htrim, hbehind, hrest⟩ := Text.trim_of_lead hlead hgap hoperand
  rw [parse, htrim, Mnemonic.split?_of_apart hlead hbehind, hrest]

end Statement

theorem Text.Relaid.parse_eq {a b : Text} (h : Relaid a b) :
    Statement.parse (trim a) = Statement.parse (trim b) ∧ (trim a).isEmpty = (trim b).isEmpty := by
  cases h with
  | blanks hleft hright hleft' hright' =>
    rw [trim_append_append hleft hright, trim_append_append hleft' hright']
    exact ⟨rfl, rfl⟩
  | word m hleft hright hleft' hright' hlead hlead' hgap hgap' hoperand =>
    have hoperand₁ := fun hne => (hoperand hne).1
    have hoperand₂ := fun hne => (hoperand hne).2
    rw [trim_append_append hleft hright, trim_append_append hleft' hright']
    constructor
    · rw [Statement.parse_of_lead hlead hgap hoperand₁,
        Statement.parse_of_lead hlead' hgap' hoperand₂]
    · obtain ⟨behind, htrim, -⟩ := trim_of_lead hlead hgap hoperand₁
      obtain ⟨behind', htrim', -⟩ := trim_of_lead hlead' hgap' hoperand₂
      rw [htrim, htrim']
      obtain ⟨c, lead, rfl⟩ := List.exists_cons_of_ne_nil (Mnemonic.ne_nil_of_eqFold hlead)
      obtain ⟨c', lead', rfl⟩ := List.exists_cons_of_ne_nil (Mnemonic.ne_nil_of_eqFold hlead')
      rfl

/--
What a line tells about a run, its number and what is read from it.
-/
def Line.entry (line : Line) : Nat × Except Cause Statement :=
  (line.number, line.parse)

namespace Source

def outline (source : Text) : List (Nat × Except Cause Statement) :=
  (codeLines source).map Line.entry

theorem map_entry_locate {xs ys : List Text} (h : List.Forall₂ Text.Relaid xs ys)
    (number offset offset' : Nat) :
    ((locate number offset xs).filter fun line => !line.isBlank).map Line.entry =
      ((locate number offset' ys).filter fun line => !line.isBlank).map Line.entry := by
  induction h generalizing number offset offset' with
  | nil => rfl
  | @cons x y xs ys hline _ ih =>
    obtain ⟨hparse, hempty⟩ := hline.parse_eq
    have hblank : Line.isBlank ⟨number, offset, x⟩ = Line.isBlank ⟨number, offset', y⟩ := hempty
    have hentry : Line.entry ⟨number, offset, x⟩ = Line.entry ⟨number, offset', y⟩ :=
      Prod.ext rfl hparse
    rw [locate, locate, List.filter_cons, List.filter_cons, hblank]
    split
    · rw [List.map_cons, List.map_cons, hentry, ih]
    · apply ih

theorem Relaid.outline_eq {s t : Text} (h : Relaid s t) : outline s = outline t :=
  map_entry_locate h 1 0 0

theorem Relaid.length_lines {s t : Text} (h : Relaid s t) :
    (lines s).length = (lines t).length := by
  rw [lines, lines, length_locate, length_locate]
  exact h.length_eq

end Source

/--
All places on one line are the same.
-/
def Relocation.linesOnly : Relocation :=
  ⟨id, fun _ => ⟨0, 0⟩, Iff.rfl⟩

namespace Source

open Relocation

/--
The instruction of a line that stands somewhere on it.
-/
def instructionOf? (entry : Nat × Except Cause Statement) : Option Instruction :=
  entry.2.toOption.map fun s => ⟨⟨entry.1, ⟨0, 0⟩⟩, s⟩

/--
The fault of a malformed line that stands somewhere on it.
-/
def faultOf? (entry : Nat × Except Cause Statement) : Option Fault :=
  match entry.2 with
  | .ok _ => none
  | .error cause => some (.located ⟨entry.1, ⟨0, 0⟩⟩ cause)

theorem block_relocate (source : Text) :
    (block source).relocate linesOnly = (outline source).filterMap instructionOf? := by
  rw [Block.relocate, block, outline, List.map_filterMap, List.filterMap_map]
  congr 1
  funext line
  rw [Line.instruction?, Function.comp_apply, instructionOf?, Option.map_map]
  rfl

theorem faultOf?_of_wellFormed {ls : List Line} (h : ∀ line ∈ ls, ∃ s, line.parse = .ok s) :
    ∀ entry ∈ ls.map Line.entry, faultOf? entry = none := by
  rw [List.forall_mem_map]
  intro line hline
  obtain ⟨s, hs⟩ := h line hline
  rw [faultOf?, Line.entry, hs]

theorem findSome?_outline_of_wellFormed {source : Text} (h : WellFormed source) :
    (outline source).findSome? faultOf? = none := by
  rw [List.findSome?_eq_none_iff]
  exact faultOf?_of_wellFormed h

theorem FirstMalformed.findSome?_outline {source : Text} {before : List Line} {line : Line}
    {cause : Cause} (h : FirstMalformed source before line cause) :
    (outline source).findSome? faultOf? = some (.located ⟨line.number, ⟨0, 0⟩⟩ cause) := by
  obtain ⟨behind, hcode⟩ := h.code
  rw [List.findSome?_eq_some_iff]
  refine ⟨before.map Line.entry, line.entry, behind.map Line.entry, ?_, ?_, ?_⟩
  · rw [outline, ← hcode, List.append_assoc, List.map_append]
    rfl
  · rw [faultOf?, Line.entry, h.malformed]
  · exact faultOf?_of_wellFormed h.wellFormed

end Source

open Relocation in
/--
What a run shows, but for spans, is told by the outline and the number of lines.
-/
theorem run_relocate (source : Text) (sink : σ) :
    (run source sink).relocate linesOnly =
      match (Source.outline source).findSome? Source.faultOf? with
      | some fault => ⟨(State.start sink).relocate linesOnly, some fault⟩
      | none =>
        (Block.exec ((Source.outline source).filterMap Source.instructionOf?)
          ((State.start sink).relocate linesOnly)).andThen
            fun state => state.finish ⟨(Source.lines source).length, ⟨0, 0⟩⟩ := by
  rcases Source.wellFormed_or_firstMalformed source with h | ⟨before, line, cause, h⟩
  · rw [Source.findSome?_outline_of_wellFormed h, run_eq_exec h, ← Source.block_relocate,
      Block.exec_relocate]
    symm
    apply Outcome.andThen_map
    intro state
    exact State.finish_relocate linesOnly state (Source.endToken source).position
  · have hcause := Cause.relocate_of_isReading linesOnly (Statement.isReading_of_parse h.malformed)
    rw [h.findSome?_outline, run, h.lex_eq]
    simp only [Outcome.relocate, Outcome.map, Option.map_some, Fault.relocate, hcause]
    rfl

/--
What is told about a fault, but for the places that it points at.
-/
def Fault.report (fault : Fault) : String × String × Option Nat :=
  (fault.code, fault.message, fault.position?.map Position.line)

/--
Two programs left their sinks alike and stopped in the same way.
-/
structure Outcome.SameReport (a b : Outcome σ) : Prop where
  sink : a.state.sink = b.state.sink
  report : a.fault?.map Fault.report = b.fault?.map Fault.report

open Relocation

theorem Cause.detail_leftoverVariables (left : List Variable) :
    (leftoverVariables left).detail = "variables not dropped: " ++
      ", ".intercalate (left.map fun x => s!"line {x.position.line} -> {detail.quote x.name}") :=
  rfl

theorem Cause.detail_relocate (cause : Cause) :
    (cause.relocate linesOnly).detail = cause.detail := by
  cases cause with
  | leftoverVariables left =>
    rw [relocate, detail_leftoverVariables, detail_leftoverVariables, List.map_map]
    congr 2
  | _ => rfl

theorem Fault.message_relocate (fault : Fault) :
    (fault.relocate linesOnly).message = fault.message := by
  cases fault with
  | located position cause =>
    rw [relocate, message, message, Cause.category_relocate, Cause.detail_relocate]
    rfl
  | unreadable path reason => rfl
  | output => rfl

theorem Fault.report_relocate (fault : Fault) :
    (fault.relocate linesOnly).report = fault.report := by
  rw [report, report, code_relocate, message_relocate, position?_relocate, Option.map_map]
  rfl

omit [Sink σ] in
theorem Outcome.sameReport_of_relocate {a b : Outcome σ}
    (h : a.relocate linesOnly = b.relocate linesOnly) : a.SameReport b := by
  have hreport : ∀ outcome : Outcome σ, outcome.fault?.map Fault.report =
      (outcome.relocate linesOnly).fault?.map Fault.report := by
    intro outcome
    rw [relocate, fault?_map, Option.map_map]
    congr 1
    funext fault
    exact fault.report_relocate.symm
  constructor
  · exact congrArg (fun outcome => outcome.state.sink) h
  · rw [hreport a, hreport b, h]

namespace Source

/--
A source whose lines end in a carriage return and a newline.
-/
def crlf (source : Text) : Text :=
  source.flatMap fun c => if c = '\n' then ['\r', '\n'] else [c]

theorem crlf_cons (c : Char) (source : Text) :
    crlf (c :: source) = if c = '\n' then '\r' :: '\n' :: crlf source else c :: crlf source := by
  rw [crlf, List.flatMap_cons]
  split <;> rfl

theorem cutLines_crlf (source : Text) : cutLines (crlf source) = (cutLines source).map crlf := by
  induction source with
  | nil => rfl
  | cons c source ih =>
    have hlines : ∀ c t, cutLines (c :: t) = cutLines.extend c (cutLines t) := fun _ _ => rfl
    rw [crlf_cons, hlines]
    split
    next hc =>
      rw [hlines, hlines, ih, hc]
      cases cutLines source <;> rfl
    next hc =>
      rw [hlines, ih]
      cases cutLines source with
      | nil => simp [cutLines.extend, crlf, hc]
      | cons line rest => simp [cutLines.extend, crlf_cons, hc]

theorem crlf_of_not_mem {line : Text} (h : '\n' ∉ line) : crlf line = line := by
  induction line with
  | nil => rfl
  | cons c line ih =>
    rw [List.mem_cons, not_or] at h
    rw [crlf_cons, if_neg (Ne.symm h.1), ih h.2]

theorem relaid_crlf (source : Text) : Relaid source (crlf source) := by
  rw [Relaid, cutLines_crlf, List.forall₂_map_right_iff, List.forall₂_same]
  intro line hline
  obtain ⟨core, hcore, rfl | rfl⟩ := mem_cutLines hline
  · rw [crlf_of_not_mem hcore, ← List.append_nil line]
    exact Text.Relaid.of_end Text.blank_nil Text.blank_nil line
  · have hcrlf : crlf (core ++ ['\n']) = core ++ ['\r', '\n'] := by
      rw [crlf, List.flatMap_append]
      exact congrArg (· ++ ['\r', '\n']) (crlf_of_not_mem hcore)
    rw [hcrlf]
    exact Text.Relaid.of_end Text.blank_newline (by decide +kernel) core

theorem Relaid.run_relocate_eq {s t : Text} (h : Relaid s t) (sink : σ) :
    (run s sink).relocate linesOnly = (run t sink).relocate linesOnly := by
  rw [run_relocate, run_relocate, h.outline_eq, h.length_lines]

end Source

/--
A source in another layout runs in the same way: it prints the same, and it succeeds or fails with
the same kind of fault, the same message and the same line. In particular a carriage return before
each newline makes no difference.
-/
theorem sameReport_of_relaid (sink : σ) :
    (∀ s t : Text, Source.Relaid s t → (run s sink).SameReport (run t sink)) ∧
      ∀ source : Text, (run source sink).SameReport (run (Source.crlf source) sink) := by
  constructor
  · intro s t h
    apply Outcome.sameReport_of_relocate
    exact h.run_relocate_eq sink
  · intro source
    apply Outcome.sameReport_of_relocate
    exact (Source.relaid_crlf source).run_relocate_eq sink

theorem sameReport_of_relaid_indented :
    Source.Relaid "push int 7\npop".toList " PUSH\tint 7\r\npop\t".toList ∧
      (run "push int 7\npop".toList (Store.empty none)).SameReport
        (run " PUSH\tint 7\r\npop\t".toList (Store.empty none)) := by
  have hpush : Text.Relaid ([] ++ ("push".toList ++ [' '] ++ "int 7".toList) ++ ['\n'])
      ([' '] ++ ("PUSH".toList ++ ['\t'] ++ "int 7".toList) ++ ['\r', '\n']) := by
    apply Text.Relaid.word .push <;> decide +kernel
  have hpop : Text.Relaid ("pop".toList ++ []) ("pop".toList ++ ['\t']) :=
    Text.Relaid.of_end Text.blank_nil (by decide +kernel) "pop".toList
  have hrelaid : Source.Relaid "push int 7\npop".toList " PUSH\tint 7\r\npop\t".toList :=
    .cons hpush (.cons hpop .nil)
  exact ⟨hrelaid, (sameReport_of_relaid (Store.empty none)).1 _ _ hrelaid⟩

end Stackline
