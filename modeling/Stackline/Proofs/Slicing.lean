import Mathlib
import Stackline.Proofs.Interpolation
import Stackline.Proofs.Source.Reader
import Stackline.Proofs.Text.Slice

/-!
The cuts that reading makes, by the offsets of bytes. `Sliced` holds them in the form in which every
cut is a slice, and where a slice that does not exist ends the reading with `none`. Main statement:
this never happens, and the cuts are those that are made between characters. Likewise no instruction
of an operator is left to the arm for the other instructions.
-/

namespace Stackline

variable {σ : Type} [Sink σ]

namespace Text

theorem byteLength_of_eqFold {s t : Text} (h : eqFold s t) : s.byteLength = t.byteLength := by
  rw [← eqFoldBytes_eq_eqFold, eqFoldBytes, beq_iff_eq] at h
  have hlength := congrArg List.length h
  rwa [List.length_map, List.length_map, length_utf8, length_utf8] at hlength

def IsAscii (t : Text) : Prop :=
  ∀ c ∈ t, c.toNat < 128

theorem toLower_lt {c : Char} (h : c.toNat < 128) : c.toLower.toNat < 128 := by
  have hascii : ∀ n < 128, (Char.ofNat n).toLower.toNat < 128 := by
    decide
  have hlt := hascii c.toNat h
  rwa [Char.ofNat_toNat] at hlt

theorem IsAscii.of_eqFold {lead word : Text} (hword : word.IsAscii) (h : eqFold lead word) :
    lead.IsAscii := by
  rw [eqFold_iff] at h
  intro c hc
  have hmem := List.mem_map_of_mem (f := Char.toLower) hc
  rw [h] at hmem
  obtain ⟨w, hw, hlower⟩ := List.mem_map.1 hmem
  by_contra hlt
  have hw := toLower_lt (hword w hw)
  rw [hlower, toLower_of_le (Nat.not_lt.1 hlt)] at hw
  exact hlt hw

theorem mem_of_holed {before after : Text} (hbefore : ¬ before.Opens)
    (h : Holed (before ++ ['$', '{'] ++ after)) : '}' ∈ after := by
  induction before with
  | nil => simpa using h.mem
  | cons c before ih =>
    rw [opens_cons_iff, not_or] at hbefore
    apply ih hbefore.2
    apply Holed.tail h
    rintro ⟨rfl, hhead⟩
    apply hbefore.1
    cases before with
    | nil => cases hhead
    | cons d before => exact ⟨rfl, hhead⟩

end Text

namespace Sliced

/--
Remove a leading word. A text too short for the word, or with a character across its end, does not
begin with it.
-/
def dropWord (word line : Text) : Option (Option Text) :=
  match line.slice? 0 word.byteLength with
  | none => some none
  | some lead =>
    if lead.eqFoldBytes word then
      (line.slice? word.byteLength line.byteLength).map fun behind => some behind.trimStart
    else
      some none

theorem dropWord_eq (word line : Text) : dropWord word line = some (Text.dropWord? word line) := by
  -- A lead that matches has the width of the word, so it is the slice that is compared.
  have hslice : ∀ {rest}, Text.dropWord? word line = some rest →
      ∃ lead, line.slice? 0 word.byteLength = some lead ∧ Text.eqFold lead word := by
    intro rest hrest
    obtain ⟨lead, behind, rfl, hlead, -⟩ := Text.dropWord?_eq_some_iff.1 hrest
    rw [← Text.byteLength_of_eqFold hlead]
    exact ⟨lead, Text.slice?_zero lead behind, hlead⟩
  unfold dropWord
  cases hlead : line.slice? 0 word.byteLength with
  | none =>
    cases hdrop : Text.dropWord? word line with
    | none => rfl
    | some rest =>
      obtain ⟨lead, hlead', -⟩ := hslice hdrop
      rw [hlead] at hlead'
      cases hlead'
  | some lead =>
    dsimp only
    rw [Text.eqFoldBytes_eq_eqFold]
    split
    next hfold =>
      obtain ⟨before, behind, rfl, hbefore, hlength⟩ := Text.slice?_eq_some_iff.1 hlead
      rw [← hlength, Text.slice?_byteLength, Option.map_some, Option.some.injEq, eq_comm,
        Text.dropWord?_eq_some_iff]
      rw [Text.byteLength_eq_zero_iff] at hbefore
      subst hbefore
      exact ⟨lead, behind, rfl, hfold, rfl⟩
    next hfold =>
      cases hdrop : Text.dropWord? word line with
      | none => rfl
      | some rest =>
        obtain ⟨lead', hlead', hfold'⟩ := hslice hdrop
        rw [hlead] at hlead'
        cases hlead'
        exact absurd hfold' hfold

theorem cutLine_of_not_mem {t : Text} (h : '\n' ∉ t) : Source.cutLine t = (t, []) := by
  induction t with
  | nil => rfl
  | cons c t ih =>
    rw [List.mem_cons, not_or] at h
    rw [Source.cutLine, if_neg (Ne.symm h.1), ih h.2]

theorem cutLine_append {before : Text} (h : '\n' ∉ before) (after : Text) :
    Source.cutLine (before ++ ['\n'] ++ after) = (before ++ ['\n'], after) := by
  induction before with
  | nil => rfl
  | cons c before ih =>
    rw [List.mem_cons, not_or] at h
    rw [List.cons_append, List.cons_append, Source.cutLine, if_neg (Ne.symm h.1), ih h.2]

def cutLine (rest : Text) : Option (Text × Text) := do
  let stop := ((rest.find? ['\n']).map (· + 1)).getD rest.byteLength
  let line ← rest.slice? 0 stop
  let behind ← rest.slice? stop rest.byteLength
  return (line, behind)

theorem cutLine_eq (rest : Text) : cutLine rest = some (Source.cutLine rest) := by
  unfold cutLine
  cases hfind : rest.find? ['\n'] with
  | none =>
    have hrest := Text.find?_eq_none hfind
    rw [List.singleton_infix_iff] at hrest
    have hslice : rest.slice? rest.byteLength rest.byteLength = some [] := by
      simpa using Text.slice?_byteLength rest []
    have hline : rest.slice? 0 rest.byteLength = some rest := by
      simpa using Text.slice?_zero rest []
    rw [cutLine_of_not_mem hrest]
    simp [hslice, hline]
  | some n =>
    obtain ⟨before, after, hrest, hbefore, -, hline, hbehind⟩ :=
      Text.slices_of_find? (by simp) hfind
    have hline : rest.slice? 0 (n + 1) = some (before ++ ['\n']) := hline
    have hbehind : rest.slice? (n + 1) rest.byteLength = some after := hbehind
    rw [List.singleton_infix_iff] at hbefore
    simp only [Option.map_some, Option.getD_some, hline, hbehind]
    rw [hrest, cutLine_append hbefore]
    rfl

def cutLines : Text → Option (List Text)
  | [] => some []
  | c :: t =>
    match _h : cutLine (c :: t) with
    | none => none
    | some (line, behind) => (cutLines behind).map (line :: ·)
termination_by rest => rest.length
decreasing_by
  have hle := Source.length_cutLine_le c t
  rw [cutLine_eq, Option.some.injEq] at _h
  rw [_h] at hle
  exact Nat.lt_succ_of_le hle

theorem cutLines_eq (source : Text) : cutLines source = some (Source.cutLines source) := by
  fun_induction cutLines source with
  | case1 => rfl
  | case2 c t h =>
    rw [cutLine_eq] at h
    cases h
  | case3 c t line behind h ih =>
    rw [cutLine_eq, Option.some.injEq] at h
    rw [ih, Source.cutLines_cons, h]
    rfl

def unquote (text : Text) : Option (Except Cause Text) :=
  if text.head? ≠ some '"' then
    some (.error .missingOpeningQuote)
  else if text.byteLength < 2 ∨ text.getLast? ≠ some '"' then
    some (.error .missingClosingQuote)
  else
    (text.slice? 1 (text.byteLength - 1)).map .ok

theorem unquote_quote (inner : Text) : unquote (Literal.quote inner) = some (.ok inner) := by
  have hlength : (Literal.quote inner).byteLength = 1 + inner.byteLength + 1 := by
    rw [Literal.quote, Text.byteLength_append, Text.byteLength_cons]
    rfl
  have hslice : (Literal.quote inner).slice? 1 ((Literal.quote inner).byteLength - 1) =
      some inner := by
    rw [hlength, Text.slice?_eq_some_iff]
    exact ⟨['"'], ['"'], rfl, rfl, rfl⟩
  rw [unquote, if_neg (by simp [Literal.quote]), if_neg, hslice, Option.map_some]
  rw [hlength, not_or, not_not, Literal.quote, List.getLast?_concat]
  exact ⟨by omega, rfl⟩

theorem unquote_eq (text : Text) : unquote text = some (Literal.unquote text) := by
  unfold Literal.unquote
  split
  next rest =>
    split
    next hlast =>
      obtain ⟨inner, rfl⟩ := List.getLast?_eq_some_iff.1 hlast
      rw [List.dropLast_concat]
      exact unquote_quote inner
    next hlast =>
      rw [unquote, if_neg (by simp), if_pos]
      -- A lone quote does not close what it opens.
      cases rest with
      | nil => exact .inl (by decide)
      | cons c rest => exact .inr (by rwa [List.getLast?_cons_cons])
  next hhead =>
    apply if_pos
    intro h
    obtain ⟨rest, rfl⟩ := List.head?_eq_some_iff.1 h
    exact hhead rest rfl

/--
The parts of the first hole and what follows it, if there is one. All of them are cut, even if the
name turns out to be none of a variable.
-/
def hole (rest : Text) : Option (Option (Text × Text × Text)) :=
  match rest.find? ['$', '{'] with
  | none => some none
  | some start => do
    let after ← rest.slice? (start + 2) rest.byteLength
    match after.find? ['}'] with
    | none => return none
    | some stop =>
      let name ← after.slice? 0 stop
      let before ← rest.slice? 0 start
      let behind ← after.slice? (stop + 1) after.byteLength
      return some (before, name, behind)

/--
What the search for a hole gives, in terms of the characters.
-/
inductive Finds (rest : Text) : Option (Option (Text × Text × Text)) → Prop where
  | plain (h : ¬ rest.Holed) : Finds rest (some none)
  | hole {before name behind : Text} (hbefore : ¬ before.Opens) (hname : '}' ∉ name)
    (hrest : rest = before ++ '$' :: '{' :: name ++ '}' :: behind) :
    Finds rest (some (some (before, name, behind)))

theorem finds_of_hole {rest : Text} {found : Option (Option (Text × Text × Text))}
    (h : hole rest = found) : Finds rest found := by
  rw [← h, hole]
  cases hopen : rest.find? ['$', '{'] with
  | none => exact .plain fun hholed => Text.find?_eq_none hopen hholed.opens
  | some start =>
    obtain ⟨before, after, hrest, hbefore, hplain, -, hafter⟩ :=
      Text.slices_of_find? (by simp) hopen
    have hafter : rest.slice? (start + 2) rest.byteLength = some after := hafter
    simp only [hafter, hplain, Option.bind_eq_bind, Option.bind_some]
    cases hclose : after.find? ['}'] with
    | none =>
      have hmem := Text.find?_eq_none hclose
      rw [List.singleton_infix_iff] at hmem
      rw [hrest]
      exact .plain fun hholed => hmem (Text.mem_of_holed hbefore hholed)
    | some stop =>
      obtain ⟨name, behind, hafter, hname, hslice, -, hbehind⟩ :=
        Text.slices_of_find? (by simp) hclose
      have hbehind : after.slice? (stop + 1) after.byteLength = some behind := hbehind
      rw [List.singleton_infix_iff] at hname
      simp only [hslice, hbehind, Option.bind_some]
      exact .hole hbefore hname (by simp [hrest, hafter])

def fill (scope : Scope) (out rest : Text) : Option (Except Cause Text) :=
  match _h : hole rest with
  | none => none
  | some none => some (.ok (out ++ rest))
  | some (some (before, name, behind)) =>
    match scope.read name with
    | .error cause => some (.error cause)
    | .ok value => fill scope (out ++ before ++ value.display) behind
termination_by rest.length
decreasing_by
  cases finds_of_hole _h with
  | hole _ _ hrest =>
    rw [hrest]
    simp only [List.length_append, List.length_cons]
    omega

theorem fill_eq (scope : Scope) (out rest : Text) :
    fill scope out rest = some (((Template.parse rest).fill scope).map (out ++ ·)) := by
  fun_induction fill scope out rest with
  | case1 out rest h => cases finds_of_hole h
  | case2 out rest h =>
    cases finds_of_hole h with
    | plain hholed =>
      rw [Template.parse_of_not_holed hholed]
      rfl
  | case3 out rest before name behind h cause hread =>
    cases finds_of_hole h with
    | hole hbefore hname hrest =>
      rw [hrest, Template.parse_of_hole hbefore hname, Template.fill, hread]
      rfl
  | case4 out rest before name behind h value hread ih =>
    cases finds_of_hole h with
    | hole hbefore hname hrest =>
      rw [hrest, Template.parse_of_hole hbefore hname, Template.fill, hread, ih]
      cases (Template.parse behind).fill scope with
      | error cause => rfl
      | ok t => simp [Except.map, bind, Except.bind, pure, Except.pure]

def read (scope : Scope) (ty : Ty) (text : Text) : Option (Except Cause Value) :=
  match ty with
  | .string => do
    match ← unquote text with
    | .error cause => return .error cause
    | .ok inner => return (← fill scope [] inner).map .str
  | _ => some (Literal.read scope ty text)

theorem read_eq (scope : Scope) (ty : Ty) (text : Text) :
    read scope ty text = some (Literal.read scope ty text) := by
  cases ty with
  | string =>
    rw [read, unquote_eq, Literal.read]
    cases Literal.unquote text with
    | error cause => rfl
    | ok inner =>
      dsimp only [bind, Option.bind, Except.bind]
      rw [fill_eq]
      cases (Template.parse inner).fill scope with
      | error cause => rfl
      | ok t => rfl
  | _ => rfl

end Sliced

/-!
The arm for the operators.
-/

def Kind.operator? (kind : Kind) : Option Operator :=
  Operator.all.find? fun op => kind = .instruction (.arith op)

theorem Kind.operator?_arith (op : Operator) :
    (Kind.instruction (.arith op)).operator? = some op := by
  cases op <;> rfl

theorem Kind.eq_of_operator? {kind : Kind} {op : Operator} (h : kind.operator? = some op) :
    kind = .instruction (.arith op) := by
  simpa using List.find?_some h

namespace Machine

/--
Execute an instruction in two stages. Operators are looked for first, and an operator that comes to
the second stage ends the run with `none`.
-/
def dispatch (first : Token) (cursor : Cursor) (state : State σ) : Option (Cursor × Outcome σ) :=
  match first.kind.operator? with
  | some op => some (cursor, Statement.execArith op first.position state)
  | none =>
    match first.kind with
    | .instruction (.arith _) => none
    | _ => some (execute first cursor state)

theorem dispatch_eq (first : Token) (cursor : Cursor) (state : State σ) :
    dispatch first cursor state = some (execute first cursor state) := by
  unfold dispatch
  cases hop : first.kind.operator? with
  | some op =>
    dsimp only
    rw [execute, Kind.eq_of_operator? hop]
    rfl
  | none =>
    dsimp only
    split
    next op hkind =>
      rw [hkind, Kind.operator?_arith] at hop
      cases hop
    next => rfl

def dispatchStep (machine : Machine σ) : Option (Machine σ × Option Fault) :=
  match machine.cursor.next with
  | .error fault => some ({ machine with running := false }, some fault)
  | .ok (first, cursor) => do
    let (cursor, outcome) ← dispatch first cursor machine.state
    let running := outcome.fault?.isNone && first.kind ≠ .eof
    return (⟨cursor, outcome.state, running⟩, outcome.fault?)

theorem dispatchStep_eq (machine : Machine σ) : dispatchStep machine = some machine.step := by
  unfold dispatchStep step
  cases machine.cursor.next with
  | error fault => rfl
  | ok taken =>
    dsimp only
    rw [dispatch_eq]
    rfl

def dispatchAll (machine : Machine σ) : Option (Machine σ × Option Fault) :=
  go machine.bound machine
where
  go : Nat → Machine σ → Option (Machine σ × Option Fault)
    | 0, machine => some (machine, none)
    | count + 1, machine =>
      if machine.running then do
        match ← dispatchStep machine with
        | (after, some fault) => return (after, some fault)
        | (after, none) => go count after
      else
        some (machine, none)

theorem dispatchAll.go_eq (count : Nat) (machine : Machine σ) :
    dispatchAll.go count machine = some (evaluate.go count machine) := by
  induction count generalizing machine with
  | zero => rfl
  | succ count ih =>
    unfold dispatchAll.go evaluate.go
    rw [dispatchStep_eq]
    split
    · rcases machine.step with ⟨after, fault | fault⟩
      · exact ih after
      · rfl
    · rfl

theorem dispatchAll_eq (machine : Machine σ) : dispatchAll machine = some machine.evaluate :=
  dispatchAll.go_eq machine.bound machine

end Machine

/--
A slice exists exactly between offsets at which characters begin or the text ends, and it has the
bytes between them. With every cut made by such offsets, a word that begins a line, the lines of a
source and the values of literals are found as they are between characters, and no slice is missing.
Nor does a run come to the arm that no operator may reach.
-/
theorem byte_offsets_are_safe :
    (∀ (t : Text) (start stop : Nat),
      ((t.slice? start stop).isSome ↔
        start ≤ stop ∧ t.IsBoundary start ∧ t.IsBoundary stop) ∧
      ∀ s, t.slice? start stop = some s → s.utf8 = (t.utf8.drop start).take (stop - start)) ∧
    (∀ word line : Text, Sliced.dropWord word line = some (Text.dropWord? word line)) ∧
    (∀ word line rest : Text, word.IsAscii →
      (Sliced.dropWord word line = some (some rest) ↔
        ∃ lead behind, line = lead ++ behind ∧ lead.IsAscii ∧ Text.eqFold lead word ∧
          rest = Text.trimStart behind)) ∧
    (∀ rest : Text, Sliced.cutLine rest = some (Source.cutLine rest)) ∧
    (∀ source : Text, Sliced.cutLines source = some (Source.cutLines source)) ∧
    (∀ (scope : Scope) (ty : Ty) (text : Text),
      Sliced.read scope ty text = some (Literal.read scope ty text)) ∧
    ∀ (σ : Type) [Sink σ] (tokens : List Token) (sink : σ),
      Machine.dispatchAll (Machine.start tokens sink) =
        some (Machine.start tokens sink).evaluate := by
  refine ⟨?_, Sliced.dropWord_eq, ?_, Sliced.cutLine_eq, Sliced.cutLines_eq, Sliced.read_eq, ?_⟩
  · intro t start stop
    exact ⟨Text.isSome_slice?_iff, fun s => Text.utf8_of_slice?⟩
  · intro word line rest hword
    rw [Sliced.dropWord_eq, Option.some.injEq, Text.dropWord?_eq_some_iff]
    constructor
    · rintro ⟨lead, behind, hline, hlead, hrest⟩
      exact ⟨lead, behind, hline, hword.of_eqFold hlead, hlead, hrest⟩
    · rintro ⟨lead, behind, hline, -, hlead, hrest⟩
      exact ⟨lead, behind, hline, hlead, hrest⟩
  · intro σ _ tokens sink
    apply Machine.dispatchAll_eq

/--
The offset behind `pop` lies inside the last character of `poé`. A lone quote has no text inside.
-/
theorem byte_offsets_are_safe_inside_character :
    ¬ Text.IsBoundary "poé".toList 3 ∧
      Sliced.dropWord "pop".toList "poé".toList = some none ∧
      Text.IsAscii "pop".toList ∧ Sliced.dropWord "pop".toList "PoPé".toList = some (some ['é']) ∧
      Sliced.read [] .string ['"'] = some (.error .missingClosingQuote) := by
  obtain ⟨hslice, hdrop, hword, -, -, hread, -⟩ := byte_offsets_are_safe
  have hascii : Text.IsAscii "pop".toList := by
    simp [Text.IsAscii]
  refine ⟨?_, ?_, hascii, ?_, ?_⟩
  · intro hboundary
    have hstart : Text.IsBoundary "poé".toList 0 := Text.isBoundary_iff.2 ⟨[], _, rfl, rfl⟩
    exact absurd ((hslice _ 0 3).1.2 ⟨by decide, hstart, hboundary⟩) (by decide)
  · rw [hdrop]
    rfl
  · rw [hword _ _ _ hascii]
    refine ⟨"PoP".toList, ['é'], rfl, ?_, rfl, rfl⟩
    simp [Text.IsAscii]
  · rw [hread]
    rfl

end Stackline
