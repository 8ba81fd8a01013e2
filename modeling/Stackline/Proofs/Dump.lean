import Stackline.Proofs.Ending
import Stackline.Proofs.Output
import Stackline.Report

/-!
What can be told from a dump of tokens. `Token.eq_of_display` says that a line of a dump gives back
the line number, the kind and the text of the payload, and `Token.displayPayload_eq_iff` which
payloads have the same text. Main statement: sources have the same dump exactly if their tokens are
alike, where a missing name is not told from the name `null`.
-/

namespace Stackline

/--
What stands before and behind the first place of a mark can be told from the text.
-/
theorem Text.inj_of_append_cons {c : Char} {s s' t t' : Text} (hs : c ∉ s) (hs' : c ∉ s')
    (h : s ++ c :: t = s' ++ c :: t') : s = s' ∧ t = t' := by
  have hcut {s t : Text} (hs : c ∉ s) : cut? (· = c) (s ++ c :: t) = some (s, t) := by
    rw [cut?_eq_some_iff]
    refine ⟨c, rfl, decide_eq_true rfl, ?_⟩
    intro b hb
    apply decide_eq_false
    rintro rfl
    exact hs hb
  have hcuts := hcut hs (t := t)
  rw [h, hcut hs', Option.some.injEq, Prod.mk.injEq] at hcuts
  exact ⟨hcuts.1.symm, hcuts.2.symm⟩

theorem Integer.toDigits_injective {m n : Nat} (h : Nat.toDigits 10 m = Nat.toDigits 10 n) :
    m = n := by
  rw [← ofNumeral_toDigits m, h, ofNumeral_toDigits]

theorem Integer.dropWhile_leftpad (length n : Nat) (t : Text) :
    (List.leftpad length ' ' (Nat.toDigits 10 n) ++ t).dropWhile (· = ' ') =
      Nat.toDigits 10 n ++ t := by
  rw [List.leftpad, List.append_assoc, List.dropWhile_append_of_pos]
  · have hspace := @not_mem_toDigits ' ' rfl n
    cases hdigits : Nat.toDigits 10 n with
    | nil => exact absurd hdigits Nat.toDigits_ne_nil
    | cons d digits =>
      rw [hdigits, List.mem_cons, not_or] at hspace
      rw [List.cons_append, List.dropWhile_cons_of_neg]
      simpa [eq_comm] using hspace.1
  · intro c hc
    exact decide_eq_true (List.eq_of_mem_replicate hc)

theorem Ty.toList_name_inj {ty ty' : Ty} : ty.name.toList = ty'.name.toList ↔ ty = ty' := by
  constructor
  · intro h
    have heq := ty.ofWord?_name
    rw [h, ty'.ofWord?_name] at heq
    exact (Option.some.inj heq).symm
  · rintro rfl
    rfl

namespace Kind

theorem name_injective {kind kind' : Kind} (h : kind.name.toList = kind'.name.toList) :
    kind = kind' := by
  have heq := kind.ofName?_name
  rw [String.toList_inj.1 h, kind'.ofName?_name] at heq
  exact (Option.some.inj heq).symm

theorem all_isUpper_name (kind : Kind) : kind.name.toList.all Char.isUpper := by
  cases kind with
  | instruction m =>
    cases m with
    | arith op => cases op <;> rfl
    | _ => rfl
  | _ => rfl

theorem not_mem_name {c : Char} (hc : c.isUpper = false) (kind : Kind) :
    c ∉ kind.name.toList := by
  intro h
  have hupper := List.all_eq_true.1 kind.all_isUpper_name c h
  rw [hc] at hupper
  cases hupper

/--
What the tokens of a kind carry if they stem from a source.
-/
inductive Carries : Kind → Option Payload → Prop where
  | bare {m : Mnemonic} : Carries (.instruction m) none
  | sentinel : Carries (.instruction .print) (some (.sentinel .ident))
  | type {ty : Ty} : Carries .type (some (.type ty))
  | value {t : Text} (ht : '\n' ∉ t) : Carries .value (some (.text t))
  | unnamed : Carries .ident none
  | ident {name : Text} (hname : '\n' ∉ name) : Carries .ident (some (.text name))
  | eof : Carries .eof none

end Kind

namespace Token

/--
No name, or one that reads as if there were none.
-/
def IsNull (payload : Option Payload) : Prop :=
  payload = none ∨ payload = some (.text "null".toList)

/--
Tokens that agree in all but the place on their line, up to names that are null.
-/
structure Alike (a b : Token) : Prop where
  kind : a.kind = b.kind
  line : a.position.line = b.position.line
  payload : a.payload = b.payload ∨ a.kind = .ident ∧ IsNull a.payload ∧ IsNull b.payload

theorem dropWhile_display (token : Token) :
    token.display.dropWhile (· = ' ') =
      Nat.toDigits 10 token.position.line ++
        ' ' :: (token.kind.name.toList ++ ' ' :: displayPayload token.payload) := by
  rw [display, List.append_assoc, Integer.dropWhile_leftpad]
  rfl

theorem eq_of_display {a b : Token} (h : a.display = b.display) :
    a.position.line = b.position.line ∧ a.kind = b.kind ∧
      displayPayload a.payload = displayPayload b.payload := by
  have hdigits := @Integer.not_mem_toDigits ' ' rfl
  have hname := @Kind.not_mem_name ' ' rfl
  have heq := congrArg (List.dropWhile (· = ' ')) h
  rw [dropWhile_display, dropWhile_display] at heq
  -- neither a number nor the name of a kind has a space in it, but a payload may have
  obtain ⟨hline, hrest⟩ := Text.inj_of_append_cons (hdigits _) (hdigits _) heq
  obtain ⟨hkind, hpayload⟩ := Text.inj_of_append_cons (hname _) (hname _) hrest
  exact ⟨Integer.toDigits_injective hline, Kind.name_injective hkind, hpayload⟩

theorem displayPayload_eq_iff {kind : Kind} {p q : Option Payload} (hp : kind.Carries p)
    (hq : kind.Carries q) :
    displayPayload p = displayPayload q ↔ p = q ∨ kind = .ident ∧ IsNull p ∧ IsNull q := by
  cases hp with
  | bare =>
    cases hq with
    | bare => simp
    | sentinel => simp [displayPayload]
  | sentinel =>
    cases hq with
    | bare => simp [displayPayload]
    | sentinel => simp
  | type =>
    cases hq with
    | type => simp [displayPayload, Ty.toList_name_inj]
  | value ht =>
    cases hq with
    | value ht' => simp [displayPayload]
  | unnamed =>
    cases hq with
    | unnamed => simp
    | ident hname => simp [displayPayload, IsNull, eq_comm]
  | ident hname =>
    cases hq with
    | unnamed => simp [displayPayload, IsNull]
    | ident hname' =>
      simp only [displayPayload, IsNull, Option.some.injEq, Payload.text.injEq, reduceCtorEq,
        false_or, true_and]
      constructor
      · exact .inl
      · rintro (rfl | ⟨rfl, rfl⟩) <;> rfl
  | eof =>
    cases hq with
    | eof => simp

theorem display_eq_iff {a b : Token} (ha : a.kind.Carries a.payload)
    (hb : b.kind.Carries b.payload) : a.display = b.display ↔ a.Alike b := by
  constructor
  · intro h
    obtain ⟨hline, hkind, hpayload⟩ := eq_of_display h
    rw [← hkind] at hb
    exact ⟨hkind, hline, (displayPayload_eq_iff ha hb).1 hpayload⟩
  · intro h
    rw [← h.kind] at hb
    rw [display, display, h.kind, h.line, (displayPayload_eq_iff ha hb).2 h.payload]

theorem newline_not_mem_displayPayload {kind : Kind} {payload : Option Payload}
    (h : kind.Carries payload) : '\n' ∉ displayPayload payload := by
  cases h with
  | value ht => exact ht
  | ident hname => exact hname
  | @type ty => cases ty <;> decide
  | bare | sentinel | unnamed | eof => decide

theorem newline_not_mem_display {token : Token} (h : token.kind.Carries token.payload) :
    '\n' ∉ token.display := by
  have hkind := @Kind.not_mem_name '\n' rfl token.kind
  simp [display, Integer.newline_not_mem_toDigits, hkind, newline_not_mem_displayPayload h]

theorem dump_cons (token : Token) (tokens : List Token) :
    dump (token :: tokens) = token.display ++ '\n' :: dump tokens := by
  rw [dump, List.flatMap_cons, List.append_assoc]
  rfl

theorem dump_eq_iff {tokens tokens' : List Token}
    (h : ∀ token ∈ tokens, token.kind.Carries token.payload)
    (h' : ∀ token ∈ tokens', token.kind.Carries token.payload) :
    dump tokens = dump tokens' ↔ List.Forall₂ Alike tokens tokens' := by
  induction tokens generalizing tokens' with
  | nil =>
    cases tokens' with
    | nil => simp
    | cons b tokens' => simp [dump]
  | cons a tokens ih =>
    cases tokens' with
    | nil => simp [dump]
    | cons b tokens' =>
      rw [List.forall_mem_cons] at h h'
      rw [List.forall₂_cons, ← display_eq_iff h.1 h'.1, ← ih h.2 h'.2, dump_cons, dump_cons]
      constructor
      · -- the first newline ends the display of the first token
        apply Text.inj_of_append_cons
        · exact newline_not_mem_display h.1
        · exact newline_not_mem_display h'.1
      · rintro ⟨hdisplay, hdump⟩
        rw [hdisplay, hdump]

end Token

namespace Group

theorem carries_name {m : Mnemonic} {name? : Option Text}
    (h : ∀ name, name? = some name → name.IsPhrase) :
    ∀ shape ∈ ([(.instruction m, none), (.ident, name?.map .text)] : Group),
      shape.1.Carries shape.2 := by
  rw [List.forall_mem_cons, List.forall_mem_singleton]
  refine ⟨.bare, ?_⟩
  cases name? with
  | none => exact .unnamed
  | some name => exact .ident (h name rfl).newline

theorem WellFormed.carries {g : Group} (h : g.WellFormed) :
    ∀ shape ∈ g, shape.1.Carries shape.2 := by
  cases h with
  | name hm hname => exact carries_name fun name h => (hname name h).isPhrase
  | pop hname => exact carries_name fun name h => (hname name h).1
  | drop hname => exact carries_name hname
  | literal hm htext =>
    rw [List.forall_mem_cons, List.forall_mem_cons, List.forall_mem_singleton]
    exact ⟨.bare, .type, .value htext.newline⟩
  | var hname =>
    rw [List.forall_mem_cons, List.forall_mem_cons, List.forall_mem_singleton]
    exact ⟨.bare, .type, .ident hname.newline⟩
  | move hname hdigits htext =>
    rw [List.forall_mem_cons, List.forall_mem_cons, List.forall_mem_singleton]
    exact ⟨.bare, .ident hname.isPhrase.newline, .value htext.newline⟩
  | printVariable hname =>
    rw [List.forall_mem_cons, List.forall_mem_singleton]
    exact ⟨.sentinel, .ident hname.newline⟩
  | discard =>
    rw [List.forall_mem_cons, List.forall_mem_singleton]
    exact ⟨.bare, .bare⟩
  | arith | print =>
    rw [List.forall_mem_singleton]
    exact .bare

end Group

theorem Source.carries_of_lex {source : Text} {tokens : List Token}
    (h : lex source = .ok tokens) :
    ∀ token ∈ tokens, token.kind.Carries token.payload := by
  obtain ⟨hwf, rfl⟩ := lex_eq_ok_iff.1 h
  rw [tokens_block hwf]
  intro token htoken
  rw [List.mem_append, List.mem_flatMap, List.mem_singleton] at htoken
  rcases htoken with ⟨line, hline, htoken⟩ | rfl
  · obtain ⟨s, hs⟩ := hwf line hline
    rw [Line.tokens_of_parse hs] at htoken
    obtain ⟨shape, hshape, rfl⟩ := List.mem_map.1 htoken
    exact (Group.wellFormed_of_parse (Line.isPhrase_trimmed hline) hs).carries shape hshape
  · exact .eof

theorem output_dumpSource {source : Text} {tokens : List Token}
    (h : Source.lex source = .ok tokens) (logs : List LogEvent → Bool) :
    (dumpSource source logs).output = Text.utf8 (Token.dump tokens) := by
  rw [dumpSource, h]
  rfl

/--
The dump of a source that can be read has one line for each of its tokens, and otherwise there is
none. Two sources have the same dump exactly if their tokens agree one by one in kind, line and
payload, where it is not told whether a name is missing or is `null`.
-/
theorem dump_faithful (logs : List LogEvent → Bool) :
    (∀ source tokens, Source.lex source = .ok tokens →
      (dumpSource source logs).output.count '\n'.toUInt8 = tokens.length) ∧
    (∀ source fault, Source.lex source = .error fault → (dumpSource source logs).output = []) ∧
    ∀ source source' tokens tokens', Source.lex source = .ok tokens →
      Source.lex source' = .ok tokens' →
      ((dumpSource source logs).output = (dumpSource source' logs).output ↔
        List.Forall₂ Token.Alike tokens tokens') := by
  refine ⟨?_, ?_, ?_⟩
  · intro source tokens h
    rw [output_dumpSource h]
    apply Text.count_newline_flatMap
    intro token htoken
    exact Token.newline_not_mem_display (Source.carries_of_lex h token htoken)
  · intro source fault h
    rw [dumpSource, h]
    rfl
  · intro source source' tokens tokens' h h'
    rw [output_dumpSource h, output_dumpSource h', ← Token.dump_eq_iff (Source.carries_of_lex h)
      (Source.carries_of_lex h')]
    constructor
    · exact Text.utf8_injective
    · exact congrArg Text.utf8

theorem dump_faithful_null :
    let first : Position := ⟨1, ⟨0, 4⟩⟩
    let second : Position := ⟨1, ⟨2, 10⟩⟩
    let tokens : List Token :=
      [⟨.instruction .push, first, none⟩, ⟨.ident, first, none⟩, ⟨.eof, ⟨1, ⟨5, 0⟩⟩, none⟩]
    let tokens' : List Token :=
      [⟨.instruction .push, second, none⟩, ⟨.ident, second, some (.text "null".toList)⟩,
        ⟨.eof, ⟨1, ⟨12, 0⟩⟩, none⟩]
    let logs (events : List LogEvent) : Bool := !events.isEmpty
    Source.lex "push\n".toList = .ok tokens ∧ Source.lex "  PUSH  null".toList = .ok tokens' ∧
      (dumpSource "push\n".toList logs).output =
        (dumpSource "  PUSH  null".toList logs).output ∧
      (dumpSource "push\n".toList logs).output.count '\n'.toUInt8 = 3 := by
  intro first second tokens tokens' logs
  have h : Source.lex "push\n".toList = .ok tokens := rfl
  have h' : Source.lex "  PUSH  null".toList = .ok tokens' := rfl
  obtain ⟨hcount, -, hequal⟩ := dump_faithful logs
  refine ⟨h, h', (hequal _ _ _ _ h h').2 ?_, hcount _ _ h⟩
  refine .cons ⟨rfl, rfl, .inl rfl⟩ (.cons ⟨rfl, rfl, .inr ⟨rfl, .inl rfl, .inr rfl⟩⟩ ?_)
  exact .cons ⟨rfl, rfl, .inl rfl⟩ .nil

end Stackline
