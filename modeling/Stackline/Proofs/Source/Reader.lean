import Stackline.Proofs.Source.Lex
import Stackline.Reader

/-!
What a reader hands out. Each call of `Reader.next` takes the first of the answers that are left, so
the answers of a whole reading are those of `Source.scan`, and nothing follows them.
-/

namespace Stackline

namespace Source

theorem cutLines_cons (c : Char) (t : Text) :
    cutLines (c :: t) = (cutLine (c :: t)).1 :: cutLines (cutLine (c :: t)).2 := by
  induction t generalizing c with
  | nil =>
    unfold cutLine
    split <;> rfl
  | cons d t ih =>
    have hlines : cutLines (c :: d :: t) = cutLines.extend c (cutLines (d :: t)) := rfl
    rw [hlines, ih, cutLines.extend]
    conv => rhs; unfold cutLine
    split
    · rw [ih]
    · rfl

/--
The answers that hand out scanned tokens and then the fault, if there is one.
-/
def answers (scanned : List Token × Option Fault) : List (Except Fault Token) :=
  scanned.1.map .ok ++ scanned.2.toList.map .error

theorem answers_append (tokens : List Token) (scanned : List Token × Option Fault) :
    answers (tokens ++ scanned.1, scanned.2) = tokens.map .ok ++ answers scanned := by
  simp only [answers, List.map_append, List.append_assoc]

theorem answers_inj {a b : List Token × Option Fault} (h : answers a = answers b) : a = b := by
  obtain ⟨tokens, fault?⟩ := a
  obtain ⟨tokens', fault?'⟩ := b
  induction tokens generalizing tokens' with
  | nil =>
    cases tokens' with
    | nil => cases fault? <;> cases fault?' <;> simp_all [answers]
    | cons token' tokens' => cases fault? <;> simp [answers] at h
  | cons token tokens ih =>
    cases tokens' with
    | nil => cases fault?' <;> simp [answers] at h
    | cons token' tokens' =>
      simp only [answers, List.map_cons, List.cons_append, List.cons.injEq, Except.ok.injEq] at h
      obtain ⟨rfl, h⟩ := h
      cases ih tokens' h
      rfl

end Source

namespace Reader

/--
What is left to scan, behind the tokens that are pending.
-/
def scanRest (reader : Reader) : List Token × Option Fault :=
  let lines := Source.locate (reader.number + 1) reader.offset (Source.cutLines reader.rest)
  let last := { reader with number := reader.number + lines.length }
  lines.foldr Source.scan.before ([last.endToken], none)

/--
The answers that are left.
-/
def remaining (reader : Reader) : List (Except Fault Token) :=
  reader.pending.map .ok ++ if reader.finished then [] else Source.answers reader.scanRest

theorem remaining_start (source : Text) :
    (start source).remaining = Source.answers (Source.scan source) := by
  simp only [remaining, scanRest, start, endToken, Nat.zero_add]
  rfl

theorem remaining_of_finished {reader : Reader} (h : reader.finished) :
    reader.remaining = reader.pending.map .ok := by
  rw [remaining, if_pos h, List.append_nil]

theorem remaining_of_running (reader : Reader) (h : ¬ reader.finished) :
    reader.remaining = reader.pending.map .ok ++ Source.answers reader.scanRest := by
  rw [remaining, if_neg h]

theorem scanRest_of_nil {reader : Reader} (h : reader.rest = []) :
    reader.scanRest = ([reader.endToken], none) := by
  rw [scanRest, h]
  rfl

theorem scanRest_of_cons {reader : Reader} {c : Char} {t : Text} (h : reader.rest = c :: t) :
    reader.scanRest =
      Source.scan.before ⟨reader.number + 1, reader.offset, (Source.cutLine (c :: t)).1⟩
        (scanRest { reader with
          rest := (Source.cutLine (c :: t)).2
          offset := reader.offset + (Source.cutLine (c :: t)).1.byteLength
          number := reader.number + 1 }) := by
  simp only [scanRest, h, Source.cutLines_cons, Source.locate, List.foldr_cons, List.length_cons,
    endToken, Nat.add_assoc, Nat.add_comm 1]

/--
One call takes the first of the answers that are left.
-/
theorem next_eq (reader : Reader) :
    reader.next.1 = reader.remaining.head? ∧ reader.next.2.remaining = reader.remaining.tail := by
  fun_induction next reader with
  | case1 reader token pending hpending =>
    rw [remaining, hpending]
    exact ⟨rfl, rfl⟩
  | case2 reader hpending hfinished =>
    rw [remaining_of_finished hfinished, hpending]
    exact ⟨rfl, rfl⟩
  | case3 reader hpending hfinished hrest =>
    rw [remaining_of_running reader hfinished, remaining_of_finished rfl, scanRest_of_nil hrest, hpending]
    exact ⟨rfl, rfl⟩
  | case4 reader hpending hfinished c t hrest line reader' hblank ih =>
    -- a blank line adds nothing to the answers
    have hremaining : reader.remaining = reader'.remaining := by
      rw [remaining_of_running reader hfinished, remaining_of_running reader' hfinished,
        scanRest_of_cons hrest, Source.scan.before, if_pos hblank]
    rw [hremaining]
    exact ih
  | case5 reader hpending hfinished c t hrest line reader' hblank s hparse ih =>
    have hremaining : reader.remaining =
        remaining { reader' with pending := s.tokens line.position } := by
      rw [remaining_of_running { reader' with pending := s.tokens line.position } hfinished,
        remaining_of_running reader hfinished, scanRest_of_cons hrest, Source.scan.before,
        if_neg hblank, hparse, hpending]
      exact Source.answers_append _ _
    rw [hremaining]
    exact ih
  | case6 reader hpending hfinished c t hrest line reader' hblank cause hparse =>
    rw [remaining_of_running reader hfinished, remaining_of_finished rfl, scanRest_of_cons hrest,
      Source.scan.before, if_neg hblank, hparse, hpending]
    exact ⟨rfl, rfl⟩

theorem answer_eq (reader : Reader) (index : Nat) :
    reader.answer index = reader.remaining[index]? := by
  induction index generalizing reader with
  | zero =>
    rw [answer, (next_eq reader).1, List.head?_eq_getElem?]
  | succ index ih =>
    rw [answer, ih, (next_eq reader).2, List.getElem?_tail]

/--
The reader answers with the tokens in turn, then with the fault, if there is one, and with nothing
from then on.
-/
def Yields (reader : Reader) (tokens : List Token) (fault? : Option Fault) : Prop :=
  ∀ index, reader.answer index = (Source.answers (tokens, fault?))[index]?

theorem yields_start_iff {source : Text} {tokens : List Token} {fault? : Option Fault} :
    (start source).Yields tokens fault? ↔ Source.scan source = (tokens, fault?) := by
  constructor
  · intro h
    apply Source.answers_inj
    rw [← remaining_start]
    apply List.ext_getElem?
    intro index
    rw [← answer_eq, h]
  · intro h index
    rw [answer_eq, remaining_start, h]

end Reader
end Stackline
