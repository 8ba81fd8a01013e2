import Mathlib.Data.List.Basic
import Stackline.Fault
import Stackline.Proofs.Text.Quoted

/-!
What the message on variables that are left says to someone who reads it: the line on which the
program ended and, for each variable, its line and its name. The reading does not refer to the
writer of the message, and a name can not hide the end of its own entry.
-/

namespace Stackline
namespace Text

/--
The number between two pieces of text at the front of `t`, and what stands behind them.
-/
def numberBetween? (before behind t : Text) : Option (Nat × Text) :=
  (t.dropPrefix? before).bind fun t =>
    ((t.dropWhile Char.isDigit).dropPrefix? behind).map fun rest =>
      (Integer.ofNumeral (t.takeWhile Char.isDigit), rest)

theorem dropPrefix?_append (s t : Text) : (s ++ t).dropPrefix? s = some t := by
  rw [List.dropPrefix?_eq_some_iff]
  exact ⟨s, rfl, beq_self_eq_true s⟩

theorem numberBetween?_append (before : Text) {behind : Text}
    (h : ∃ c t, behind = c :: t ∧ c.isDigit = false) (n : Nat) (rest : Text) :
    numberBetween? before behind (before ++ (Nat.toDigits 10 n ++ (behind ++ rest))) =
      some (n, rest) := by
  obtain ⟨c, t, rfl, hc⟩ := h
  have hdigits : ∀ d ∈ Nat.toDigits 10 n, d.isDigit = true := by
    intro d hd
    exact Nat.isDigit_of_mem_toDigits (by decide) (by decide) hd
  have htake : (Nat.toDigits 10 n ++ (c :: t ++ rest)).takeWhile Char.isDigit =
      Nat.toDigits 10 n := by
    simp [List.takeWhile_append_of_pos hdigits, hc]
  have hdrop : (Nat.toDigits 10 n ++ (c :: t ++ rest)).dropWhile Char.isDigit = c :: t ++ rest := by
    simp [List.dropWhile_append_of_pos hdigits, hc]
  rw [numberBetween?, dropPrefix?_append, Option.bind_some, htake, hdrop, dropPrefix?_append,
    Integer.ofNumeral_toDigits]
  rfl

end Text

namespace Listing

open Text

/--
The line and the name of an entry at the front of a text, and what stands behind the entry.
-/
def entry? (t : Text) : Option ((Nat × Text) × Text) :=
  (numberBetween? "line ".toList " -> \"".toList t).bind fun numbered =>
    (readQuoted? .plain numbered.2).map fun parts => ((numbered.1, parts.1), parts.2)

/--
A text consists of entries with a comma and a space between them.
-/
inductive Entries : Text → List (Nat × Text) → Prop where
  | last {t : Text} {entry : Nat × Text} (h : entry? t = some (entry, [])) : Entries t [entry]
  | cons {t rest : Text} {entry : Nat × Text} {entries : List (Nat × Text)}
    (h : entry? t = some (entry, ", ".toList ++ rest)) (hrest : Entries rest entries) :
    Entries t (entry :: entries)

/--
A message tells about a program that ended on `line` with the variables `entries` left.
-/
def Tells (message : Text) (line : Nat) (entries : List (Nat × Text)) : Prop :=
  ∃ t, numberBetween? "runtime error, line ".toList " -> variables not dropped: ".toList message =
    some (line, t) ∧ Entries t entries

theorem Entries.unique {t : Text} {entries others : List (Nat × Text)} (h : Entries t entries)
    (hothers : Entries t others) : entries = others := by
  induction h generalizing others with
  | last h =>
    cases hothers with
    | last hother => simp_all
    | cons hother => simp_all
  | cons h _ ih =>
    cases hothers with
    | last hother => simp_all
    | cons hother hrest =>
      rw [h] at hother
      simp only [Option.some.injEq, Prod.mk.injEq, List.append_cancel_left_eq] at hother
      obtain ⟨rfl, rfl⟩ := hother
      rw [ih hrest]

theorem Tells.unique {message : Text} {line other : Nat} {entries others : List (Nat × Text)}
    (h : Tells message line entries) (hothers : Tells message other others) :
    line = other ∧ entries = others := by
  obtain ⟨t, ht, hentries⟩ := h
  obtain ⟨t', ht', hothers⟩ := hothers
  rw [ht] at ht'
  cases ht'
  exact ⟨rfl, hentries.unique hothers⟩

end Listing

namespace Variable

/--
The words on a variable in the message of a report.
-/
def entry (x : Variable) : String :=
  "line " ++ toString x.position.line ++ " -> " ++ Cause.detail.quote x.name

/--
What those words are to tell.
-/
def told (x : Variable) : Nat × Text :=
  (x.position.line, x.name)

theorem entry?_entry (x : Variable) (rest : Text) :
    Listing.entry? (x.entry.toList ++ rest) = some (x.told, rest) := by
  have hentry : x.entry.toList ++ rest = "line ".toList ++ (Nat.toDigits 10 x.position.line ++
      (" -> \"".toList ++ (x.name.flatMap Text.escape ++ '"' :: rest))) := by
    simp [entry, Cause.detail.quote, Text.quoted]
  have harrow : ∃ c t, " -> \"".toList = c :: t ∧ c.isDigit = false := ⟨_, _, rfl, rfl⟩
  rw [hentry, Listing.entry?, Text.numberBetween?_append _ harrow, Option.bind_some,
    Text.readQuoted?_flatMap_escape]
  rfl

/--
An entry determines the line and the name.
-/
theorem told_of_entry_eq {x y : Variable} (h : x.entry = y.entry) : x.told = y.told := by
  have hx := x.entry?_entry []
  rw [h, entry?_entry] at hx
  simpa using hx.symm

theorem entries_intercalate (x : Variable) (left : List Variable) :
    Listing.Entries (", ".intercalate ((x :: left).map entry)).toList ((x :: left).map told) := by
  induction left generalizing x with
  | nil =>
    apply Listing.Entries.last
    simpa using x.entry?_entry []
  | cons y left ih =>
    apply Listing.Entries.cons _ (ih y)
    have hsplit : (", ".intercalate ((x :: y :: left).map entry)).toList = x.entry.toList ++
        (", ".toList ++ (", ".intercalate ((y :: left).map entry)).toList) := by
      simp [String.toList_intercalate, List.intercalate]
    rw [hsplit]
    exact x.entry?_entry _

end Variable
end Stackline
