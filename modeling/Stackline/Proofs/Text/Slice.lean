import Mathlib
import Stackline.Proofs.Ending

/-!
Texts by the offsets of their bytes. A slice is taken only between two offsets at which characters
begin or the text ends. Main statements: when there is a slice, in terms of the valid positions of a
string, and that a slice has the bytes between its offsets.
-/

namespace Stackline
namespace Text

/--
Cut a text behind its first `n` bytes, unless it is shorter or a character extends over the cut.
-/
def cutAt? : (n : Nat) → Text → Option (Text × Text)
  | 0, t => some ([], t)
  | _ + 1, [] => none
  | n + 1, c :: t =>
    if c.utf8Size ≤ n + 1 then
      (cutAt? (n + 1 - c.utf8Size) t).map fun parts => (c :: parts.1, parts.2)
    else
      none

def slice? (t : Text) (start stop : Nat) : Option Text := do
  let (before, _) ← t.cutAt? stop
  let (_, s) ← before.cutAt? start
  return s

/--
The offset of the first occurrence of a pattern.
-/
def find? (t pattern : Text) : Option Nat :=
  match t with
  | [] => if pattern = [] then some 0 else none
  | c :: t => if pattern <+: c :: t then some 0 else (find? t pattern).map (c.utf8Size + ·)

theorem cutAt?_zero (t : Text) : t.cutAt? 0 = some ([], t) := by
  cases t <;> rfl

theorem cutAt?_append (s t : Text) : (s ++ t).cutAt? s.byteLength = some (s, t) := by
  induction s with
  | nil => apply cutAt?_zero
  | cons c s ih =>
    have hpos := Char.utf8Size_pos c
    obtain ⟨n, hn⟩ : ∃ n, byteLength (c :: s) = n + 1 :=
      Nat.exists_eq_succ_of_ne_zero (by rw [byteLength_cons]; omega)
    have hrest : n + 1 - c.utf8Size = byteLength s := by
      rw [byteLength_cons] at hn
      omega
    rw [hn, List.cons_append, cutAt?, if_pos (by rw [← hn, byteLength_cons]; omega), hrest, ih]
    rfl

theorem eq_append_of_cutAt? {n : Nat} {t before after : Text}
    (h : t.cutAt? n = some (before, after)) : t = before ++ after ∧ before.byteLength = n := by
  fun_induction cutAt? n t generalizing before with
  | case1 t =>
    cases h
    exact ⟨rfl, rfl⟩
  | case2 n => cases h
  | case3 n c t hle ih =>
    obtain ⟨⟨before, after⟩, hcut, heq⟩ := Option.map_eq_some_iff.1 h
    cases heq
    obtain ⟨rfl, hlength⟩ := ih hcut
    refine ⟨rfl, ?_⟩
    rw [byteLength_cons, hlength]
    omega
  | case4 n c t hlt => cases h

theorem cutAt?_eq_some_iff {n : Nat} {t before after : Text} :
    t.cutAt? n = some (before, after) ↔ t = before ++ after ∧ before.byteLength = n := by
  constructor
  · exact eq_append_of_cutAt?
  · rintro ⟨rfl, rfl⟩
    apply cutAt?_append

theorem slice?_eq_some_iff {t s : Text} {start stop : Nat} :
    t.slice? start stop = some s ↔
      ∃ before after, t = before ++ s ++ after ∧ before.byteLength = start ∧
        (before ++ s).byteLength = stop := by
  unfold slice?
  simp only [Option.bind_eq_bind, Option.bind_eq_some_iff, Option.pure_def, Option.some.injEq,
    Prod.exists, cutAt?_eq_some_iff]
  constructor
  · rintro ⟨_, after, ⟨rfl, hstop⟩, before, s, ⟨rfl, hstart⟩, rfl⟩
    exact ⟨before, after, rfl, hstart, hstop⟩
  · rintro ⟨before, after, rfl, hstart, hstop⟩
    exact ⟨before ++ s, after, ⟨rfl, hstop⟩, before, s, ⟨rfl, hstart⟩, rfl⟩

/--
Whether an offset is that of the beginning of a character or of the end of the text.
-/
def IsBoundary (t : Text) (n : Nat) : Prop :=
  String.Pos.Raw.IsValid (String.ofList t) ⟨n⟩

theorem utf8ByteSize_ofList (t : Text) : (String.ofList t).utf8ByteSize = t.byteLength := by
  induction t with
  | nil => rfl
  | cons c t ih =>
    rw [String.ofList_cons, String.utf8ByteSize_append, String.utf8ByteSize_singleton, ih,
      byteLength_cons]

theorem isBoundary_iff {t : Text} {n : Nat} :
    t.IsBoundary n ↔ ∃ before after, t = before ++ after ∧ before.byteLength = n := by
  rw [IsBoundary, String.Pos.Raw.isValid_ofList]
  constructor
  · rintro ⟨i, hi⟩
    refine ⟨t.take i, t.drop i, (List.take_append_drop i t).symm, ?_⟩
    rw [← utf8ByteSize_ofList, ← hi]
  · rintro ⟨before, after, rfl, rfl⟩
    refine ⟨before.length, ?_⟩
    rw [List.take_left, utf8ByteSize_ofList]

theorem isSome_slice?_iff {t : Text} {start stop : Nat} :
    (t.slice? start stop).isSome ↔ start ≤ stop ∧ t.IsBoundary start ∧ t.IsBoundary stop := by
  simp only [Option.isSome_iff_exists, slice?_eq_some_iff, isBoundary_iff]
  constructor
  · rintro ⟨s, before, after, rfl, rfl, rfl⟩
    refine ⟨?_, ⟨before, s ++ after, List.append_assoc .., rfl⟩, before ++ s, after, rfl, rfl⟩
    rw [byteLength_append]
    omega
  · rintro ⟨hle, ⟨before, behind, rfl, rfl⟩, upto, after, heq, rfl⟩
    rcases List.append_eq_append_iff.1 heq with ⟨s, rfl, rfl⟩ | ⟨s, rfl, rfl⟩
    · exact ⟨s, before, after, (List.append_assoc ..).symm, rfl, rfl⟩
    · -- The offsets are those of one place.
      have hs : s = [] := by
        rw [byteLength_append] at hle
        apply byteLength_eq_zero_iff.1
        omega
      subst hs
      exact ⟨[], upto, behind, by simp, by simp, by simp⟩

theorem utf8_of_slice? {t s : Text} {start stop : Nat} (h : t.slice? start stop = some s) :
    s.utf8 = (t.utf8.drop start).take (stop - start) := by
  obtain ⟨before, after, rfl, rfl, rfl⟩ := slice?_eq_some_iff.1 h
  rw [utf8_append, utf8_append, ← length_utf8, ← length_utf8]
  simp

theorem slice?_byteLength (before s : Text) :
    (before ++ s).slice? before.byteLength (before ++ s).byteLength = some s :=
  slice?_eq_some_iff.2 ⟨before, [], by simp, rfl, rfl⟩

theorem slice?_zero (s after : Text) : (s ++ after).slice? 0 s.byteLength = some s :=
  slice?_eq_some_iff.2 ⟨[], after, rfl, rfl, rfl⟩

theorem find?_eq_none {pattern t : Text} (h : t.find? pattern = none) : ¬ pattern <:+: t := by
  induction t with
  | nil =>
    unfold find? at h
    split at h
    next => cases h
    next hpattern => rwa [List.infix_nil]
  | cons c t ih =>
    unfold find? at h
    split at h
    next => cases h
    next hbegins =>
      rw [List.infix_cons_iff, not_or]
      exact ⟨hbegins, ih (Option.map_eq_none_iff.1 h)⟩

theorem exists_of_find? {pattern t : Text} {n : Nat} (hpattern : pattern ≠ [])
    (h : t.find? pattern = some n) :
    ∃ before after, t = before ++ pattern ++ after ∧ before.byteLength = n ∧
      ¬ pattern <:+: before := by
  induction t generalizing n with
  | nil =>
    unfold find? at h
    rw [if_neg hpattern] at h
    cases h
  | cons c t ih =>
    unfold find? at h
    split at h
    next hbegins =>
      obtain ⟨after, hafter⟩ := hbegins
      cases h
      exact ⟨[], after, hafter.symm, rfl, by simpa using hpattern⟩
    next hbegins =>
      obtain ⟨m, hm, rfl⟩ := Option.map_eq_some_iff.1 h
      obtain ⟨before, after, rfl, rfl, hbefore⟩ := ih hm
      refine ⟨c :: before, after, rfl, rfl, ?_⟩
      rw [List.infix_cons_iff, not_or]
      refine ⟨?_, hbefore⟩
      rintro ⟨rest, hrest⟩
      apply hbegins
      exact ⟨rest ++ (pattern ++ after), by rw [← List.append_assoc, hrest]; simp⟩

/--
The slices before a pattern that is found, with it and behind it.
-/
theorem slices_of_find? {pattern t : Text} {n : Nat} (hpattern : pattern ≠ [])
    (h : t.find? pattern = some n) :
    ∃ before after, t = before ++ pattern ++ after ∧ ¬ pattern <:+: before ∧
      t.slice? 0 n = some before ∧ t.slice? 0 (n + pattern.byteLength) = some (before ++ pattern) ∧
      t.slice? (n + pattern.byteLength) t.byteLength = some after := by
  obtain ⟨before, after, rfl, rfl, hbefore⟩ := exists_of_find? hpattern h
  refine ⟨before, after, rfl, hbefore, ?_, ?_, ?_⟩
  · rw [List.append_assoc]
    apply slice?_zero
  · rw [← byteLength_append]
    apply slice?_zero
  · rw [← byteLength_append]
    apply slice?_byteLength

/-!
The comparison up to case, byte by byte.
-/

def lowerByte (b : UInt8) : UInt8 :=
  if 65 ≤ b ∧ b ≤ 90 then b + 32 else b

def eqFoldBytes (s t : Text) : Bool :=
  s.utf8.map lowerByte == t.utf8.map lowerByte

theorem le_of_mem_utf8EncodeChar {c : Char} (hc : 128 ≤ c.toNat) :
    ∀ b ∈ String.utf8EncodeChar c, 128 ≤ b.toNat := by
  have hc : 128 ≤ c.val.toNat := hc
  intro b hb
  simp only [String.utf8EncodeChar] at hb
  split_ifs at hb
  · omega
  all_goals
    simp only [List.mem_cons, List.not_mem_nil, or_false] at hb
    rcases hb with rfl | rfl | rfl | rfl <;> simp <;> omega

theorem toLower_of_le {c : Char} (hc : 128 ≤ c.toNat) : c.toLower = c := by
  have hc : 128 ≤ c.val.toNat := hc
  apply Char.toLower_eq_of_not_isUpper
  intro hupper
  simp only [Char.isUpper, decide_eq_true_eq, UInt32.le_iff_toNat_le, Char.reduceVal,
    UInt32.reduceToNat] at hupper
  omega

theorem map_lowerByte_utf8EncodeChar (c : Char) :
    (String.utf8EncodeChar c).map lowerByte = String.utf8EncodeChar c.toLower := by
  by_cases hc : c.toNat < 128
  · have hascii : ∀ n < 128, (String.utf8EncodeChar (Char.ofNat n)).map lowerByte =
        String.utf8EncodeChar (Char.ofNat n).toLower := by
      decide
    have hmap := hascii c.toNat hc
    rwa [Char.ofNat_toNat] at hmap
  · -- Neither the character nor one of its bytes is a letter.
    have hbytes : ∀ b ∈ String.utf8EncodeChar c, lowerByte b = id b := by
      intro b hb
      have hle := le_of_mem_utf8EncodeChar (Nat.not_lt.1 hc) b hb
      apply if_neg
      rw [UInt8.le_iff_toNat_le, UInt8.le_iff_toNat_le]
      simp only [UInt8.reduceToNat]
      omega
    rw [toLower_of_le (Nat.not_lt.1 hc), List.map_congr_left hbytes, List.map_id]

theorem map_lowerByte_utf8 (t : Text) : t.utf8.map lowerByte = utf8 (t.map Char.toLower) := by
  simp only [utf8, List.map_flatMap, List.flatMap_map, map_lowerByte_utf8EncodeChar]

theorem eqFoldBytes_eq_eqFold (s t : Text) : eqFoldBytes s t = eqFold s t := by
  rw [Bool.eq_iff_iff, eqFold_iff, eqFoldBytes, beq_iff_eq, map_lowerByte_utf8, map_lowerByte_utf8]
  constructor
  · exact utf8_injective
  · intro h
    rw [h]

end Text
end Stackline
