import Stackline.Mnemonic
import Stackline.Proofs.Text.Trim

/-!
The instruction word of a line. A word that stands apart from what follows it is recognised in any
case, also if another instruction word begins with it.
-/

namespace Stackline

theorem Text.toLower_of_isBlank {c : Char} (h : isBlank c) : c.toLower = c := by
  unfold Char.toLower
  split
  next hupper =>
    simp only [isBlank, blankRanges, List.any_cons, List.any_nil, Bool.or_eq_true, Bool.and_eq_true,
      decide_eq_true_eq, Bool.false_eq_true, or_false] at h
    simp only [ge_iff_le, UInt32.le_iff_toNat_le] at hupper
    have hval : c.toNat = c.val.toNat := rfl
    have hA : 'A'.val.toNat = 65 := rfl
    have hZ : 'Z'.val.toNat = 90 := rfl
    omega
  next => rfl

theorem Text.not_blank_of_eqFold {lead word : Text} (h : eqFold lead word)
    (hword : ∀ c ∈ word, isBlank c.toLower = false) : ∀ c ∈ lead, isBlank c = false := by
  intro c hc
  rw [eqFold_iff] at h
  have hmem := List.mem_map_of_mem (f := Char.toLower) hc
  rw [h] at hmem
  obtain ⟨d, hd, hlower⟩ := List.mem_map.1 hmem
  cases hblank : isBlank c with
  | false => rfl
  | true =>
    rw [toLower_of_isBlank hblank] at hlower
    rw [← hblank, ← hlower]
    exact hword d hd

namespace Mnemonic

theorem of_mem_word (m : Mnemonic) :
    ∀ c ∈ m.word.toList, Text.isBlank c = false ∧ c.toLower = c := by
  have hall : m.word.toList.all (fun c => !Text.isBlank c && c.toLower == c) = true := by
    cases m with
    | arith op => cases op <;> decide
    | _ => decide
  intro c hc
  simpa using List.all_eq_true.1 hall c hc

theorem word_ne_nil (m : Mnemonic) : m.word.toList ≠ [] := by
  cases m with
  | arith op => cases op <;> decide
  | _ => decide

theorem map_toLower_word (m : Mnemonic) : m.word.toList.map Char.toLower = m.word.toList := by
  conv => rhs; rw [← List.map_id m.word.toList]
  apply List.map_congr_left
  intro c hc
  exact (m.of_mem_word c hc).2

theorem all_eq_append (m : Mnemonic) :
    all = all.takeWhile (· ≠ m) ++ m :: (all.dropWhile (· ≠ m)).tail := by
  cases m with
  | arith op => cases op <;> rfl
  | _ => rfl

/--
No word is the beginning of one that comes behind it.
-/
theorem not_prefix_of_mem_takeWhile {m m' : Mnemonic} (h : m' ∈ all.takeWhile (· ≠ m)) :
    ¬ m'.word.toList <+: m.word.toList := by
  have hall : ∀ m ∈ all, ∀ m' ∈ all.takeWhile (· ≠ m), ¬ m'.word.toList <+: m.word.toList := by
    decide
  exact hall m (mem_all m) m' h

theorem split?_of_dropWord? {m : Mnemonic} {line rest : Text}
    (h : Text.dropWord? m.word.toList line = some rest)
    (hbefore : ∀ m' ∈ all.takeWhile (· ≠ m), Text.dropWord? m'.word.toList line = none) :
    split? line = some (m, rest) := by
  rw [split?, List.findSome?_eq_some_iff]
  refine ⟨_, m, _, all_eq_append m, ?_, ?_⟩
  · rw [h]
    rfl
  · intro m' hm'
    rw [hbefore m' hm']
    rfl

theorem not_blank_of_eqFold {m : Mnemonic} {lead : Text}
    (h : Text.eqFold lead m.word.toList) : ∀ c ∈ lead, Text.isBlank c = false := by
  apply Text.not_blank_of_eqFold h
  intro c hc
  rw [(m.of_mem_word c hc).2]
  exact (m.of_mem_word c hc).1

theorem ne_nil_of_eqFold {m : Mnemonic} {lead : Text}
    (h : Text.eqFold lead m.word.toList) : lead ≠ [] := by
  rintro rfl
  rw [Text.eqFold_iff, map_toLower_word] at h
  exact m.word_ne_nil h.symm

theorem split?_of_apart {m : Mnemonic} {lead behind : Text}
    (hlead : Text.eqFold lead m.word.toList)
    (hbehind : ∀ c, behind.head? = some c → Text.isBlank c = true) :
    split? (lead ++ behind) = some (m, Text.trimStart behind) := by
  apply split?_of_dropWord?
  · rw [Text.dropWord?_eq_some_iff]
    exact ⟨lead, behind, rfl, hlead, rfl⟩
  · intro m' hm'
    rw [Option.eq_none_iff_forall_ne_some]
    intro rest hrest
    obtain ⟨lead', behind', heq, hlead', -⟩ := Text.dropWord?_eq_some_iff.1 hrest
    rw [Text.eqFold_iff, map_toLower_word] at hlead hlead'
    have hlower : m.word.toList ++ behind.map Char.toLower =
        m'.word.toList ++ behind'.map Char.toLower := by
      rw [← hlead, ← hlead', ← List.map_append, ← List.map_append, heq]
    rcases List.append_eq_append_iff.1 hlower with ⟨tail, hword, htail⟩ | ⟨tail, hword, -⟩
    · cases tail with
      | nil =>
        rw [List.append_nil] at hword
        apply not_prefix_of_mem_takeWhile hm'
        exact ⟨[], by rw [List.append_nil, hword]⟩
      | cons d tail =>
        -- the longer word would go on with the blank that ends the shorter one
        cases behind with
        | nil => cases htail
        | cons c behind =>
          have hc := hbehind c rfl
          have hd : c.toLower = d := (List.cons.inj htail).1
          rw [Text.toLower_of_isBlank hc] at hd
          have hmem : d ∈ m'.word.toList := by
            rw [hword]
            exact List.mem_append_right _ List.mem_cons_self
          have hnot := (m'.of_mem_word d hmem).1
          rw [← hd, hc] at hnot
          cases hnot
    · apply not_prefix_of_mem_takeWhile hm'
      rw [hword]
      exact List.prefix_append _ tail

end Mnemonic
end Stackline
