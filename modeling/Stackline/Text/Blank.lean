import Stackline.Text.Basic

/-!
Blank characters, which are those with the Unicode property White_Space, and the removal of blanks
around a text.
-/

namespace Stackline
namespace Text

/--
The ranges of blank code points, both ends included, in increasing order.
-/
def blankRanges : List (Nat × Nat) :=
  [(0x9, 0xd), (0x20, 0x20), (0x85, 0x85), (0xa0, 0xa0), (0x1680, 0x1680), (0x2000, 0x200a),
   (0x2028, 0x2029), (0x202f, 0x202f), (0x205f, 0x205f), (0x3000, 0x3000)]

def isBlank (c : Char) : Bool :=
  blankRanges.any fun range => range.1 ≤ c.toNat && c.toNat ≤ range.2

theorem isBlank_space : isBlank ' ' = true := by decide

theorem isBlank_newline : isBlank '\n' = true := by decide

def trimStart (t : Text) : Text :=
  t.dropWhile isBlank

def trimEnd (t : Text) : Text :=
  (t.reverse.dropWhile isBlank).reverse

def trim (t : Text) : Text :=
  trimEnd (trimStart t)

theorem trimStart_cons_of_blank {c : Char} (h : isBlank c) (t : Text) :
    trimStart (c :: t) = trimStart t := by
  simp [trimStart, h]

theorem trimStart_cons_of_not_blank {c : Char} (h : isBlank c = false) (t : Text) :
    trimStart (c :: t) = c :: t := by
  simp [trimStart, h]

/--
The blanks that `trimStart` removes.
-/
def indent (t : Text) : Text :=
  t.takeWhile isBlank

theorem indent_append_trimStart (t : Text) : indent t ++ trimStart t = t :=
  List.takeWhile_append_dropWhile

/--
Remove a leading word, recognised up to the case of ASCII letters, and the blanks behind it.
-/
def dropWord? (word t : Text) : Option Text :=
  (dropFold? word t).map trimStart

theorem dropWord?_eq_some_iff {word t rest : Text} :
    dropWord? word t = some rest ↔
      ∃ lead behind, t = lead ++ behind ∧ eqFold lead word ∧ rest = trimStart behind := by
  simp only [dropWord?, Option.map_eq_some_iff, dropFold?_eq_some_iff]
  constructor
  · rintro ⟨behind, ⟨lead, rfl, h⟩, rfl⟩
    exact ⟨lead, behind, rfl, h, rfl⟩
  · rintro ⟨lead, behind, rfl, h, rfl⟩
    exact ⟨behind, ⟨lead, rfl, h⟩, rfl⟩

end Text
end Stackline
