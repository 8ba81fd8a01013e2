/-!
Texts of the language: their size in UTF-8, comparison up to the case of ASCII letters, and the two
cuts that reading a line makes, at the first character of a class and behind a leading word.
-/

namespace Stackline

/--
Source lines, names, literals and displayed values are lists of characters.
-/
abbrev Text := List Char

namespace Text

/--
The UTF-8 bytes of a text.
-/
def utf8 (t : Text) : List UInt8 :=
  t.flatMap String.utf8EncodeChar

/--
The number of UTF-8 bytes of a text, the unit in which spans are measured.
-/
def byteLength (t : Text) : Nat :=
  t.foldr (fun c n => c.utf8Size + n) 0

@[simp]
theorem utf8_nil : utf8 [] = [] := rfl

@[simp]
theorem utf8_append (s t : Text) : utf8 (s ++ t) = utf8 s ++ utf8 t := by
  simp [utf8]

@[simp]
theorem byteLength_nil : byteLength [] = 0 := rfl

@[simp]
theorem byteLength_cons (c : Char) (t : Text) :
    byteLength (c :: t) = c.utf8Size + byteLength t := rfl

@[simp]
theorem byteLength_append (s t : Text) : byteLength (s ++ t) = byteLength s + byteLength t := by
  induction s with
  | nil => simp
  | cons c s ih => simp [ih, Nat.add_assoc]

theorem length_utf8 (t : Text) : (utf8 t).length = byteLength t := by
  induction t with
  | nil => rfl
  | cons c t ih =>
    rw [byteLength_cons, ← ih]
    simp [utf8]

theorem byteLength_eq_zero_iff {t : Text} : byteLength t = 0 ↔ t = [] := by
  cases t with
  | nil => simp
  | cons c t =>
    have := Char.utf8Size_pos c
    simp
    omega

/--
Equality up to the case of ASCII letters.
-/
def eqFold (s t : Text) : Bool :=
  s.map Char.toLower == t.map Char.toLower

theorem eqFold_iff {s t : Text} : eqFold s t ↔ s.map Char.toLower = t.map Char.toLower := by
  simp [eqFold]

/--
Cut a text at the first character of the class `p`, which belongs to neither part.
-/
def cut? (p : Char → Bool) (t : Text) : Option (Text × Text) :=
  match t.dropWhile (!p ·) with
  | [] => none
  | _ :: after => some (t.takeWhile (!p ·), after)

theorem cut?_cons_of_pos {p : Char → Bool} {c : Char} (h : p c) (t : Text) :
    cut? p (c :: t) = some ([], t) := by
  simp [cut?, h]

theorem cut?_cons_of_neg {p : Char → Bool} {c : Char} (h : p c = false) (t : Text) :
    cut? p (c :: t) = (cut? p t).map fun parts => (c :: parts.1, parts.2) := by
  simp only [cut?, List.dropWhile_cons, List.takeWhile_cons, h]
  cases t.dropWhile (!p ·) <;> simp

theorem cut?_eq_none_iff {p : Char → Bool} {t : Text} :
    cut? p t = none ↔ ∀ c ∈ t, p c = false := by
  induction t with
  | nil => simp [cut?]
  | cons c t ih =>
    cases h : p c with
    | true => simp [cut?_cons_of_pos h, h]
    | false => simp [cut?_cons_of_neg h, ih, h]

theorem cut?_eq_some_iff {p : Char → Bool} {t before after : Text} :
    cut? p t = some (before, after) ↔
      ∃ c, t = before ++ c :: after ∧ p c = true ∧ ∀ x ∈ before, p x = false := by
  induction t generalizing before with
  | nil => simp [cut?]
  | cons d t ih =>
    cases h : p d with
    | true =>
      rw [cut?_cons_of_pos h]
      constructor
      · rintro ⟨⟩
        exact ⟨d, rfl, h, by simp⟩
      · rintro ⟨c, ht, hc, hbefore⟩
        cases before with
        | nil => simp_all
        | cons b before => simp_all
    | false =>
      rw [cut?_cons_of_neg h]
      cases before with
      | nil => simp_all
      | cons b before =>
        simp only [Option.map_eq_some_iff, Prod.mk.injEq, List.cons.injEq, Prod.exists,
          List.cons_append, List.mem_cons, forall_eq_or_imp]
        constructor
        · rintro ⟨x, y, hcut, ⟨rfl, rfl⟩, rfl⟩
          obtain ⟨c, rfl, hc, hx⟩ := ih.1 hcut
          exact ⟨c, ⟨rfl, rfl⟩, hc, h, hx⟩
        · rintro ⟨c, ⟨rfl, rfl⟩, hc, -, hbefore⟩
          exact ⟨before, after, ih.2 ⟨c, rfl, hc, hbefore⟩, ⟨rfl, rfl⟩, rfl⟩

/--
Remove a leading word, which is recognised up to the case of ASCII letters.
-/
def dropFold? : (word t : Text) → Option Text
  | [], t => some t
  | _ :: _, [] => none
  | w :: word, c :: t => if c.toLower = w.toLower then dropFold? word t else none

theorem dropFold?_eq_some_iff {word t rest : Text} :
    dropFold? word t = some rest ↔ ∃ lead, t = lead ++ rest ∧ eqFold lead word := by
  induction word generalizing t with
  | nil => simp [dropFold?, eqFold]
  | cons w word ih =>
    cases t with
    | nil =>
      simp only [dropFold?, reduceCtorEq, false_iff]
      rintro ⟨lead, h, hw⟩
      cases lead <;> simp_all [eqFold]
    | cons c t =>
      simp only [dropFold?]
      split
      next hc =>
        rw [ih]
        constructor
        · rintro ⟨lead, rfl, h⟩
          exact ⟨c :: lead, rfl, by simp_all [eqFold]⟩
        · rintro ⟨lead, h, hw⟩
          cases lead with
          | nil => simp [eqFold] at hw
          | cons d lead =>
            obtain ⟨rfl, rfl⟩ := List.cons.inj h
            exact ⟨lead, rfl, by simp_all [eqFold]⟩
      next hc =>
        simp only [reduceCtorEq, false_iff]
        rintro ⟨lead, h, hw⟩
        cases lead with
        | nil => simp [eqFold] at hw
        | cons d lead =>
          obtain ⟨rfl, rfl⟩ := List.cons.inj h
          simp_all [eqFold]

end Text
end Stackline
