import Stackline.Token

/-!
The variables of a running program. A scope holds at most one variable under each name; main
statements: what `get?` finds after a variable was inserted or erased.
-/

namespace Stackline

/--
A variable has no value from its declaration to the first assignment.
-/
structure Variable where
  name : Text
  ty : Ty
  /-- Where it was declared, or last received a value off the stack. -/
  position : Position
  value? : Option Value
  deriving Repr, DecidableEq

/--
Variables under names. It is up to those who insert a variable that it has the name it is found
under.
-/
abbrev Scope := List (Text × Variable)

namespace Scope

def held (scope : Scope) : List Variable :=
  scope.map Prod.snd

def get? (scope : Scope) (name : Text) : Option Variable :=
  scope.lookup name

def erase (scope : Scope) (name : Text) : Scope :=
  scope.filter fun entry => entry.1 ≠ name

/--
Put a variable in the place of the one under the same name, if there is one.
-/
def insert (scope : Scope) (name : Text) (x : Variable) : Scope :=
  (name, x) :: erase scope name

@[simp]
theorem get?_nil (name : Text) : get? [] name = none := rfl

theorem get?_cons (entry : Text × Variable) (scope : Scope) (name : Text) :
    get? (entry :: scope) name = if entry.1 = name then some entry.2 else get? scope name := by
  rw [get?, List.lookup_cons]
  split
  next h => rw [if_pos (beq_iff_eq.1 h).symm]
  next h => rw [if_neg (Ne.symm (beq_eq_false_iff_ne.1 h)), get?]

theorem mem_of_get? {scope : Scope} {name : Text} {x : Variable} (h : scope.get? name = some x) :
    (name, x) ∈ scope := by
  obtain ⟨before, behind, rfl, -⟩ := List.lookup_eq_some_iff.1 h
  simp

@[simp]
theorem get?_erase_self (scope : Scope) (name : Text) : get? (erase scope name) name = none := by
  rw [get?, List.lookup_eq_none_iff]
  intro entry hentry
  have hne : entry.1 ≠ name := by simpa [erase] using (List.mem_filter.1 hentry).2
  simp [Ne.symm hne]

theorem get?_erase_of_ne {name other : Text} (h : other ≠ name) (scope : Scope) :
    get? (erase scope name) other = get? scope other := by
  induction scope with
  | nil => rfl
  | cons entry scope ih =>
    simp only [erase, List.filter_cons] at ih ⊢
    by_cases hx : entry.1 = other <;> by_cases hn : entry.1 = name <;> simp_all [get?_cons]

@[simp]
theorem get?_insert_self (scope : Scope) (name : Text) (x : Variable) :
    get? (insert scope name x) name = some x := by
  simp [insert, get?_cons]

theorem get?_insert_of_ne {name other : Text} (h : other ≠ name) (scope : Scope) (x : Variable) :
    get? (insert scope name x) other = get? scope other := by
  rw [← get?_erase_of_ne h scope]
  simp [insert, get?_cons, Ne.symm h]

/--
The variables in the order of the UTF-8 bytes of their names.
-/
def byName (scope : Scope) : List Variable :=
  scope.held.mergeSort fun x y => Text.utf8 x.name ≤ Text.utf8 y.name

/--
The variables in the order of their lines, and of the UTF-8 bytes of their names on one line.
-/
def byLine (scope : Scope) : List Variable :=
  scope.held.mergeSort fun x y =>
    x.position.line < y.position.line ||
      (x.position.line = y.position.line && Text.utf8 x.name ≤ Text.utf8 y.name)

end Scope
end Stackline
