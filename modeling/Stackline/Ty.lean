import Stackline.Text.Basic

/-!
The types that a literal or a variable can have.
-/

namespace Stackline

inductive Ty where
  | int
  | uint
  | float
  | ufloat
  | bool
  | string
  deriving Repr, DecidableEq

namespace Ty

def all : List Ty :=
  [.int, .uint, .float, .ufloat, .bool, .string]

/--
The word that stands for a type in a program.
-/
def word : Ty → String
  | .int => "int"
  | .uint => "uint"
  | .float => "float"
  | .ufloat => "ufloat"
  | .bool => "bool"
  | .string => "string"

/--
The name of a type where it is displayed.
-/
def name : Ty → String
  | .int => "INT"
  | .uint => "UINT"
  | .float => "FLOAT"
  | .ufloat => "UFLOAT"
  | .bool => "BOOL"
  | .string => "STRING"

/--
The type that a word stands for, in any case.
-/
def ofWord? (word : Text) : Option Ty :=
  all.find? fun ty => Text.eqFold word ty.word.toList

theorem mem_all (ty : Ty) : ty ∈ all := by
  cases ty <;> decide

theorem eqFold_name_word (ty : Ty) : Text.eqFold ty.name.toList ty.word.toList := by
  cases ty <;> decide

theorem ofWord?_eq_some_iff {word : Text} {ty : Ty} :
    ofWord? word = some ty ↔ Text.eqFold word ty.word.toList := by
  constructor
  · intro h
    exact List.find?_some (p := fun ty : Ty => Text.eqFold word ty.word.toList) h
  · intro h
    rw [Text.eqFold_iff] at h
    simp only [ofWord?, Text.eqFold, h]
    cases ty <;> decide

theorem ofWord?_name (ty : Ty) : ofWord? ty.name.toList = some ty :=
  ofWord?_eq_some_iff.2 ty.eqFold_name_word

end Ty
end Stackline
