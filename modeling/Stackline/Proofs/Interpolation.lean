import Mathlib.Logic.ExistsUnique
import Stackline.Proofs.Result
import Stackline.Statement.Exec

/-!
String literals against a reference that does not mention the search for holes: the one way to
write a text as plain parts and holes in turn. Main statements: `parse_of_hole` and
`parse_of_not_holed`, the rules of one round of the search, `factored_parse` and `parse_source`,
which make the parsed template the only factorisation, and `fill_eq_ok`, `fill_eq_error`.
-/

namespace Stackline

variable {σ : Type} [Sink σ]

/--
The value that a variable has now, if it is in scope and has one.
-/
def Scope.value? (scope : Scope) (name : Text) : Option Value :=
  (scope.get? name).bind Variable.value?

namespace Scope

theorem read_eq_ok_iff {scope : Scope} {name : Text} {value : Value} :
    scope.read name = .ok value ↔ scope.value? name = some value := by
  unfold read value?
  split
  next h => simp [h]
  next x h =>
    split
    next hvalue => simp [h, hvalue]
    next v hvalue => simp [h, hvalue]

theorem read_of_get?_eq_none {scope : Scope} {name : Text} (h : scope.get? name = none) :
    scope.read name = .error (.unknownVariable name) := by
  simp only [read, h]

theorem read_of_value?_eq_none {scope : Scope} {name : Text} {x : Variable}
    (h : scope.get? name = some x) (hvalue : x.value? = none) :
    scope.read name = .error (.unassigned name) := by
  simp only [read, h, hvalue]

end Scope

namespace Text

/--
A hole is opened somewhere in the text.
-/
def Opens (t : Text) : Prop :=
  ['$', '{'] <:+: t

/--
A hole is opened somewhere in the text, and a closing brace stands somewhere behind.
-/
def Holed (t : Text) : Prop :=
  ∃ before name after, t = before ++ '$' :: '{' :: name ++ '}' :: after

theorem opens_cons_iff {c : Char} {t : Text} :
    Opens (c :: t) ↔ (c = '$' ∧ t.head? = some '{') ∨ Opens t := by
  rw [Opens, List.infix_cons_iff]
  cases t with
  | nil => simp [Opens]
  | cons d t => simp [Opens, eq_comm]

theorem Holed.opens {t : Text} (h : t.Holed) : t.Opens := by
  obtain ⟨before, name, after, rfl⟩ := h
  exact ⟨before, name ++ '}' :: after, by simp⟩

theorem Holed.cons {t : Text} (h : t.Holed) (c : Char) : Holed (c :: t) := by
  obtain ⟨before, name, after, rfl⟩ := h
  exact ⟨c :: before, name, after, rfl⟩

theorem Holed.tail {c : Char} {t : Text} (h : Holed (c :: t))
    (hopens : ¬ (c = '$' ∧ t.head? = some '{')) : t.Holed := by
  obtain ⟨before, name, after, h⟩ := h
  cases before with
  | nil =>
    cases h
    exact absurd ⟨rfl, rfl⟩ hopens
  | cons d before =>
    cases h
    exact ⟨before, name, after, rfl⟩

theorem Holed.mem {t : Text} (h : t.Holed) : '}' ∈ t := by
  obtain ⟨before, name, after, rfl⟩ := h
  simp

theorem holed_of_mem {t : Text} (h : '}' ∈ t) : Holed ('$' :: '{' :: t) := by
  obtain ⟨name, after, rfl⟩ := List.append_of_mem h
  exact ⟨[], name, after, rfl⟩

end Text

namespace Template

/--
The names in the holes, from left to right.
-/
def names : Template → List Text
  | .plain _ => []
  | .hole _ name rest => name :: rest.names

/--
The parts of a template could not have been cut in another way: no hole is opened before the first,
each hole ends at the first closing brace, and no hole is left in the last part.
-/
def Factored : Template → Prop
  | .plain t => ¬ t.Holed
  | .hole before name rest => ¬ before.Opens ∧ '}' ∉ name ∧ rest.Factored

/--
The text with the display of a value in the place of each hole.
-/
def filled (value : Text → Value) : Template → Text
  | .plain t => t
  | .hole before name rest => before ++ (value name).display ++ rest.filled value

theorem parse.inside_of_mem {name : Text} (h : '}' ∉ name) (before inner rest : Text) :
    parse.inside before inner (name ++ '}' :: rest) =
      .hole before.reverse (inner.reverse ++ name) (parse rest) := by
  induction name generalizing inner with
  | nil => simp [parse.inside, parse]
  | cons c name ih =>
    rw [List.mem_cons, not_or] at h
    rw [List.cons_append, parse.inside, if_neg (Ne.symm h.1), ih h.2]
    simp

theorem parse.inside_of_not_mem {t : Text} (h : '}' ∉ t) (before inner : Text) :
    parse.inside before inner t =
      .plain (before.reverse ++ '$' :: '{' :: inner.reverse ++ t) := by
  induction t generalizing inner with
  | nil => simp [parse.inside]
  | cons c t ih =>
    rw [List.mem_cons, not_or] at h
    rw [parse.inside, if_neg (Ne.symm h.1), ih h.2]
    simp

theorem parse.outside_cons {c : Char} {t : Text} (h : ¬ (c = '$' ∧ t.head? = some '{'))
    (before : Text) : parse.outside before (c :: t) = parse.outside (c :: before) t := by
  conv => lhs; unfold parse.outside
  split
  next heq => cases heq
  next heq =>
    cases heq
    exact absurd ⟨rfl, rfl⟩ h
  next heq =>
    cases heq
    rfl

theorem parse.outside_of_hole {plain name : Text} (hplain : ¬ plain.Opens) (hname : '}' ∉ name)
    (before rest : Text) :
    parse.outside before (plain ++ '$' :: '{' :: name ++ '}' :: rest) =
      .hole (before.reverse ++ plain) name (parse rest) := by
  induction plain generalizing before with
  | nil =>
    rw [List.nil_append, List.cons_append, List.cons_append, parse.outside,
      parse.inside_of_mem hname]
    simp
  | cons c plain ih =>
    rw [Text.opens_cons_iff, not_or] at hplain
    have hhead : ¬ (c = '$' ∧ (plain ++ '$' :: '{' :: name ++ '}' :: rest).head? = some '{') := by
      rintro ⟨hc, hhead⟩
      cases plain with
      | nil => simp at hhead
      | cons d plain => exact hplain.1 ⟨hc, hhead⟩
    rw [List.cons_append, List.cons_append, parse.outside_cons hhead, ih hplain.2]
    simp

theorem parse.outside_of_not_holed {t : Text} (h : ¬ t.Holed) (before : Text) :
    parse.outside before t = .plain (before.reverse ++ t) := by
  induction t generalizing before with
  | nil => simp [parse.outside]
  | cons c t ih =>
    by_cases hopens : c = '$' ∧ t.head? = some '{'
    · obtain ⟨rfl, hhead⟩ := hopens
      obtain ⟨t, rfl⟩ := List.head?_eq_some_iff.1 hhead
      have hmem : '}' ∉ t := fun hmem => h (Text.holed_of_mem hmem)
      rw [parse.outside, parse.inside_of_not_mem hmem]
      simp
    · rw [parse.outside_cons hopens, ih fun ht => h (ht.cons c)]
      simp

/--
The search stops at the first opening that has a closing brace behind it.
-/
theorem parse_of_hole {before name : Text} (hbefore : ¬ before.Opens) (hname : '}' ∉ name)
    (rest : Text) :
    parse (before ++ '$' :: '{' :: name ++ '}' :: rest) = .hole before name (parse rest) :=
  parse.outside_of_hole hbefore hname [] rest

theorem parse_of_not_holed {t : Text} (h : ¬ t.Holed) : parse t = .plain t :=
  parse.outside_of_not_holed h []

/--
A factorisation is what the search finds, so there is no other.
-/
theorem parse_source {template : Template} (h : template.Factored) :
    parse template.source = template := by
  induction template with
  | plain t => exact parse_of_not_holed h
  | hole before name rest ih =>
    obtain ⟨hbefore, hname, hrest⟩ := h
    rw [source, parse_of_hole hbefore hname, ih hrest]

theorem exists_hole_of_holed {t : Text} (h : t.Holed) :
    ∃ before name rest, t = before ++ '$' :: '{' :: name ++ '}' :: rest ∧ ¬ before.Opens ∧
      '}' ∉ name := by
  induction t with
  | nil => cases h.mem
  | cons c t ih =>
    -- An opening at the head is the first, and as the text is holed it is closed.
    by_cases hopens : c = '$' ∧ t.head? = some '{'
    · obtain ⟨rfl, hhead⟩ := hopens
      obtain ⟨t, rfl⟩ := List.head?_eq_some_iff.1 hhead
      have hmem : '}' ∈ t := by simpa using h.mem
      obtain ⟨name, rest, rfl, hname⟩ := List.eq_append_cons_of_mem hmem
      exact ⟨[], name, rest, rfl, by simp [Text.Opens], hname⟩
    · obtain ⟨before, name, rest, rfl, hbefore, hname⟩ := ih (h.tail hopens)
      refine ⟨c :: before, name, rest, rfl, ?_, hname⟩
      rw [Text.opens_cons_iff]
      rintro (⟨hc, hhead⟩ | hbefore')
      · obtain ⟨before, rfl⟩ := List.head?_eq_some_iff.1 hhead
        exact hopens ⟨hc, rfl⟩
      · exact hbefore hbefore'

theorem factored_parse (t : Text) : (parse t).Factored := by
  by_cases h : t.Holed
  · obtain ⟨before, name, rest, rfl, hbefore, hname⟩ := exists_hole_of_holed h
    rw [parse_of_hole hbefore hname]
    exact ⟨hbefore, hname, factored_parse rest⟩
  · rw [parse_of_not_holed h]
    exact h
termination_by t.length
decreasing_by
  subst_vars
  simp only [List.length_append, List.length_cons]
  omega

section Fill

variable {scope : Scope}

theorem fill_eq_ok {template : Template} {value : Text → Value}
    (h : ∀ name ∈ template.names, scope.value? name = some (value name)) :
    template.fill scope = .ok (template.filled value) := by
  induction template with
  | plain t => rfl
  | hole before name rest ih =>
    rw [names, List.forall_mem_cons] at h
    rw [fill, Scope.read_eq_ok_iff.2 h.1, ih h.2]
    rfl

theorem isSome_value?_of_fill {template : Template} {t : Text}
    (h : template.fill scope = .ok t) : ∀ name ∈ template.names, (scope.value? name).isSome := by
  induction template generalizing t with
  | plain _ => exact nofun
  | hole before name rest ih =>
    obtain ⟨value, hvalue, h⟩ := Result.bind_eq_ok_iff.1 h
    obtain ⟨after, hafter, -⟩ := Result.bind_eq_ok_iff.1 h
    rw [names, List.forall_mem_cons, Scope.read_eq_ok_iff.1 hvalue]
    exact ⟨rfl, ih hafter⟩

theorem exists_fill_iff {template : Template} :
    (∃ t, template.fill scope = .ok t) ↔
      ∀ name ∈ template.names, (scope.value? name).isSome := by
  constructor
  · rintro ⟨t, h⟩
    exact isSome_value?_of_fill h
  · intro h
    refine ⟨template.filled fun name => (scope.value? name).getD (.bool false), fill_eq_ok ?_⟩
    intro name hname
    obtain ⟨value, hvalue⟩ := Option.isSome_iff_exists.1 (h name hname)
    rw [hvalue, Option.getD_some]

/--
Filling stops at the first hole whose name has no value.
-/
theorem fill_eq_error {template : Template} {settled others : List Text} {name : Text}
    {cause : Cause} (hnames : template.names = settled ++ name :: others)
    (hsettled : ∀ n ∈ settled, (scope.value? n).isSome) (h : scope.read name = .error cause) :
    template.fill scope = .error cause := by
  induction template generalizing settled with
  | plain t => simp [names] at hnames
  | hole before first rest ih =>
    rw [names] at hnames
    cases settled with
    | nil =>
      cases hnames
      rw [fill, h]
      rfl
    | cons n settled =>
      rw [List.cons_append, List.cons.injEq] at hnames
      obtain ⟨rfl, hrest⟩ := hnames
      rw [List.forall_mem_cons] at hsettled
      obtain ⟨value, hvalue⟩ := Option.isSome_iff_exists.1 hsettled.1
      rw [fill, Scope.read_eq_ok_iff.2 hvalue, ih hrest hsettled.2]
      rfl

end Fill

end Template

namespace Literal

/--
A text between the quotes that make it a string literal.
-/
def quote (text : Text) : Text :=
  '"' :: text ++ ['"']

theorem unquote_quote (text : Text) : unquote (quote text) = .ok text := by
  simp [quote, unquote]

theorem read_quote (scope : Scope) (text : Text) :
    read scope .string (quote text) = ((Template.parse text).fill scope).map .str := by
  rw [read, unquote_quote]
  dsimp only [bind, Except.bind]
  cases (Template.parse text).fill scope <;> rfl

theorem read_of_factored (scope : Scope) {template : Template} (h : template.Factored) :
    read scope .string (quote template.source) = (template.fill scope).map .str := by
  rw [read_quote, Template.parse_source h]

theorem read_of_not_holed (scope : Scope) {text : Text} (h : ¬ text.Holed) :
    read scope .string (quote text) = .ok (.str text) := by
  rw [read_quote, Template.parse_of_not_holed h]
  rfl

theorem read_of_not_opens (scope : Scope) {text : Text} (h : ¬ text.Opens) :
    read scope .string (quote text) = .ok (.str text) := by
  apply read_of_not_holed
  intro hholed
  exact h hholed.opens

end Literal

namespace Statement

/--
The statements that read the text of a literal according to a type in a scope.
-/
inductive Reads (scope : Scope) (ty : Ty) (text : Text) : Statement → Prop where
  | push : Reads scope ty text (.push (.literal ty text))
  | pushd : Reads scope ty text (.pushd (.literal ty text))
  | move {name x} (hx : scope.get? name = some x) (hty : x.ty = ty) :
    Reads scope ty text (.move name text)

theorem exec_of_reads {s : Statement} {ty : Ty} {text : Text} {cause : Cause} {state : State σ}
    (hs : s.Reads state.scope ty text) (h : Literal.read state.scope ty text = .error cause)
    (first last : Position) : s.exec first last state = state.fail last cause := by
  cases hs with
  | push | pushd => rw [exec, h, State.pushOr]
  | move hx hty =>
    subst hty
    simp only [exec, execMove, hx, h]

end Statement

/--
There is one way to write a text as plain parts and holes in turn. A string literal has a value
exactly if all names in the holes have one, which is then the text with their displays in the place
of the holes. Otherwise the first name that has none stops it, at the position of the literal. A
text in which no hole is opened stands for itself.
-/
theorem string_literal_of_factorisation (scope : Scope) (text : Text) :
    (∃! template : Template, template.source = text ∧ template.Factored) ∧
    ∀ template : Template, template.source = text → template.Factored →
      let result := Literal.read scope .string (Literal.quote text)
      ((∃ value, result = .ok value) ↔ ∀ name ∈ template.names, (scope.value? name).isSome) ∧
      (∀ value : Text → Value, (∀ name ∈ template.names, scope.value? name = some (value name)) →
        result = .ok (.str (template.filled value))) ∧
      (∀ settled name others, template.names = settled ++ name :: others →
        (∀ n ∈ settled, (scope.value? n).isSome) →
        (scope.get? name = none → result = .error (.unknownVariable name)) ∧
        ∀ x, scope.get? name = some x → x.value? = none → result = .error (.unassigned name)) ∧
      (∀ cause, result = .error cause →
        ∀ (σ : Type) [Sink σ] (state : State σ) (s : Statement) (first last : Position),
        state.scope = scope → s.Reads scope .string (Literal.quote text) →
        s.exec first last state = state.fail last cause) ∧
      (¬ text.Opens → result = .ok (.str text)) := by
  constructor
  · refine ⟨Template.parse text, ⟨Template.source_parse text, Template.factored_parse text⟩, ?_⟩
    rintro template ⟨rfl, hfactored⟩
    exact (Template.parse_source hfactored).symm
  · rintro template rfl hfactored
    rw [Literal.read_of_factored scope hfactored]
    refine ⟨?_, ?_, ?_, ?_, ?_⟩
    · rw [← Template.exists_fill_iff]
      constructor
      · rintro ⟨value, hvalue⟩
        obtain ⟨t, ht, -⟩ := Result.map_eq_ok_iff.1 hvalue
        exact ⟨t, ht⟩
      · rintro ⟨t, ht⟩
        exact ⟨.str t, Result.map_eq_ok_iff.2 ⟨t, ht, rfl⟩⟩
    · intro value h
      rw [Template.fill_eq_ok h]
      rfl
    · intro settled name others hnames hsettled
      have herror {cause : Cause} (h : scope.read name = .error cause) :
          (template.fill scope).map Value.str = .error cause := by
        rw [Template.fill_eq_error hnames hsettled h]
        rfl
      constructor
      · intro h
        exact herror (Scope.read_of_get?_eq_none h)
      · intro x hx hvalue
        exact herror (Scope.read_of_value?_eq_none hx hvalue)
    · rintro cause hcause σ _ state s first last rfl hs
      rw [← Literal.read_of_factored _ hfactored] at hcause
      exact Statement.exec_of_reads hs hcause first last
    · intro hopens
      rw [← Literal.read_of_factored scope hfactored, Literal.read_of_not_opens scope hopens]

theorem string_literal_of_factorisation_nested :
    let inserted : Text := ['$', '{', 'c', '}']
    let scope : Scope := [(['a'], ⟨['a'], .string, ⟨1, ⟨0, 12⟩⟩, some (.str inserted)⟩)]
    let text : Text := ['$', '$', '{', 'a', '}', '}', '$', '{', 'b']
    let failing : Text := ['$', '{', 'a', '}', '$', '{', 'd', '}', '$', '{', 'e', '}']
    Literal.read scope .string (Literal.quote text) =
        .ok (.str (['$'] ++ inserted ++ ['}', '$', '{', 'b'])) ∧
      Literal.read scope .string (Literal.quote failing) = .error (.unknownVariable ['d']) := by
  intro inserted scope text failing
  constructor
  · let template : Template := .hole ['$'] ['a'] (.plain ['}', '$', '{', 'b'])
    have hfactored : template.Factored := Template.factored_parse text
    obtain ⟨-, hvalue, -⟩ :=
      (string_literal_of_factorisation scope text).2 template rfl hfactored
    exact hvalue (fun _ => .str inserted) (List.forall_mem_singleton.2 rfl)
  · let template : Template := .hole [] ['a'] (.hole [] ['d'] (.hole [] ['e'] (.plain [])))
    have hfactored : template.Factored := Template.factored_parse failing
    obtain ⟨-, -, herror, -⟩ :=
      (string_literal_of_factorisation scope failing).2 template rfl hfactored
    exact (herror [['a']] ['d'] [['e']] rfl (List.forall_mem_singleton.2 rfl)).1 rfl

end Stackline
