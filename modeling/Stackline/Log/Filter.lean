import Stackline.Log.Event
import Stackline.Log.Pattern
import Stackline.Text.Alphanumeric

/-!
The setting that turns on the log: directives divided by commas. A directive is a level, or names
the part of the program, the span or the field that it is for, as in `target[span{field}]=level`.
Directives that can not be read are complained about and left out.
-/

namespace Stackline

structure Directive where
  /-- What the names of the parts begin with that the directive is for. -/
  target? : Option Text
  /-- The span in which events have to happen. -/
  span? : Option Text
  /-- What must be told about an event. -/
  field? : Option Text
  level : LogLevel
  deriving Repr, DecidableEq

namespace Directive

/--
The first place from `start` on where a text has one of some marks.
-/
def find? (t : Text) (marks : List Char) (start : Nat) : Option (Char × Nat) := do
  let distance ← (t.drop start).findIdx? (· ∈ marks)
  return (← t[start + distance]?, start + distance)

/--
The part of a text from one place up to another.
-/
def slice (t : Text) (start stop : Nat) : Text :=
  (t.take stop).drop start

/--
The level from a place on to the end, which is the highest if nothing is there.
-/
def levelFrom? (t : Text) (start : Nat) : Option LogLevel :=
  if (t.drop start).isEmpty then some .trace else LogLevel.ofWord? (t.drop start)

/--
Whether a text is a field, either a name alone or with a value behind an equals sign.
-/
def isField (t : Text) : Bool :=
  match t.splitOn '=' with
  | _ :: value :: _ => Pattern.isValue value
  | _ => !t.isEmpty

/--
Read a directive. The marks are looked for without the blanks around the directive, and what is
between them is then taken at the same places with these blanks.
-/
def parse? (t : Text) : Option Directive :=
  match Text.trim t with
  | [] => none
  | '[' :: _ => bracket none 1
  | c :: _ =>
    if Text.isAlphanumeric c || c ∈ ['-', ':', '_'] then
      match find? (Text.trim t) ['=', '['] 0 with
      | none =>
        match LogLevel.ofWord? t with
        | some level => some ⟨none, none, none, level⟩
        | none => some ⟨some t, none, none, .trace⟩
      | some ('=', i) => do return ⟨some (slice t 0 i), none, none, ← levelFrom? t (i + 1)⟩
      | some (_, i) => bracket (some (slice t 0 i)) (i + 1)
    else
      none
where
  /-- Read on behind an opening bracket. -/
  bracket (target? : Option Text) (start : Nat) : Option Directive := do
    match ← find? (Text.trim t) [']', '{'] start with
    | (']', i) => return ⟨target?, some (slice t start i), none, ← behind (i + 1)⟩
    | (_, i) =>
      let (_, j) ← find? (Text.trim t) ['}'] (i + 1)
      let field := slice t (i + 1) j
      guard (isField field && (Text.trim t)[j + 1]? = some ']')
      let span := slice t start i
      return ⟨target?, if span.isEmpty then none else some span, some field, ← behind (j + 2)⟩
  /-- Read the level behind a closing bracket. -/
  behind (start : Nat) : Option LogLevel :=
    match (Text.trim t).drop start with
    | [] => some .trace
    | '=' :: _ => levelFrom? t (start + 1)
    | _ => none

/--
Whether a directive is for an event. Events do not happen in spans, and they are not chosen by the
value of a field.
-/
def concerns (d : Directive) (event : LogEvent) : Bool :=
  d.span?.isNone &&
    d.target?.all (fun target => target.isPrefixOf event.target.toList) &&
    d.field?.all (fun field => event.fields.any (·.toList = field))

/--
Whether `a` says more than `b` about the events that it is for.
-/
def moreSpecific (a b : Directive) : Bool :=
  rank a.target? > rank b.target? ||
    (rank a.target? = rank b.target? &&
      (rank a.field? > 0 && (rank b.field? = 0 || a.field?.getD [] > b.field?.getD [])))
where
  rank (part? : Option Text) : Nat :=
    (part?.map fun part => part.length + 1).getD 0

end Directive

structure LogFilter where
  directives : List Directive
  /-- Some directives could not be read. -/
  incomplete : Bool
  deriving Repr, DecidableEq

namespace LogFilter

/--
The filter that lets nothing pass.
-/
def silent : LogFilter :=
  ⟨[], false⟩

def ofSetting (setting : Text) : LogFilter :=
  let parts := (setting.splitOn ',').filter fun part => !part.isEmpty
  let read := parts.map Directive.parse?
  ⟨read.filterMap id, read.any Option.isNone⟩

/--
The directive that decides about an event: the most specific one, and the last of those that do not
differ in what they are for.
-/
def decisive? (filter : LogFilter) (event : LogEvent) : Option Directive :=
  (filter.directives.filter (·.concerns event)).foldl prefer none
where
  prefer : Option Directive → Directive → Option Directive
    | none, d => some d
    | some best, d => if best.moreSpecific d then some best else some d

/--
Whether an event is logged.
-/
def passes (filter : LogFilter) (event : LogEvent) : Bool :=
  match filter.decisive? event with
  | none => false
  | some d => event.level.rank ≤ d.level.rank

/--
Whether some of a list of events is logged, or the setting is complained about.
-/
def writes (filter : LogFilter) (events : List LogEvent) : Bool :=
  filter.incomplete || events.any filter.passes

end LogFilter
end Stackline
