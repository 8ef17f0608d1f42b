import CallWatch.Log.Directive

/-! Log filters.
A filter is a list of directives between commas. Each names the start of the targets that it
is about and the gravity from which on their events are shown; the directive that names most
of an event decides.
-/

namespace CallWatch.Log

/-- A filter: its directives in their order. -/
abbrev Filter := List Directive

namespace Filter

def atLeast (level : Level) : Filter :=
  [{ threshold := some level }]

/-- Reads a filter; empty pieces are passed over, and a filter without directives shows
nothing.
-/
def ofText (s : String) : Except DirectiveFlaw Filter :=
  ((Text.pieces ',' s.toList).filter fun piece => !piece.isEmpty).mapM Directive.ofText

/-- The filter of a setting: an unset or unreadable one shows events from information on. A
setting of which a part would split a character has none.
-/
def ofSetting? (s : Option String) : Option Filter :=
  match s.map ofText with
  | some (.ok f) => some f
  | some (.error .splitsCharacter) => none
  | some (.error .unreadable) => some (atLeast .info)
  | none => some (atLeast .info)

/-- A directive is about an event that stands in no span. -/
def concerns (e : Event) (d : Directive) : Bool :=
  let fits :=
    match d.field with
    | some demand =>
      !demand.valued && (demand.name = "message" || (e.fields.lookup demand.name).isSome)
    | none => true
  let starts :=
    match d.target with
    | some target => target.toList.isPrefixOf e.target.toList
    | none => true
  d.span.isNone && fits && starts

/-- How much of a target a directive names. -/
def reach (d : Directive) : Nat :=
  match d.target with
  | some target => target.utf8ByteSize + 1
  | none => 0

/-- A directive names less of an event than another one: less of its target or, with as much
of it, no field or a field whose name comes first in the order of texts.
-/
def yields (d other : Directive) : Bool :=
  reach d < reach other ||
    reach d = reach other &&
      match d.field, other.field with
      | none, some _ => true
      | some a, some b => a.name < b.name
      | _, none => false

/-- The directive that decides: the one that names most of the event, and of several such the
last.
-/
def decisive? (e : Event) (f : Filter) : Option Directive :=
  (f.filter (concerns e)).foldl
    (fun best d =>
      match best with
      | none => some d
      | some b => some (if yields d b then b else d))
    none

def shows (f : Filter) (e : Event) : Bool :=
  match decisive? e f with
  | some d => Threshold.shows d.threshold e.level
  | none => false

end Filter

end CallWatch.Log
