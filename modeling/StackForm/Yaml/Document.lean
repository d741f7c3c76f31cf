import StackForm.Yaml.Event
import StackForm.Yaml.Plain
import StackForm.Yaml.Token.Stream

/-!
# The value of a YAML document

Anchors are numbered, so that an alias leads to a place among the events, and the events are turned
into a JSON document: scalars as they are meant, keys as they are written, aliases by what they
lead to. Levels of collections and visits to anchors are bounded.
-/

namespace StackForm.Yaml

/-! ### Anchors -/

/-- The number of an anchor is the count of the names known before it, so a name that is used again
shares its number with the next new name. -/
def numberAnchor (names : List (String × Nat)) (name : String) : Nat × List (String × Nat) :=
  let fresh := names.length
  let others := names.filter fun entry => entry.1 != name
  (fresh, (name, fresh) :: others)

/-- Number the anchor of an event, if it has one. -/
def numberAnchor? (names : List (String × Nat)) :
    Option String → Option Nat × List (String × Nat)
  | none => (none, names)
  | some name =>
    let (number, names) := numberAnchor names name
    (some number, names)

/-- The events with numbers for names; an alias must lead to a name before it. -/
def numberEvents (names : List (String × Nat)) :
    List (Event String) → Except Fault (List (Event Nat))
  | [] => .ok []
  | .alias name :: rest =>
    match names.lookup name with
    | some number => (numberEvents names rest).map (.alias number :: ·)
    | none => .error .unknownAnchor
  | .scalar anchor tag style text :: rest =>
    let (number, names) := numberAnchor? names anchor
    (numberEvents names rest).map (.scalar number tag style text :: ·)
  | .openSequence anchor tag :: rest =>
    let (number, names) := numberAnchor? names anchor
    (numberEvents names rest).map (.openSequence number tag :: ·)
  | .openMapping anchor tag :: rest =>
    let (number, names) := numberAnchor? names anchor
    (numberEvents names rest).map (.openMapping number tag :: ·)
  | .closeSequence :: rest => (numberEvents names rest).map (.closeSequence :: ·)
  | .closeMapping :: rest => (numberEvents names rest).map (.closeMapping :: ·)

/-- The number of the anchor of an event. -/
def Event.anchor? : Event Nat → Option Nat
  | .scalar anchor .. => anchor
  | .openSequence anchor _ => anchor
  | .openMapping anchor _ => anchor
  | _ => none

/-- The events from the last node on that has the anchor. -/
def fromAnchor (number : Nat) : List (Event Nat) → List (Event Nat)
  | [] => []
  | event :: rest =>
    match fromAnchor number rest with
    | [] => if event.anchor? = some number then event :: rest else []
    | found => found

/-! ### Values -/

/-- Counts the visits to anchors. -/
abbrev Visits := StateT Nat (Except Fault)

/-- Visit an anchor; a document is allowed a hundred visits for each of its events. -/
def visit (all : List (Event Nat)) (number : Nat) : Visits (List (Event Nat)) := do
  let visits := (← get) + 1
  if all.length * 100 < visits then throw .tooManyAliases
  set visits
  return fromAnchor number all

/-- A value with a local tag has no JSON form. -/
def checkTag (tag : Option Tag) : Visits Unit :=
  if tag.any Plain.isLocal then throw .localTag else pure ()

/-- The key at the front, which must be a scalar. -/
def keyText (all : List (Event Nat)) : List (Event Nat) → Visits (String × List (Event Nat))
  | .scalar _ _ _ text :: rest => return (text, rest)
  | .alias number :: rest => do
    match ← visit all number with
    | .scalar _ _ _ text :: _ => return (text, rest)
    | _ => throw .nameNotScalar
  | _ => throw .nameNotScalar

/-- Reads the value at the front of the events. -/
abbrev ValueReader := List (Event Nat) → Visits (Json × List (Event Nat))

/-- The values up to the end of a sequence. -/
def itemValues (inner : ValueReader) :
    (fuel : Nat) → List (Event Nat) → Visits (List Json × List (Event Nat))
  | 0, _ => throw .unexpectedToken
  | fuel + 1, events =>
    match events with
    | .closeSequence :: rest => return ([], rest)
    | events => do
      let (x, rest) ← inner events
      let (xs, rest) ← itemValues inner fuel rest
      return (x :: xs, rest)

/-- The keys and values up to the end of a mapping; the last value of a key stays. -/
def memberValues (all : List (Event Nat)) (inner : ValueReader) :
    (fuel : Nat) → List (String × Json) → List (Event Nat) →
      Visits (List (String × Json) × List (Event Nat))
  | 0, _, _ => throw .unexpectedToken
  | fuel + 1, done, events =>
    match events with
    | .closeMapping :: rest => return (done, rest)
    | events => do
      let (name, rest) ← keyText all events
      let (value, rest) ← inner rest
      memberValues all inner fuel (Keyed.insert name value done) rest

/-- The value of the scalar or collection at the front, whose parts are read by `inner`. -/
def contentOver (all : List (Event Nat)) (inner? : Option ValueReader) : ValueReader
  | .scalar _ tag style text :: rest =>
    match Plain.tagged tag (style == .plain) text with
    | .ok value => return (value, rest)
    | .error fault => throw fault
  | .openSequence _ tag :: rest => do
    checkTag tag
    match inner? with
    | none => throw .tooDeep
    | some inner =>
      let (items, rest) ← itemValues inner (rest.length + 1) rest
      return (.arr items, rest)
  | .openMapping _ tag :: rest => do
    checkTag tag
    match inner? with
    | none => throw .tooDeep
    | some inner =>
      let (members, rest) ← memberValues all inner (rest.length + 1) [] rest
      return (.obj members, rest)
  | _ => throw .unexpectedToken

/-- The value at the front, whose parts are read by `inner`; an alias has the value of the node it
leads to. -/
def valueOver (all : List (Event Nat)) (inner? : Option ValueReader) : ValueReader
  | .alias number :: rest => do
    let (value, _) ← contentOver all inner? (← visit all number)
    return (value, rest)
  | events => contentOver all inner? events

/-- The value at the front, with at most `levels` levels of collections. -/
def valueWithin (all : List (Event Nat)) : (levels : Nat) → ValueReader
  | 0 => valueOver all none
  | levels + 1 => valueOver all (some (valueWithin all levels))

/-- How many levels of collections a document may have. -/
def maxLevels : Nat := 128

/-- The document that a text holds. -/
def parse (bytes : List UInt8) : Except Fault Json := do
  let text ← (Utf8.decode? bytes).elim (.error .notText) .ok
  let events ← numberEvents [] (← eventsOf (← tokens text.toList))
  let ((value, _), _) ← (valueWithin events maxLevels events).run 0
  return value

end StackForm.Yaml
