import StackForm.Text.Utf8
import StackForm.Yaml.Fault
import StackForm.Yaml.Token

/-!
# The structure of a YAML document

Events list the nodes of a document in writing order: a collection stands between its opening and
its closing event. `eventsOf` reads the tokens of one document by recursive descent; an absent node
is an empty plain scalar.
-/

namespace StackForm.Yaml

/-- One step of walking through a document whose anchors are named in `ν`. -/
inductive Event (ν : Type) where
  | alias (target : ν)
  | scalar (anchor : Option ν) (tag : Option Tag) (style : Style) (text : String)
  | openSequence (anchor : Option ν) (tag : Option Tag)
  | closeSequence
  | openMapping (anchor : Option ν) (tag : Option Tag)
  | closeMapping
  deriving DecidableEq

/-- The handles of tags and what they stand for. -/
abbrev Handles := List (String × Tag)

namespace Structure

/-- Consumes tokens. -/
abbrev Parser := StateT (List Token) (Except Fault)

abbrev Events := List (Event String)

def peek : Parser (Option Token) := do
  return (← get).head?

def skip : Parser Unit :=
  modify (·.drop 1)

/-- Past the token, if it is the next one. -/
def accept (token : Token) : Parser Bool := do
  if (← peek) = some token then
    skip
    return true
  else return false

/-- The next token is one of the given ones, or there is none. -/
def stopsAt (tokens : List Token) : Parser Bool := do
  return (← peek).all (tokens.contains ·)

/-- Past the comma that stands before every entry but the first. -/
def separator (first : Bool) : Parser Unit := do
  if !first then
    if !(← accept .comma) then throw .unexpectedToken

/-- What an absent node gives. -/
def absent : Events := [.scalar none none .plain ""]

/-! ### Properties of nodes -/

/-- A tag in full: its handle is replaced by what it stands for. -/
def fullTag (handles : Handles) (handle : String) (suffix : Tag) : Except Fault Tag :=
  if handle.isEmpty then .ok suffix
  else
    match handles.lookup handle with
    | some stem => .ok (stem ++ suffix)
    | none => .error .unknownTagHandle

/-- The anchor at the front. -/
def anchor? : Parser (Option String) := do
  match ← peek with
  | some (.anchor name) =>
    skip
    return some name
  | _ => return none

/-- The tag at the front. -/
def tag? (handles : Handles) : Parser (Option Tag) := do
  match ← peek with
  | some (.tag handle suffix) =>
    skip
    return some (← fullTag handles handle suffix)
  | _ => return none

/-- Anchor and tag of a node, in either order. -/
def properties (handles : Handles) : Parser (Option String × Option Tag) := do
  match ← anchor? with
  | some anchor => return (some anchor, ← tag? handles)
  | none =>
    let tag ← tag? handles
    return (← anchor?, tag)

/-! ### Nodes -/

mutual

/-- A node. Block collections may stand in block context only, and entries that are not indented
under a mapping only after one of its keys. -/
def node (handles : Handles) (inBlock unindented : Bool) : (fuel : Nat) → Parser Events
  | 0 => throw .unexpectedToken
  | fuel + 1 => do
    if let some (.alias name) ← peek then
      skip
      return [.alias name]
    let (anchor, tag) ← properties handles
    match ← peek with
    | some (.scalar style text) =>
      skip
      return [.scalar anchor tag style text]
    | some .openSequence =>
      skip
      return .openSequence anchor tag :: (← flowItems handles true fuel)
    | some .openMapping =>
      skip
      return .openMapping anchor tag :: (← flowMembers handles true fuel)
    | next =>
      if unindented && next == some .entry then
        return .openSequence anchor tag :: (← unindentedItems handles fuel)
      else if inBlock && next == some .blockSequence then
        skip
        return .openSequence anchor tag :: (← blockItems handles fuel)
      else if inBlock && next == some .blockMapping then
        skip
        return .openMapping anchor tag :: (← blockMembers handles fuel)
      else if anchor.isSome || tag.isSome then
        return [.scalar anchor tag .plain ""]
      else throw .unexpectedToken

/-- The entries of an indented block sequence. -/
def blockItems (handles : Handles) : (fuel : Nat) → Parser Events
  | 0 => throw .unexpectedToken
  | fuel + 1 => do
    if ← accept .entry then
      let item ← if ← stopsAt [.entry, .blockEnd] then pure absent else node handles true false fuel
      return item ++ (← blockItems handles fuel)
    else if ← accept .blockEnd then return [.closeSequence]
    else throw .unexpectedToken

/-- The entries of a block sequence that is not indented. -/
def unindentedItems (handles : Handles) : (fuel : Nat) → Parser Events
  | 0 => throw .unexpectedToken
  | fuel + 1 => do
    if ← accept .entry then
      let item ←
        if ← stopsAt [.entry, .key, .value, .blockEnd] then pure absent
        else node handles true false fuel
      return item ++ (← unindentedItems handles fuel)
    else return [.closeSequence]

/-- The keys and values of a block mapping. -/
def blockMembers (handles : Handles) : (fuel : Nat) → Parser Events
  | 0 => throw .unexpectedToken
  | fuel + 1 => do
    if ← accept .key then
      let key ←
        if ← stopsAt [.key, .value, .blockEnd] then pure absent else node handles true true fuel
      let value ←
        if ← accept .value then
          if ← stopsAt [.key, .value, .blockEnd] then pure absent else node handles true true fuel
        else pure absent
      return key ++ value ++ (← blockMembers handles fuel)
    else if ← accept .blockEnd then return [.closeMapping]
    else throw .unexpectedToken

/-- The entries of a flow sequence; one with a key is a mapping with one member. -/
def flowItems (handles : Handles) (first : Bool) : (fuel : Nat) → Parser Events
  | 0 => throw .unexpectedToken
  | fuel + 1 => do
    if ← accept .closeSequence then return [.closeSequence]
    separator first
    if ← accept .closeSequence then return [.closeSequence]
    let item ←
      if ← accept .key then
        let key ←
          if ← stopsAt [.value, .comma, .closeSequence] then
            skip
            pure absent
          else node handles false false fuel
        let value ←
          if ← accept .value then
            if ← stopsAt [.comma, .closeSequence] then pure absent
            else node handles false false fuel
          else pure absent
        pure ([.openMapping none none] ++ key ++ value ++ [.closeMapping])
      else node handles false false fuel
    return item ++ (← flowItems handles false fuel)

/-- The members of a flow mapping; a node without a key mark is a key without a value. -/
def flowMembers (handles : Handles) (first : Bool) : (fuel : Nat) → Parser Events
  | 0 => throw .unexpectedToken
  | fuel + 1 => do
    if ← accept .closeMapping then return [.closeMapping]
    separator first
    if ← accept .closeMapping then return [.closeMapping]
    let member ←
      if ← accept .key then
        let key ←
          if ← stopsAt [.value, .comma, .closeMapping] then pure absent
          else node handles false false fuel
        let value ←
          if ← accept .value then
            if ← stopsAt [.comma, .closeMapping] then pure absent
            else node handles false false fuel
          else pure absent
        pure (key ++ value)
      else pure ((← node handles false false fuel) ++ absent)
    return member ++ (← flowMembers handles false fuel)

end

/-! ### Documents -/

/-- The directives in front of a document: a version that is understood, at most once, and handles,
each at most once. -/
def directives : (fuel : Nat) → (versioned : Bool) → Handles → Parser Handles
  | 0, _, handles => pure handles
  | fuel + 1, versioned, handles => do
    match ← peek with
    | some (.versionDirective major minor) =>
      skip
      if versioned || major != 1 || (minor != 1 && minor != 2) then throw .badDirective
      directives fuel true handles
    | some (.tagDirective handle stem) =>
      skip
      if (handles.lookup handle).isSome then throw .badDirective
      directives fuel versioned ((handle, stem) :: handles)
    | _ => return handles

/-- The handles that need no directive. -/
def standardHandles : Handles :=
  [("!", Utf8.encode "!"), ("!!", Utf8.encode "tag:yaml.org,2002:")]

/-- Past the ends of documents. -/
def skipEnds : List Token → List Token
  | .documentEnd :: rest => skipEnds rest
  | tokens => tokens

/-- A token that belongs to no document's content. -/
def isBoundary : Token → Bool
  | .versionDirective .. | .tagDirective .. | .documentStart | .documentEnd => true
  | _ => false

/-- The only document of a text; nothing but ends of documents may follow it. A text without tokens
holds an absent node. -/
def document : Parser Events := do
  let fuel := 3 * (← get).length + 8
  let events ←
    match ← peek with
    | none => pure absent
    | some token =>
      if isBoundary token && token != .documentEnd then
        let handles ← directives fuel false []
        if !(← accept .documentStart) then throw .unexpectedToken
        if (← peek).all isBoundary then pure absent
        else node (handles ++ standardHandles) true false fuel
      else node standardHandles true false fuel
  modify skipEnds
  if (← peek).isSome then throw .severalDocuments
  return events

end Structure

/-- The events of the document that the tokens make up. -/
def eventsOf (tokens : List Token) : Except Fault (List (Event String)) :=
  (Structure.document.run tokens).map (·.1)

end StackForm.Yaml
