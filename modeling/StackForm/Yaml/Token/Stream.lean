import StackForm.Yaml.Token.Property

/-!
# From characters to tokens

A text is turned into tokens from left to right. Indentation opens and closes block collections. A
scalar, an alias or a flow collection may turn out to be a mapping key when a colon follows it on its
line, so its place among the tokens is remembered until that is decided; one that has to be a key,
because it stands where the keys of a block mapping stand, must be followed by a colon.
-/

namespace StackForm.Yaml

/-- Where a key may begin. -/
structure PossibleKey where
  required : Bool
  place : Nat
  offset : Nat
  line : Nat
  column : Nat

/-- What has been found so far, and the state of the collections around the cursor: the indentations
of the open block collections, and a possible key for every level of flow collections, the innermost
first. -/
structure Scan where
  cursor : Cursor
  tokens : Array Token
  flowLevel : Nat
  indent : Int
  indents : List Int
  keyAllowed : Bool
  keys : List (Option PossibleKey)

namespace Scan

def start (text : List Char) : Scan :=
  ⟨Cursor.start text, #[], 0, -1, [], true, [none]⟩

def inFlow (s : Scan) : Bool :=
  0 < s.flowLevel

/-! ### Tokens -/

def push (s : Scan) (token : Token) : Scan :=
  { s with tokens := s.tokens.push token }

/-- Put tokens in front of the one at a place. -/
def insertAt (s : Scan) (place : Nat) (added : Array Token) : Scan :=
  { s with tokens := s.tokens.extract 0 place ++ added ++ s.tokens.extract place s.tokens.size }

/-- Past `count` characters of one line. -/
def forward (s : Scan) (count : Nat) : Scan :=
  { s with cursor := s.cursor.forward count }

/-! ### Possible keys -/

/-- Give up a possible key, unless it has to be one. -/
def giveUp : Option PossibleKey → Except Fault (Option PossibleKey)
  | some key => if key.required then .error .missingColon else .ok none
  | none => .ok none

/-- Give up the possible keys that the cursor has left behind: a key ends on its line and within
1024 bytes. -/
def giveUpStale (c : Cursor) : List (Option PossibleKey) → Except Fault (List (Option PossibleKey))
  | [] => .ok []
  | key? :: rest => do
    let stale := key?.any fun key => key.line < c.line || key.offset + 1024 < c.offset
    let key? ← if stale then giveUp key? else pure key?
    return key? :: (← giveUpStale c rest)

/-- Give up the possible key of the innermost level. -/
def removeKey (s : Scan) : Except Fault Scan :=
  match s.keys with
  | [] => .ok s
  | key? :: rest => (giveUp key?).map fun key? => { s with keys := key? :: rest }

/-- Remember that a key may begin at the cursor. -/
def saveKey (s : Scan) : Except Fault Scan := do
  if s.keyAllowed then
    let s ← s.removeKey
    let c := s.cursor
    let key : PossibleKey :=
      ⟨!s.inFlow && s.indent == c.column, s.tokens.size, c.offset, c.line, c.column⟩
    return { s with keys := some key :: s.keys.drop 1 }
  else return s

/-! ### Indentation -/

/-- Indent to a column, if it lies further in than the current one. -/
def indentTo (s : Scan) (column : Nat) : Bool × Scan :=
  if !s.inFlow && s.indent < column then
    (true, { s with indents := s.indent :: s.indents, indent := column })
  else (false, s)

/-- Open a block collection at the cursor, if it stands further in than the current one. -/
def openBlock (s : Scan) (token : Token) : Scan :=
  let (opened, s) := s.indentTo s.cursor.column
  if opened then s.push token else s

/-- Close the block collections that stand further in than the column. -/
def closeBlocks (column : Int) : (fuel : Nat) → Scan → Scan
  | 0, s => s
  | fuel + 1, s =>
    if !s.inFlow && column < s.indent then
      closeBlocks column fuel
        { s.push .blockEnd with indent := s.indents.headD (-1), indents := s.indents.drop 1 }
    else s

/-- Close the block collections that stand further in than the column. -/
def unindent (s : Scan) (column : Int) : Scan :=
  closeBlocks column (s.indents.length + 1) s

/-! ### Gaps between tokens -/

/-- Past blanks, comments and line breaks. Tabs count as blanks where no key can begin. -/
def skipGap : (fuel : Nat) → Scan → Scan
  | 0, s => s
  | fuel + 1, s =>
    let c := s.cursor
    let c := if c.column == 0 && c.at? '\ufeff' then c.forward 1 else c
    let tabs := s.inFlow || !s.keyAllowed
    let c := c.skipWhile fun ch => ch == ' ' || (tabs && ch == '\t')
    let c := if c.at? '#' then c.skipWhile (fun ch => !isBreak ch) else c
    if c.rest.head?.any isBreak then
      skipGap fuel
        { s with cursor := c.readBreak.2, keyAllowed := s.keyAllowed || !s.inFlow }
    else { s with cursor := c }

/-! ### Marks -/

/-- A document marker or directive ends all block collections. -/
def endBlocks (s : Scan) : Except Fault Scan := do
  let s ← (s.unindent (-1)).removeKey
  return { s with keyAllowed := false }

def openFlow (s : Scan) (token : Token) : Except Fault Scan := do
  let s ← s.saveKey
  return (({ s with
    flowLevel := s.flowLevel + 1
    keys := none :: s.keys
    keyAllowed := true }).push token).forward 1

def closeFlow (s : Scan) (token : Token) : Except Fault Scan := do
  let s ← s.removeKey
  let s := if s.inFlow then { s with flowLevel := s.flowLevel - 1, keys := s.keys.drop 1 } else s
  return (({ s with keyAllowed := false }).push token).forward 1

def comma (s : Scan) : Except Fault Scan := do
  let s ← s.removeKey
  return (({ s with keyAllowed := true }).push .comma).forward 1

def entry (s : Scan) : Except Fault Scan := do
  if !s.inFlow && !s.keyAllowed then throw .misplacedEntry
  let s ← (s.openBlock .blockSequence).removeKey
  return (({ s with keyAllowed := true }).push .entry).forward 1

def key (s : Scan) : Except Fault Scan := do
  if !s.inFlow && !s.keyAllowed then throw .misplacedEntry
  let s ← (s.openBlock .blockMapping).removeKey
  return (({ s with keyAllowed := !s.inFlow }).push .key).forward 1

/-- A colon makes a key of what may be one, and otherwise follows an empty or an explicit key. -/
def value (s : Scan) : Except Fault Scan := do
  match s.keys with
  | some possible :: rest =>
    let (opened, s) := s.indentTo possible.column
    let s := s.insertAt possible.place (if opened then #[.blockMapping, .key] else #[.key])
    return (({ s with keys := none :: rest, keyAllowed := false }).push .value).forward 1
  | _ =>
    if !s.inFlow && !s.keyAllowed then throw .misplacedEntry
    let s := s.openBlock .blockMapping
    return (({ s with keyAllowed := !s.inFlow }).push .value).forward 1

/-! ### Texts and properties -/

/-- A token that may begin a key. -/
def property (s : Scan) (scan : Cursor → Except Fault (Token × Cursor)) : Except Fault Scan := do
  let s ← s.saveKey
  let (token, c) ← scan s.cursor
  return { s.push token with cursor := c, keyAllowed := false }

def quoted (s : Scan) (quote : Char) : Except Fault Scan :=
  s.property fun c => do
    let (text, c) ← quotedFrom quote (c.rest.length + 1) (c.forward 1)
    return (.scalar .quoted (String.ofList text), c)

def block (s : Scan) (folded : Bool) : Except Fault Scan := do
  let s ← s.removeKey
  let (text, c) ← blockFrom folded s.indent (s.cursor.forward 1)
  return { s.push (.scalar .quoted (String.ofList text)) with cursor := c, keyAllowed := true }

def plain (s : Scan) : Except Fault Scan := do
  let s ← s.saveKey
  let (text, broken, c) ←
    plainFrom s.inFlow (s.indent + 1) (s.cursor.rest.length + 1) (Gap.empty false) s.cursor
  return { s.push (.scalar .plain (String.ofList text)) with cursor := c, keyAllowed := broken }

/-! ### One token -/

/-- The character at the cursor can start a plain scalar. -/
def startsPlain (inFlow : Bool) (ch : Char) (next : Option Char) : Bool :=
  !(isGap ch || "-?:,[]{}#&*!|>\x27\"%@\x60".contains ch) ||
    (ch == '-' && !next.any isSpace) ||
    (!inFlow && (ch == '?' || ch == ':') && !isGapOrEnd next)

/-- Read the token that begins with `ch`. -/
def token (s : Scan) (ch : Char) : Except Fault Scan :=
  let c := s.cursor
  let next := c.look 1
  let free := s.inFlow || isGapOrEnd next
  if c.column == 0 && ch == '%' then do
    let s ← s.endBlocks
    let (token, c) ← scanDirective s.cursor
    return { s.push token with cursor := c }
  else if c.atMarker '-' then s.endBlocks.map fun s => (s.push .documentStart).forward 3
  else if c.atMarker '.' then s.endBlocks.map fun s => (s.push .documentEnd).forward 3
  else if ch == '[' then s.openFlow .openSequence
  else if ch == '\x7b' then s.openFlow .openMapping
  else if ch == ']' then s.closeFlow .closeSequence
  else if ch == '\x7d' then s.closeFlow .closeMapping
  else if ch == ',' then s.comma
  else if ch == '-' && isGapOrEnd next then s.entry
  else if ch == '?' && free then s.key
  else if ch == ':' && free then s.value
  else if ch == '*' then s.property fun c => (scanName c).map fun (name, c) => (.alias name, c)
  else if ch == '&' then s.property fun c => (scanName c).map fun (name, c) => (.anchor name, c)
  else if ch == '!' then s.property (scanTag s.inFlow)
  else if ch == '|' && !s.inFlow then s.block false
  else if ch == '>' && !s.inFlow then s.block true
  else if ch == '\x27' || ch == '"' then s.quoted ch
  else if startsPlain s.inFlow ch next then s.plain
  else .error .unexpectedCharacter

/-- Read all tokens. -/
def run : (fuel : Nat) → Scan → Except Fault (Array Token)
  | 0, _ => .error .unexpectedCharacter
  | fuel + 1, s => do
    let s := skipGap (s.cursor.rest.length + 1) s
    let keys ← giveUpStale s.cursor s.keys
    let s := { s with keys := keys }.unindent s.cursor.column
    match s.cursor.rest with
    | ch :: _ => run fuel (← s.token ch)
    | [] => return (← s.endBlocks).tokens

end Scan

/-- The tokens of a text. -/
def tokens (text : List Char) : Except Fault (List Token) :=
  if text.all isAllowed then
    (Scan.run (text.length + 1) (Scan.start text)).map Array.toList
  else .error .forbiddenCharacter

end StackForm.Yaml
