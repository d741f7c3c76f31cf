import StackForm.Yaml.Cursor
import StackForm.Text.Basic

/-!
# Texts of scalars

Plain, quoted and block scalars. Where a plain or quoted scalar runs over several lines, the gap
between two words is folded: one line break becomes a space, and of several the first is dropped.
-/

namespace StackForm.Yaml

/-! ### Gaps -/

/-- Blanks and line breaks between two words. The line break that an escape removed is not among
the breaks. -/
structure Gap where
  escaped : Bool
  blanks : List Char
  breaks : List Char

namespace Gap

def empty (escaped : Bool) : Gap := ⟨escaped, [], []⟩

/-- The gap runs over a line break. -/
def isBroken (gap : Gap) : Bool :=
  gap.escaped || !gap.breaks.isEmpty

/-- The text that stands for a gap between two words. -/
def fold (gap : Gap) : List Char :=
  if gap.escaped then gap.breaks
  else
    match gap.breaks with
    | [] => gap.blanks
    | ['\n'] => [' ']
    | '\n' :: more => more
    | breaks => breaks

end Gap

/-- Read on in a gap. A tab may not stand in the indentation of a line, left of `indent`. -/
def readGap (indent : Int) : (fuel : Nat) → Gap → Cursor → Except Fault (Gap × Cursor)
  | 0, gap, c => .ok (gap, c)
  | fuel + 1, gap, c =>
    match c.rest with
    | [] => .ok (gap, c)
    | ch :: _ =>
      if isSpace ch then
        if gap.isBroken then
          if ch == '\t' && (c.column : Int) < indent then .error .tabIndentation
          else readGap indent fuel gap (c.forward 1)
        else readGap indent fuel { gap with blanks := gap.blanks ++ [ch] } (c.forward 1)
      else if isBreak ch then
        let (br, next) := c.readBreak
        readGap indent fuel { gap with blanks := [], breaks := gap.breaks ++ br } next
      else .ok (gap, c)

/-! ### Plain scalars -/

/-- The word at the front. In a flow collection it also ends at the marks of the collection, and no
such mark may follow a colon directly. -/
def plainWord (inFlow : Bool) : List Char → Except Fault (List Char)
  | [] => .ok []
  | ch :: rest =>
    if isGap ch then .ok []
    else if inFlow && ch == ':' && rest.head?.any (fun d => ",?[]{}".contains d) then
      .error .misplacedColon
    else if ch == ':' && isGapOrEnd rest.head? then .ok []
    else if inFlow && ",[]{}".contains ch then .ok []
    else (plainWord inFlow rest).map (ch :: ·)

/-- The words of a plain scalar after a gap, the cursor after them, and whether a line break was
passed after the last word. -/
def plainFrom (inFlow : Bool) (indent : Int) :
    (fuel : Nat) → Gap → Cursor → Except Fault (List Char × Bool × Cursor)
  | 0, gap, c => .ok ([], gap.isBroken, c)
  | fuel + 1, gap, c => do
    if c.atAnyMarker || c.at? '#' then return ([], gap.isBroken, c)
    let word ← plainWord inFlow c.rest
    let shown := if word.isEmpty then [] else gap.fold ++ word
    let left := if word.isEmpty then gap else Gap.empty false
    let c := c.forward word.length
    if !c.rest.head?.any isGap then return (shown, left.isBroken, c)
    let (gap, next) ← readGap indent (c.rest.length + 1) left c
    if !inFlow && (next.column : Int) < indent then return (shown, gap.isBroken, next)
    let (more, broken, last) ← plainFrom inFlow indent fuel gap next
    return (shown ++ more, broken, last)

/-! ### Quoted scalars -/

/-- The character that a letter stands for after a backslash. -/
def letterEscape? (ch : Char) : Option Char :=
  match ch with
  | '0' => some '\x00'
  | 'a' => some '\x07'
  | 'b' => some '\x08'
  | 't' => some '\t'
  | '\t' => some '\t'
  | 'n' => some '\n'
  | 'v' => some '\x0b'
  | 'f' => some '\x0c'
  | 'r' => some '\r'
  | 'e' => some '\x1b'
  | ' ' => some ' '
  | '"' => some '"'
  | '/' => some '/'
  | '\\' => some '\\'
  | 'N' => some '\x85'
  | '_' => some '\xa0'
  | 'L' => some '\u2028'
  | 'P' => some '\u2029'
  | _ => none

/-- The character with a number in base sixteen of the given length. -/
def numericEscape (length : Nat) (rest : List Char) : Except Fault (Char × Nat) :=
  let values := (rest.take length).filterMap Text.hexValue?
  let point := values.foldl (fun n d => n * 16 + d) 0
  if values.length = length && point.isValidChar then .ok (Char.ofNat point, length + 1)
  else .error .badEscape

/-- The character that an escape stands for, and how many characters it takes after its
backslash. -/
def escapeAt : List Char → Except Fault (Char × Nat)
  | 'x' :: rest => numericEscape 2 rest
  | 'u' :: rest => numericEscape 4 rest
  | 'U' :: rest => numericEscape 8 rest
  | ch :: _ =>
    match letterEscape? ch with
    | some c => .ok (c, 1)
    | none => .error .badEscape
  | [] => .error .badEscape

/-- The characters up to the next gap or the closing quote, and whether an escaped line break ended
them. -/
def quotedWord (quote : Char) : (fuel : Nat) → Cursor → Except Fault (List Char × Bool × Cursor)
  | 0, c => .ok ([], false, c)
  | fuel + 1, c =>
    match c.rest with
    | [] => .ok ([], false, c)
    | ch :: rest =>
      if isGap ch then .ok ([], false, c)
      else if quote == '\x27' && ch == '\x27' && rest.head? == some '\x27' then do
        let (more, escaped, last) ← quotedWord quote fuel (c.forward 2)
        return ('\x27' :: more, escaped, last)
      else if ch == quote then .ok ([], false, c)
      else if quote == '"' && ch == '\\' then
        if rest.head?.any isBreak then .ok ([], true, (c.forward 1).readBreak.2)
        else do
          let (shown, length) ← escapeAt rest
          let (more, escaped, last) ← quotedWord quote fuel (c.forward (length + 1))
          return (shown :: more, escaped, last)
      else do
        let (more, escaped, last) ← quotedWord quote fuel (c.forward 1)
        return (ch :: more, escaped, last)

/-- The text up to the closing quote, which is consumed too. -/
def quotedFrom (quote : Char) : (fuel : Nat) → Cursor → Except Fault (List Char × Cursor)
  | 0, _ => .error .unclosedQuote
  | fuel + 1, c => do
    if c.atAnyMarker then throw .markerInQuote
    if c.rest.isEmpty then throw .unclosedQuote
    let (word, escaped, c) ← quotedWord quote (c.rest.length + 1) c
    if c.at? quote then return (word, c.forward 1)
    let (gap, c) ← readGap (-1) (c.rest.length + 1) (Gap.empty escaped) c
    let (more, last) ← quotedFrom quote fuel c
    return (word ++ gap.fold ++ more, last)

/-! ### Block scalars -/

/-- What happens to the line breaks at the end of a block. -/
inductive Chomping where
  | strip
  | clip
  | keep
  deriving DecidableEq

/-- The chomping mark at the cursor. -/
def chomping? (c : Cursor) : Option Chomping :=
  if c.at? '+' then some .keep else if c.at? '-' then some .strip else none

/-- The digit at the cursor, which may not be zero. -/
def indentation? (c : Cursor) : Except Fault (Option Nat) :=
  match c.rest.head? with
  | some '0' => .error .badBlockHeader
  | some ch => .ok (if ch.isDigit then some (ch.toNat - '0'.toNat) else none)
  | none => .ok none

/-- The chomping and the indentation that a header states, in either order. -/
def blockHeader (c : Cursor) : Except Fault (Chomping × Option Nat × Cursor) :=
  match chomping? c with
  | some chomping => do
    let c := c.forward 1
    let indentation ← indentation? c
    return (chomping, indentation, if indentation.isSome then c.forward 1 else c)
  | none => do
    let indentation ← indentation? c
    if indentation.isSome then
      let c := c.forward 1
      match chomping? c with
      | some chomping => return (chomping, indentation, c.forward 1)
      | none => return (.clip, indentation, c)
    else return (.clip, none, c)

/-- Past empty lines and indentation, with the line breaks and the greatest column reached; with no
known indentation every blank counts as indentation. -/
def blockBreaks (indent? : Option Nat) :
    (fuel : Nat) → (greatest : Nat) → Cursor → Except Fault (List Char × Nat × Cursor)
  | 0, greatest, c => .ok ([], greatest, c)
  | fuel + 1, greatest, c =>
    let blanks := (c.rest.takeWhile (· == ' ')).length
    let c := c.forward (match indent? with
      | none => blanks
      | some indent => min blanks (indent - c.column))
    let greatest := max greatest c.column
    if indent?.all (c.column < ·) && c.at? '\t' then .error .tabIndentation
    else if c.rest.head?.any isBreak then do
      let (br, next) := c.readBreak
      let (more, greatest, last) ← blockBreaks indent? fuel greatest next
      return (br ++ more, greatest, last)
    else .ok ([], greatest, c)

/-- The lines of a block. `lead` is the break before the line, `trail` the empty lines after that
break, `blank` says that the line before began with a blank. The result is the text, the last break
and the empty lines after it. -/
def blockLines (folded : Bool) (indent : Nat) : (fuel : Nat) → (lead trail : List Char) →
    (blank : Bool) → Cursor → Except Fault (List Char × List Char × List Char × Cursor)
  | 0, lead, trail, _, c => .ok ([], lead, trail, c)
  | fuel + 1, lead, trail, blank, c => do
    if c.column != indent || c.rest.isEmpty then return ([], lead, trail, c)
    let blankNow := c.rest.head?.any isSpace
    let joint :=
      if folded && lead.head? == some '\n' && !blank && !blankNow then
        if trail.isEmpty then [' '] else []
      else lead
    let (line, next) := c.span (fun ch => !isBreak ch)
    let (lead, next) := next.readBreak
    let (breaks, _, next) ← blockBreaks (some indent) (next.rest.length + 1) 0 next
    let (more, lead, breaks, last) ← blockLines folded indent fuel lead breaks blankNow next
    return (joint ++ trail ++ line ++ more, lead, breaks, last)

/-- The text of a block scalar, from after its mark; `parent` is the indentation around it. -/
def blockFrom (folded : Bool) (parent : Int) (c : Cursor) : Except Fault (List Char × Cursor) := do
  let (chomping, indentation?, c) ← blockHeader c
  let c ← c.finishLine .badBlockHeader
  let stated? := indentation?.map fun n => (max parent 0).toNat + n
  let (trail, greatest, c) ← blockBreaks stated? (c.rest.length + 1) 0 c
  let indent := stated?.getD (max greatest (max (parent + 1) 1).toNat)
  let (text, lead, trail, c) ← blockLines folded indent (c.rest.length + 1) [] trail false c
  let ending := match chomping with
    | .strip => []
    | .clip => lead
    | .keep => lead ++ trail
  return (text ++ ending, c)

end StackForm.Yaml
