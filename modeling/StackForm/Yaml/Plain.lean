import StackForm.Binary64.Basic
import StackForm.Json.Basic
import StackForm.Text.Basic
import StackForm.Text.Utf8
import StackForm.Yaml.Fault
import StackForm.Yaml.Token

/-!
# What plain scalars mean

A plain scalar is null, a truth value, an integer, a floating point number or, when it is none of
these, the text that it is written as. Numbers with a leading zero are texts.
-/

namespace StackForm.Yaml.Plain

/-! ### Words -/

def isNull (s : List Char) : Bool :=
  ["null", "Null", "NULL", "~"].any (·.toList == s)

def bool? (s : List Char) : Option Bool :=
  if ["true", "True", "TRUE"].any (·.toList == s) then some true
  else if ["false", "False", "FALSE"].any (·.toList == s) then some false
  else none

/-! ### Integers -/

def startsWithSign (s : List Char) : Bool :=
  s.head? == some '+' || s.head? == some '-'

/-- The number that digits of a base stand for; there must be a digit, and nothing else. -/
def digitsValue? (base : Nat) (s : List Char) : Option Nat :=
  if s.isEmpty then none
  else s.foldl (fun n? c => do
    let n ← n?
    let d ← Text.hexValue? c
    if d < base then some (n * base + d) else none) (some 0)

/-- The digits after `0x`, `0o` or `0b`, with their base. -/
def based? : List Char → Option (Nat × List Char)
  | '0' :: 'x' :: rest => some (16, rest)
  | '0' :: 'o' :: rest => some (8, rest)
  | '0' :: 'b' :: rest => some (2, rest)
  | _ => none

/-- Decimal digits with a zero in front of others, after an optional sign. -/
def hasLeadingZero (s : List Char) : Bool :=
  match (if startsWithSign s then s.drop 1 else s) with
  | '0' :: rest@(_ :: _) => rest.all Char.isDigit
  | _ => false

/-- An integer without a sign or with a plus sign. -/
def natural? (s : List Char) : Option Nat :=
  let body := if s.head? == some '+' then s.drop 1 else s
  match based? body with
  | some (base, digits) => digitsValue? base digits
  | none => if hasLeadingZero s then none else digitsValue? 10 body

/-- The magnitude of an integer with a minus sign. -/
def negated? : List Char → Option Nat
  | '-' :: body =>
    match based? body with
    | some (base, digits) => digitsValue? base digits
    | none => if hasLeadingZero body then none else digitsValue? 10 body
  | _ => none

/-- An integer. -/
def integer? (s : List Char) : Option Int :=
  match natural? s with
  | some n => some n
  | none => (negated? s).map fun n => -(n : Int)

/-- How an integer is taken, by its size: as it is up to 64 bits, as a fault up to 128 bits, and
beyond that as no integer at all. -/
def sized (n : Int) : Option (Except Fault Json) :=
  if Json.Number.minSigned ≤ n && n ≤ Json.Number.maxUnsigned then some (.ok (.num (.int n)))
  else if -(Nat.pow 2 127 : Int) ≤ n && n < Nat.pow 2 128 then some (.error .integerTooLong)
  else none

/-! ### Floating point numbers -/

/-- The exponent after its letter. -/
def exponent? (s : List Char) : Option Int :=
  let digits := if startsWithSign s then s.drop 1 else s
  if digits.all Char.isDigit then
    (digitsValue? 10 digits).map fun n => if s.head? == some '-' then -(n : Int) else n
  else none

/-- A decimal without a sign: digits with at most one point among them, and perhaps an exponent. -/
def decimal? (s : List Char) : Option (Nat × Int) := do
  let whole := s.takeWhile Char.isDigit
  let rest := s.dropWhile Char.isDigit
  let (fraction, rest) := match rest with
    | '.' :: rest => (rest.takeWhile Char.isDigit, rest.dropWhile Char.isDigit)
    | rest => ([], rest)
  let digits ← digitsValue? 10 (whole ++ fraction)
  let e ← match rest with
    | [] => some 0
    | 'e' :: rest => exponent? rest
    | 'E' :: rest => exponent? rest
    | _ => none
  return (digits, e - fraction.length)

/-- A floating point number; infinite and undefined ones have no JSON form and are null. -/
def float? (s : List Char) : Option Json :=
  let body := if s.head? == some '+' then s.drop 1 else s
  if s.head? == some '+' && startsWithSign body then none
  else
    let negative := body.head? == some '-'
    let magnitude := if negative then body.drop 1 else body
    if [".inf", ".Inf", ".INF"].any (·.toList == magnitude) then some .null
    else if [".nan", ".NaN", ".NAN"].any (·.toList == s) then some .null
    else do
      let (digits, e) ← decimal? magnitude
      let x := Binary64.ofDecimal negative digits e
      if x.isFinite then some (.num (.double x)) else none

/-! ### Values -/

/-- What a plain scalar without a tag means. -/
def value (text : String) : Except Fault Json :=
  let s := text.toList
  if s.isEmpty || isNull s then .ok .null
  else
    match bool? s with
    | some b => .ok (.bool b)
    | none =>
      match (integer? s).bind sized with
      | some result => result
      | none =>
        match (if hasLeadingZero s then none else float? s) with
        | some x => .ok x
        | none => .ok (.str text)

def nullTag : Tag := Utf8.encode "tag:yaml.org,2002:null"

def boolTag : Tag := Utf8.encode "tag:yaml.org,2002:bool"

def integerTag : Tag := Utf8.encode "tag:yaml.org,2002:int"

def floatTag : Tag := Utf8.encode "tag:yaml.org,2002:float"

/-- The tag begins with `!`. -/
def hasLocalForm (tag : Tag) : Bool :=
  tag.head? == some '!'.toUInt8

/-- The tag is a name that only the program that wrote the document knows. A tag that is not UTF-8
names nothing. -/
def isLocal (tag : Tag) : Bool :=
  hasLocalForm tag && (Utf8.decode? tag).isSome

/-- What a scalar means that was written in a style and may carry a tag. -/
def tagged (tag : Option Tag) (plain : Bool) (text : String) : Except Fault Json :=
  let s := text.toList
  let untagged := if plain then value text else .ok (.str text)
  let fitting (value? : Option Json) : Except Fault Json :=
    match value? with
    | some value => .ok value
    | none => .error .valueOfOtherTag
  match tag with
  | none => untagged
  | some tag =>
    if isLocal tag then .error .localTag
    else if hasLocalForm tag then untagged
    else if tag == nullTag then fitting (if isNull s then some .null else none)
    else if tag == boolTag then fitting ((bool? s).map .bool)
    else if tag == integerTag then ((integer? s).bind sized).getD (.error .valueOfOtherTag)
    else if tag == floatTag then fitting (float? s)
    else .ok (.str text)

end StackForm.Yaml.Plain
