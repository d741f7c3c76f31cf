import StackForm.Json.Reader.Skip
import Mathlib.Data.List.DropRight
import Mathlib.Data.List.ReduceOption

/-!
# Grammars of texts

A grammar relates a text to what its front spells and to what stands after that front, so that the
grammar of a whole is put together from those of its parts. The grammars here are those of the typed
readers: they say nothing of cursors, fuel or messages.
-/

namespace StackForm.Json

/-- What stands at the front of a text, what it spells, and what stands after it. -/
abbrev Grammar (α : Type) := List UInt8 → α → List UInt8 → Prop

namespace Grammar

open Reader (isBlankByte isDigit letterEscape?)

variable {α : Type}

/-! ### Tokens -/

/-- The text without the blanks at its front. -/
def trim (input : List UInt8) : List UInt8 :=
  input.dropWhile isBlankByte

/-- The byte comes next, after blanks. -/
def Token (b : UInt8) (input output : List UInt8) : Prop :=
  trim input = b :: output

/-! ### Texts -/

/-- The byte is a hexadecimal digit of the given value. -/
def IsHexByte (b : UInt8) (value : Nat) : Prop :=
  Text.hexValue? (Char.ofNat b.toNat) = some value

/-- Four hexadecimal digits and the number that they stand for. -/
inductive HexUnit : Grammar Nat where
  | digits {b₁ b₂ b₃ b₄ : UInt8} {d₁ d₂ d₃ d₄ : Nat} (h₁ : IsHexByte b₁ d₁) (h₂ : IsHexByte b₂ d₂)
    (h₃ : IsHexByte b₃ d₃) (h₄ : IsHexByte b₄ d₄) (output : List UInt8) :
    HexUnit (b₁ :: b₂ :: b₃ :: b₄ :: output) (((d₁ * 16 + d₂) * 16 + d₃) * 16 + d₄) output

/-- An escape, from after its backslash. A character beyond 16 bits is written as the two halves of
a surrogate pair, and neither half stands alone. -/
inductive Escape : Grammar Char where
  | letter {b : UInt8} {c : Char} (h : letterEscape? b = some c) (output : List UInt8) :
    Escape (b :: output) c output
  | unit {n : Nat} {input output : List UInt8} (h : HexUnit input n output)
    (hn : n < 0xd800 ∨ 0xdfff < n) : Escape (0x75 :: input) (Char.ofNat n) output
  | pair {high low : Nat} {input mid output : List UInt8}
    (hhigh : HexUnit input high (0x5c :: 0x75 :: mid)) (hlow : HexUnit mid low output)
    (hfirst : 0xd800 ≤ high ∧ high ≤ 0xdbff) (hsecond : 0xdc00 ≤ low ∧ low ≤ 0xdfff) :
    Escape (0x75 :: input) (Char.ofNat ((high - 0xd800) * 0x400 + (low - 0xdc00) + 0x10000)) output

/-- An escape in a text that is not asked for: halves of surrogate pairs may stand anywhere. -/
inductive LooseEscape : Grammar Char where
  | letter {b : UInt8} {c : Char} (h : letterEscape? b = some c) (output : List UInt8) :
    LooseEscape (b :: output) c output
  | unit {n : Nat} {input output : List UInt8} (h : HexUnit input n output) :
    LooseEscape (0x75 :: input) (Char.ofNat n) output

/-- The bytes of a text, from after its opening quote up to its closing one, with the bytes of a
character in place of each escape. -/
inductive Quoted (escape : Grammar Char) : Grammar (List UInt8) where
  | close (output : List UInt8) : Quoted escape (0x22 :: output) [] output
  | plain {b : UInt8} {input bytes output : List UInt8} (hquote : b ≠ 0x22) (hslash : b ≠ 0x5c)
    (hb : 0x20 ≤ b) (h : Quoted escape input bytes output) :
    Quoted escape (b :: input) (b :: bytes) output
  | escape {c : Char} {input mid bytes output : List UInt8} (hc : escape input c mid)
    (h : Quoted escape mid bytes output) :
    Quoted escape (0x5c :: input) (String.utf8EncodeChar c ++ bytes) output

/-- A text. -/
inductive Text : Grammar String where
  | quoted {s : String} {input mid output : List UInt8} (hopen : Token 0x22 input mid)
    (h : Quoted Escape mid (Utf8.encode s) output) : Text input s output

/-! ### Numerals -/

/-- An exponent, from its letter on; a run of digits goes as far as it can. -/
inductive Exponent : Grammar Unit where
  | unsigned {letter d : UInt8} (hletter : letter = 0x65 ∨ letter = 0x45) (hd : isDigit d = true)
    (input : List UInt8) : Exponent (letter :: d :: input) () (input.dropWhile isDigit)
  | signed {letter sign d : UInt8} (hletter : letter = 0x65 ∨ letter = 0x45)
    (hsign : sign = 0x2b ∨ sign = 0x2d) (hd : isDigit d = true) (input : List UInt8) :
    Exponent (letter :: sign :: d :: input) () (input.dropWhile isDigit)

/-- An exponent or nothing. -/
inductive ExponentOrEnd : Grammar Unit where
  | exponent {input output : List UInt8} (h : Exponent input () output) :
    ExponentOrEnd input () output
  | nothing {input : List UInt8} (h : ∀ b ∈ input.head?, b ≠ 0x65 ∧ b ≠ 0x45) :
    ExponentOrEnd input () input

/-- What follows the integer part of a numeral. -/
inductive NumeralEnd : Grammar Unit where
  | fraction {d : UInt8} {input output : List UInt8} (hd : isDigit d = true)
    (h : ExponentOrEnd (input.dropWhile isDigit) () output) :
    NumeralEnd (0x2e :: d :: input) () output
  | whole {input output : List UInt8} (hinput : ∀ b ∈ input.head?, b ≠ 0x2e)
    (h : ExponentOrEnd input () output) : NumeralEnd input () output

/-- A numeral without its sign; no digit follows a leading zero. -/
inductive Numeral : Grammar Unit where
  | zero {input output : List UInt8} (hinput : ∀ b ∈ input.head?, isDigit b = false)
    (h : NumeralEnd input () output) : Numeral (0x30 :: input) () output
  | positive {d : UInt8} {input output : List UInt8} (hd : isDigit d = true) (hzero : d ≠ 0x30)
    (h : NumeralEnd (input.dropWhile isDigit) () output) : Numeral (d :: input) () output

/-! ### What stands between brackets -/

/-- The byte closes a list or an object. -/
def IsClosing (b : UInt8) : Prop :=
  b = 0x5d ∨ b = 0x7d

instance : DecidablePred IsClosing := fun _ => inferInstanceAs (Decidable (_ ∨ _))

/-- What leads up to an item: a comma, unless it is the first one. -/
inductive Lead : (first : Bool) → List UInt8 → List UInt8 → Prop where
  | first (input : List UInt8) : Lead true input input
  | comma {input output : List UInt8} (h : Token 0x2c input output) : Lead false input output

/-- What `item` spells, any number of times with commas in between, and the closing byte. -/
inductive Sequence (close : UInt8) (item : Grammar α) : (first : Bool) → Grammar (List α) where
  | done {first : Bool} {input output : List UInt8} (h : Token close input output) :
    Sequence close item first input [] output
  | item {first : Bool} {x : α} {xs : List α} {input rest mid output : List UInt8}
    (hlead : Lead first input rest) (hx : item rest x mid)
    (hxs : Sequence close item false mid xs output) :
    Sequence close item first input (x :: xs) output

/-- What can stand in a sequence: blanks before it make no difference, it does not begin with a
closing byte, and it is not empty. -/
structure IsItem (item : Grammar α) : Prop where
  of_trim_eq {input input' : List UInt8} {x : α} {output : List UInt8}
    (h : trim input' = trim input) : item input x output → item input' x output
  opens {input : List UInt8} {x : α} {output : List UInt8} : item input x output →
    ∃ b rest, Token b input rest ∧ ¬ IsClosing b ∧ output.length ≤ rest.length

/-! ### Values that are not asked for -/

/-- A name, a colon and a value. -/
inductive AnyMember (value : Grammar Unit) : Grammar Unit where
  | named {input rest name afterName mid output : List UInt8} (hopen : Token 0x22 input rest)
    (hname : Quoted LooseEscape rest name afterName) (hcolon : Token 0x3a afterName mid)
    (h : value mid () output) : AnyMember value input () output

/-- A value whose parts are spelled by `inner`. -/
inductive ValueOver (inner : Grammar Unit) : Grammar Unit where
  | null {input output : List UInt8} (h : Token 0x6e input ([0x75, 0x6c, 0x6c] ++ output)) :
    ValueOver inner input () output
  | yes {input output : List UInt8} (h : Token 0x74 input ([0x72, 0x75, 0x65] ++ output)) :
    ValueOver inner input () output
  | no {input output : List UInt8} (h : Token 0x66 input ([0x61, 0x6c, 0x73, 0x65] ++ output)) :
    ValueOver inner input () output
  | negative {input mid output : List UInt8} (hsign : Token 0x2d input mid)
    (h : Numeral mid () output) : ValueOver inner input () output
  | number {input output : List UInt8} (h : Numeral (trim input) () output) :
    ValueOver inner input () output
  | text {input mid bytes output : List UInt8} (hopen : Token 0x22 input mid)
    (h : Quoted LooseEscape mid bytes output) : ValueOver inner input () output
  | list {xs : List Unit} {input mid output : List UInt8} (hopen : Token 0x5b input mid)
    (h : Sequence 0x5d inner true mid xs output) : ValueOver inner input () output
  | object {xs : List Unit} {input mid output : List UInt8} (hopen : Token 0x7b input mid)
    (h : Sequence 0x7d (AnyMember inner) true mid xs output) : ValueOver inner input () output

/-- A value with at most `levels` levels, its own among them. -/
def Value : (levels : Nat) → Grammar Unit
  | 0 => fun _ _ _ => False
  | levels + 1 => ValueOver (Value levels)

/-! ### Typed values -/

/-- A list of what `item` spells. -/
inductive ListOf (item : Grammar α) : Grammar (List α) where
  | items {xs : List α} {input mid output : List UInt8} (hopen : Token 0x5b input mid)
    (h : Sequence 0x5d item true mid xs output) : ListOf item input xs output

/-- A member of a record: its field, or any other member. -/
inductive Member (field : String) (value : Grammar α) : Grammar (Option α) where
  | field {x : α} {input rest mid output : List UInt8} (hname : Text input field rest)
    (hcolon : Token 0x3a rest mid) (h : value mid x output) :
    Member field value input (some x) output
  | other {name : String} {levels : Nat} {input rest mid output : List UInt8}
    (hname : Text input name rest) (hne : name ≠ field) (hcolon : Token 0x3a rest mid)
    (h : Value levels mid () output) : Member field value input none output

/-- An object in which the field stands once or, as `none`, not at all. -/
inductive Object (field : String) (value : Grammar α) : Grammar (Option α) where
  | members {found : Option α} {ms : List (Option α)} {input mid output : List UInt8}
    (hopen : Token 0x7b input mid) (h : Sequence 0x7d (Member field value) true mid ms output)
    (hfound : ms.reduceOption = found.toList) : Object field value input found output

/-- A record with one field: an object that may have other members, or a list that has the field as
its only item. A `default` stands for a field that is not there. -/
inductive Record (field : String) (value : Grammar α) (default : Option α) : Grammar α where
  | object {found : Option α} {x : α} {input output : List UInt8}
    (h : Object field value input found output) (hx : found.or default = some x) :
    Record field value default input x output
  | list {x : α} {input rest mid output : List UInt8} (hopen : Token 0x5b input rest)
    (hx : value rest x mid) (hclose : Token 0x5d mid output) :
    Record field value default input x output
  | emptyList {x : α} {input mid output : List UInt8} (hopen : Token 0x5b input mid)
    (hclose : Token 0x5d mid output) (hx : default = some x) :
    Record field value default input x output

/-! ### Blanks -/

/-- Nothing but blanks. -/
def Blanks (bytes : List UInt8) : Prop :=
  ∀ b ∈ bytes, isBlankByte b = true

lemma blanks_nil : Blanks [] :=
  nofun

/-- Blanks are passed up to the first other byte. -/
lemma Blanks.token {blanks : List UInt8} (h : Blanks blanks) {b : UInt8}
    (hb : isBlankByte b = false) (output : List UInt8) :
    Token b (blanks ++ b :: output) output := by
  rw [Token, trim, List.dropWhile_append_of_pos h, List.dropWhile_cons_of_neg (by simp [hb])]

@[simp] lemma trim_trim (input : List UInt8) : trim (trim input) = trim input :=
  List.dropWhile_idempotent _ _

lemma Token.of_trim_eq {b : UInt8} {input input' output : List UInt8}
    (h : trim input' = trim input) (htoken : Token b input output) : Token b input' output :=
  h.trans htoken

/-- Before a token stands nothing but blanks. -/
lemma Token.trim_eq {b : UInt8} {input output : List UInt8} (h : Token b input output) :
    trim (b :: output) = trim input := by
  rw [← (h : trim input = b :: output), trim_trim]

lemma length_dropWhile_le (p : UInt8 → Bool) (input : List UInt8) :
    (input.dropWhile p).length ≤ input.length :=
  (List.dropWhile_sublist p).length_le

lemma Token.length_lt {b : UInt8} {input output : List UInt8} (h : Token b input output) :
    output.length < input.length := by
  have hle : (trim input).length ≤ input.length := length_dropWhile_le _ _
  rwa [h, List.length_cons] at hle

end Grammar

end StackForm.Json
