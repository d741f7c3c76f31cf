import StackForm.Binary64.Shortest

/-!
# Numbers of JSON documents

Integers and double precision numbers are kept apart, and so are their texts: the text of a double
always has a fraction or an exponent.
-/

namespace StackForm.Json

/-- A number of a document. -/
inductive Number where
  | int (value : Int)
  | double (value : Binary64)
  deriving DecidableEq

namespace Number

/-- The greatest unsigned integer of 64 bits bounds the integers of a document from above. -/
def maxUnsigned : Nat := 18446744073709551615

/-- The least signed integer of 64 bits bounds them from below. -/
def minSigned : Int := -9223372036854775808

/-! ### Text -/

/-- How doubles are written: positionally when the exponent of the leading digit lies between the
bounds, else with an exponent. -/
structure Layout where
  leastPositional : Int
  positionalBelow : Int

/-- Doubles are written positionally from `0.00001` to just below `10 ^ 16`. -/
def layout : Layout := ⟨-5, 16⟩

def digitChars (n : Nat) : List Char :=
  Nat.toDigits 10 n

/-- An exponent with its sign. -/
def exponentChars (e : Int) : List Char :=
  match e with
  | .ofNat n => '+' :: digitChars n
  | .negSucc n => '-' :: digitChars (n + 1)

/-- The digits without the zeros at their end. -/
def trimZeros (digits : List Char) : List Char :=
  (digits.reverse.dropWhile (· == '0')).reverse

/-- The text of the decimal with these digits, the first of which stands for `10 ^ leading`. -/
def decimalChars (digits : List Char) (leading : Int) : List Char :=
  let places := digits.length
  if layout.leastPositional ≤ leading && leading < layout.positionalBelow then
    if leading < 0 then
      '0' :: '.' :: List.replicate (-leading - 1).toNat '0' ++ digits
    else
      let whole := leading.toNat + 1
      if places ≤ whole then digits ++ List.replicate (whole - places) '0' ++ ['.', '0']
      else digits.take whole ++ '.' :: digits.drop whole
  else
    match digits with
    | d :: rest@(_ :: _) => d :: '.' :: rest ++ 'e' :: exponentChars leading
    | digits => digits ++ 'e' :: exponentChars leading

/-- The text of a finite double: the fewest digits that read back. -/
def doubleChars (x : Binary64) : List Char :=
  let sign := if x.isNegative then ['-'] else []
  if x.isZero then sign ++ ['0', '.', '0']
  else
    let d := x.shortest
    let digits := digitChars d.digits
    sign ++ decimalChars (trimZeros digits) (d.exponent + digits.length - 1)

def intChars (n : Int) : List Char :=
  match n with
  | .ofNat n => digitChars n
  | .negSucc n => '-' :: digitChars (n + 1)

/-- The text of a number. -/
def chars : Number → List Char
  | .int n => intChars n
  | .double x => doubleChars x

end Number

end StackForm.Json
