/-!
# UTF-8

Bytes are read as characters piece by piece. A piece is a character, or a run of bytes that starts
like a character and does not finish as one; such a run ends before the first byte that cannot go on,
so the pieces of a text and their widths are determined by its bytes.
-/

namespace StackForm.Utf8

/-- The bytes of a text. -/
def encode (text : String) : List UInt8 :=
  text.toByteArray.data.toList

/-- The text whose bytes these are, if there is one. -/
def decode? (bytes : List UInt8) : Option String :=
  String.fromUTF8? ⟨bytes.toArray⟩

theorem decode?_encode (text : String) : decode? (encode text) = some text := by
  simp [decode?, encode, String.fromUTF8?, String.fromUTF8, text.isValidUTF8]

/-- A text is read from its own bytes only. -/
theorem decode?_eq_some_iff {bytes : List UInt8} {text : String} :
    decode? bytes = some text ↔ encode text = bytes := by
  constructor
  · intro h
    rw [decode?, String.fromUTF8?] at h
    split at h
    · cases h
      rfl
    · cases h
  · rintro rfl
    exact decode?_encode text

/-! ### Pieces -/

/-- What stands at one place of a byte string. -/
inductive Piece where
  | char (c : Char)
  | broken
  deriving DecidableEq

/-- Where a byte must lie to go on with a character that began with `lead`, for each byte that is
owed; `none` if no character begins so. -/
def tails? (lead : UInt8) : Option (List (UInt8 × UInt8)) :=
  if lead < 0x80 then some []
  else if lead < 0xc2 then none
  else if lead < 0xe0 then some [(0x80, 0xbf)]
  else if lead = 0xe0 then some [(0xa0, 0xbf), (0x80, 0xbf)]
  else if lead = 0xed then some [(0x80, 0x9f), (0x80, 0xbf)]
  else if lead < 0xf0 then some [(0x80, 0xbf), (0x80, 0xbf)]
  else if lead = 0xf0 then some [(0x90, 0xbf), (0x80, 0xbf), (0x80, 0xbf)]
  else if lead < 0xf4 then some [(0x80, 0xbf), (0x80, 0xbf), (0x80, 0xbf)]
  else if lead = 0xf4 then some [(0x80, 0x8f), (0x80, 0xbf), (0x80, 0xbf)]
  else none

/-- How many of the bytes owed are there. -/
def countTails : List (UInt8 × UInt8) → List UInt8 → Nat
  | (low, high) :: owed, b :: rest =>
    if low ≤ b && b ≤ high then countTails owed rest + 1 else 0
  | _, _ => 0

/-- The bits that a first byte adds to its character, when `owed` bytes follow it. -/
def leadBits (lead : UInt8) : (owed : Nat) → Nat
  | 0 => lead.toNat
  | 1 => lead.toNat % 32
  | 2 => lead.toNat % 16
  | _ => lead.toNat % 8

/-- The piece that begins with `lead`, and how many bytes of `rest` belong to it. -/
def pieceAt (lead : UInt8) (rest : List UInt8) : Piece × Nat :=
  match tails? lead with
  | none => (.broken, 0)
  | some owed =>
    let found := countTails owed rest
    if found = owed.length then
      let point := (rest.take found).foldl (fun n b => n * 64 + b.toNat % 64)
        (leadBits lead owed.length)
      (.char (Char.ofNat point), found)
    else (.broken, found)

/-- The pieces of a byte string whose first `skip` bytes belong to an earlier piece. -/
def piecesFrom : (skip : Nat) → List UInt8 → List Piece
  | _, [] => []
  | skip + 1, _ :: rest => piecesFrom skip rest
  | 0, b :: rest =>
    let (piece, width) := pieceAt b rest
    piece :: piecesFrom width rest

/-- The characters of a byte string, with U+FFFD in place of each broken piece. -/
def lossyChars (bytes : List UInt8) : List Char :=
  (piecesFrom 0 bytes).map fun
    | .char c => c
    | .broken => '\ufffd'

/-- How many bytes stand before the first broken piece. -/
def soundLengthFrom : (skip : Nat) → List UInt8 → Nat
  | _, [] => 0
  | skip + 1, _ :: rest => soundLengthFrom skip rest + 1
  | 0, b :: rest =>
    match pieceAt b rest with
    | (.broken, _) => 0
    | (.char _, width) => soundLengthFrom width rest + 1

end StackForm.Utf8
