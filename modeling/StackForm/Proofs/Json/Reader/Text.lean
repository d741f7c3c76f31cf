import StackForm.Json.Writer
import StackForm.Proofs.Json.Reader.Quoted

/-!
# Reading a written text

A written text is read back, whatever its characters are. Each of them is escaped by a letter or by
its number, or stands for itself; in every case it spells the bytes of the character, and the law
for a whole text is the induction over its characters.
-/

namespace StackForm.Json

open Grammar

/-! ### Written characters -/

/-- How a character is written: by a letter that stands for it, by its number, or as it is. -/
inductive Escaping (c : Char) : List UInt8 → Prop where
  | letter {b : UInt8} (hc : Reader.letterEscape? b = some c) : Escaping c [0x5c, b]
  | number {high low : UInt8} (hc : c.toNat < 0x20) (hhigh : IsHexByte high (c.toNat / 16))
    (hlow : IsHexByte low (c.toNat % 16)) : Escaping c [0x5c, 0x75, 0x30, 0x30, high, low]
  | plain (hquote : c ≠ '"') (hslash : c ≠ '\\') (hc : 0x20 ≤ c.toNat) :
    Escaping c (String.utf8EncodeChar c)

lemma exists_isHexByte {d : Nat} (hd : d < 16) :
    ∃ b, String.utf8EncodeChar (Nat.digitChar d) = [b] ∧ IsHexByte b d := by
  refine ⟨UInt8.ofNat (Nat.digitChar d).toNat, ?_, ?_⟩
  · revert d
    decide
  · unfold IsHexByte
    revert d
    decide

lemma escaping (c : Char) : Escaping c (Utf8.bytes (escapedChar c)) := by
  by_cases hletter : c ∈ ['"', '\\', '\n', '\t', '\r', '\x08', '\x0c']
  · simp only [List.mem_cons, List.not_mem_nil, or_false] at hletter
    rcases hletter with rfl | rfl | rfl | rfl | rfl | rfl | rfl <;>
      exact .letter rfl
  · simp only [List.mem_cons, List.not_mem_nil, or_false, not_or] at hletter
    obtain ⟨hquote, hslash, hn, ht, hr, hb, hf⟩ := hletter
    rw [escapedChar, if_neg hquote, if_neg hslash, if_neg hn, if_neg ht, if_neg hr, if_neg hb,
      if_neg hf]
    split
    · next hc =>
      obtain ⟨high, hhigh, hhex⟩ := exists_isHexByte (d := c.toNat / 16) (by omega)
      obtain ⟨low, hlow, hlex⟩ := exists_isHexByte (d := c.toNat % 16) (by omega)
      simp only [Utf8.bytes_cons, hhigh, hlow]
      exact .number hc hhex hlex
    · next hc =>
      rw [Utf8.bytes_cons, Utf8.bytes_nil, List.append_nil]
      exact .plain hquote hslash (Nat.not_lt.1 hc)

lemma plain_of_mem_utf8EncodeChar {c : Char} (hquote : c ≠ '"') (hslash : c ≠ '\\')
    (hc : 0x20 ≤ c.toNat) {b : UInt8} (hb : b ∈ String.utf8EncodeChar c) :
    b ≠ 0x22 ∧ b ≠ 0x5c ∧ 0x20 ≤ b := by
  by_cases hlt : c.toNat < 0x80
  · rw [Utf8.utf8EncodeChar_of_lt hlt, List.mem_singleton] at hb
    have hnat : b.toNat = c.toNat := by
      rw [hb, UInt8.toNat_ofNat_of_lt' (Nat.lt_trans hlt (by decide))]
    refine ⟨?_, ?_, UInt8.le_iff_toNat_le.2 (hnat ▸ hc)⟩
    · rintro rfl
      exact hquote (Char.toNat_inj.1 hnat.symm)
    · rintro rfl
      exact hslash (Char.toNat_inj.1 hnat.symm)
  · have hle : 0x80 ≤ b := Utf8.le_of_mem_utf8EncodeChar (Nat.not_lt.1 hlt) hb
    refine ⟨?_, ?_, UInt8.le_trans (by decide) hle⟩
    · rintro rfl
      exact absurd hle (by decide)
    · rintro rfl
      exact absurd hle (by decide)

/-! ### Written texts -/

variable {input output bytes : List UInt8}

lemma escape_number {c : Char} {high low : UInt8} (hc : c.toNat < 0x20)
    (hhigh : IsHexByte high (c.toNat / 16)) (hlow : IsHexByte low (c.toNat % 16))
    (output : List UInt8) : Escape (0x75 :: 0x30 :: 0x30 :: high :: low :: output) c output := by
  have hzero : IsHexByte 0x30 0 := by
    unfold IsHexByte
    decide
  have hunit := HexUnit.digits hzero hzero hhigh hlow output
  have hvalue : ((0 * 16 + 0) * 16 + c.toNat / 16) * 16 + c.toNat % 16 = c.toNat := by omega
  rw [hvalue] at hunit
  have hescape := Escape.unit hunit (by omega)
  rwa [Char.ofNat_toNat] at hescape

/-- Bytes that neither end a text nor begin an escape spell themselves. -/
lemma quoted_plain_append {plain : List UInt8}
    (hplain : ∀ b ∈ plain, b ≠ 0x22 ∧ b ≠ 0x5c ∧ 0x20 ≤ b) (h : Quoted Escape input bytes output) :
    Quoted Escape (plain ++ input) (plain ++ bytes) output := by
  induction plain with
  | nil => exact h
  | cons b plain ih =>
    obtain ⟨⟨hquote, hslash, hb⟩, hplain⟩ := List.forall_mem_cons.1 hplain
    exact .plain hquote hslash hb (ih hplain)

/-- A written character spells its bytes. -/
lemma quoted_escapedChar_append (c : Char) (h : Quoted Escape input bytes output) :
    Quoted Escape (Utf8.bytes (escapedChar c) ++ input) (String.utf8EncodeChar c ++ bytes)
      output := by
  have hescape : Escaping c (Utf8.bytes (escapedChar c)) := escaping c
  generalize Utf8.bytes (escapedChar c) = written at *
  cases hescape with
  | letter hc => exact .escape (.letter hc input) h
  | number hc hhigh hlow => exact .escape (escape_number hc hhigh hlow input) h
  | plain hquote hslash hc =>
    exact quoted_plain_append (fun b => plain_of_mem_utf8EncodeChar hquote hslash hc) h

lemma quoted_escapedChars (cs : List Char) (output : List UInt8) :
    Quoted Escape (Utf8.bytes (cs.flatMap escapedChar) ++ 0x22 :: output) (Utf8.bytes cs)
      output := by
  induction cs with
  | nil => exact .close output
  | cons c cs ih =>
    rw [List.flatMap_cons, Utf8.bytes_append, List.append_assoc, Utf8.bytes_cons]
    exact quoted_escapedChar_append c ih

/-- A written text is read back. -/
theorem Reader.reads_text (s : String) (rest : List UInt8) :
    Reads text (Utf8.bytes (s.toList.flatMap escapedChar) ++ 0x22 :: rest) s rest := by
  refine recognizes_text.complete ?_
  rw [Utf8.encode_eq]
  exact quoted_escapedChars s.toList rest

end StackForm.Json
