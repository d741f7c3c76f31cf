import StackForm.Proofs.Json.Reader.Basic
import Mathlib.Data.String.Basic
import Mathlib.Tactic.SplitIfs

/-!
# The order of encoded texts

Texts are ordered by their characters, and their bytes are ordered in the same way: a greater
character has a greater first byte, or the same first byte and greater bytes after it. So the bytes
of one character never begin those of another, and texts begin alike if their bytes do.
-/

namespace StackForm.Utf8

/-! ### Characters -/

lemma ofNat_cons_lt_iff {m n : Nat} (hm : m < 256) (hn : n < 256) {bs bs' : List UInt8} :
    UInt8.ofNat m :: bs < UInt8.ofNat n :: bs' ↔ m < n ∨ m = n ∧ bs < bs' := by
  rw [List.cons_lt_cons_iff, UInt8.lt_iff_toNat_lt, ← UInt8.toNat_inj,
    UInt8.toNat_ofNat_of_lt' hm, UInt8.toNat_ofNat_of_lt' hn]

/-- The bytes of the greater character are greater, whatever follows. -/
lemma utf8EncodeChar_append_lt {c d : Char} (h : c < d) (bs bs' : List UInt8) :
    String.utf8EncodeChar c ++ bs < String.utf8EncodeChar d ++ bs' := by
  have hlt : c.val.toNat < d.val.toNat := h
  have hd : d.val.toNat < 0x110000 := by
    rcases d.valid with hd | hd
    · exact hd.trans (by decide)
    · exact hd.2
  simp only [String.utf8EncodeChar]
  generalize c.val.toNat = m at *
  generalize d.val.toNat = n at *
  -- the bits of a character in groups of six, one group after the other
  have h4096 (v : Nat) : v / 4096 = v / 64 / 64 := by omega
  have h262144 (v : Nat) : v / 262144 = v / 64 / 64 / 64 := by omega
  simp only [h4096, h262144]
  -- one case for each pair of lengths
  split_ifs <;>
    simp (disch := omega) only [List.cons_append, List.nil_append, ofNat_cons_lt_iff] <;>
    omega

/-! ### Texts -/

lemma bytes_lt_bytes {cs ds : List Char} (h : cs < ds) : bytes cs < bytes ds := by
  induction h with
  | @nil d ds =>
    obtain ⟨b, rest, hd⟩ := List.exists_cons_of_ne_nil (String.utf8EncodeChar_ne_nil (c := d))
    rw [bytes_nil, bytes_cons, hd]
    exact List.nil_lt_cons b _
  | rel h => exact utf8EncodeChar_append_lt h _ _
  | cons _ ih => exact List.append_left_lt ih

/-- The order of texts is that of their bytes. -/
theorem encode_lt_encode {a b : String} (h : a < b) : encode a < encode b := by
  rw [encode_eq, encode_eq]
  exact bytes_lt_bytes (String.lt_iff_toList_lt.1 h)

/-! ### Beginnings of texts -/

lemma utf8EncodeChar_append_inj {c d : Char} {bs bs' : List UInt8}
    (h : String.utf8EncodeChar c ++ bs = String.utf8EncodeChar d ++ bs') : c = d ∧ bs = bs' := by
  have hcd : c = d := by
    rcases lt_trichotomy c d with hlt | heq | hgt
    · have hbytes := utf8EncodeChar_append_lt hlt bs bs'
      rw [h] at hbytes
      exact absurd hbytes (List.lt_irrefl _)
    · exact heq
    · have hbytes := utf8EncodeChar_append_lt hgt bs' bs
      rw [h] at hbytes
      exact absurd hbytes (List.lt_irrefl _)
  subst hcd
  exact ⟨rfl, List.append_cancel_left h⟩

theorem bytes_prefix_bytes_iff {cs ds : List Char} : bytes cs <+: bytes ds ↔ cs <+: ds := by
  constructor
  · intro h
    induction cs generalizing ds with
    | nil => exact List.nil_prefix
    | cons c cs ih =>
      obtain ⟨rest, hrest⟩ := h
      rw [bytes_cons, List.append_assoc] at hrest
      cases ds with
      | nil => exact absurd (List.append_eq_nil_iff.1 hrest).1 String.utf8EncodeChar_ne_nil
      | cons d ds =>
        obtain ⟨rfl, htail⟩ := utf8EncodeChar_append_inj hrest
        exact List.cons_prefix_cons.2 ⟨rfl, ih ⟨rest, htail⟩⟩
  · rintro ⟨rest, rfl⟩
    exact ⟨bytes rest, (bytes_append cs rest).symm⟩

end StackForm.Utf8
