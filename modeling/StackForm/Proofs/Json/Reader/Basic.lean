import StackForm.Json.Reader.Document
import Mathlib.Tactic.Lemma

/-!
# What readers read

`Reads r input a output` says that `r` gives `a` on every cursor that stands before `input`, and
leaves it before `output`; lines and columns do not matter to it. The relation composes like the
readers do, so that a text is read part by part, each part with whatever follows it.
-/

namespace StackForm

/-! ### Bytes of characters -/

namespace Utf8

/-- The bytes of the characters. -/
def bytes (cs : List Char) : List UInt8 :=
  cs.flatMap String.utf8EncodeChar

lemma encode_ofList (cs : List Char) : encode (String.ofList cs) = bytes cs := by
  simp [encode, bytes, List.utf8Encode]

lemma encode_eq (text : String) : encode text = bytes text.toList := by
  rw [← encode_ofList, String.ofList_toList]

@[simp] lemma bytes_nil : bytes [] = [] := rfl

@[simp] lemma bytes_cons (c : Char) (cs : List Char) :
    bytes (c :: cs) = String.utf8EncodeChar c ++ bytes cs := rfl

@[simp] lemma bytes_append (front back : List Char) :
    bytes (front ++ back) = bytes front ++ bytes back :=
  List.flatMap_append

lemma encode_singleton (c : Char) : encode (String.singleton c) = String.utf8EncodeChar c := by
  rw [encode_eq, String.toList_singleton, bytes_cons, bytes_nil, List.append_nil]

/-- A character of seven bits is one byte. -/
lemma utf8EncodeChar_of_lt {c : Char} (h : c.toNat < 0x80) :
    String.utf8EncodeChar c = [UInt8.ofNat c.toNat] := by
  have hle : c.val.toNat ≤ 127 := Nat.le_of_lt_succ h
  simp only [String.utf8EncodeChar, hle, if_true]
  rfl

/-- The bytes of any other character have their highest bit set. -/
lemma le_of_mem_utf8EncodeChar {c : Char} (h : 0x80 ≤ c.toNat) {b : UInt8}
    (hb : b ∈ String.utf8EncodeChar c) : 0x80 ≤ b := by
  have hgt : ¬ c.val.toNat ≤ 127 := Nat.not_le.2 h
  have hhigh : ∀ n low, 0x80 ≤ low → n + low < 0x100 → (0x80 : UInt8) ≤ UInt8.ofNat (n + low) := by
    intro n low hlow hlt
    rw [UInt8.le_iff_toNat_le, UInt8.toNat_ofNat_of_lt' hlt]
    exact Nat.le_add_left_of_le hlow
  simp only [String.utf8EncodeChar, hgt, if_false] at hb
  split at hb
  · simp only [List.mem_cons, List.not_mem_nil, or_false] at hb
    rcases hb with rfl | rfl <;> exact hhigh _ _ (by decide) (by omega)
  · split at hb
    · simp only [List.mem_cons, List.not_mem_nil, or_false] at hb
      rcases hb with rfl | rfl | rfl <;> exact hhigh _ _ (by decide) (by omega)
    · simp only [List.mem_cons, List.not_mem_nil, or_false] at hb
      rcases hb with rfl | rfl | rfl | rfl <;> exact hhigh _ _ (by decide) (by omega)

end Utf8

namespace Json

/-! ### Places -/

namespace Cursor

@[simp] lemma rest_step (c : Cursor) : c.step.rest = c.rest.tail := by
  rw [step]
  cases hc : c.rest with
  | nil => exact hc
  | cons b rest =>
    simp only [List.tail_cons]
    split <;> rfl

@[simp] lemma rest_steps (c : Cursor) (count : Nat) : (c.steps count).rest = c.rest.drop count := by
  induction count generalizing c with
  | zero => rfl
  | succ count ih => rw [steps, ih, rest_step, List.drop_tail, Nat.add_comm]

lemma rest_steps_takeWhile (c : Cursor) (p : UInt8 → Bool) :
    (c.steps (c.rest.takeWhile p).length).rest = c.rest.dropWhile p := by
  have hsplit : c.rest = c.rest.takeWhile p ++ c.rest.dropWhile p :=
    List.takeWhile_append_dropWhile.symm
  rw [rest_steps, congrArg (List.drop _) hsplit, List.drop_left]

end Cursor

/-! ### Readers -/

namespace Reader

variable {α β : Type} {input mid output : List UInt8}

/-- Before `input` the reader gives `a` and stops before `output`. -/
def Reads (r : Reader α) (input : List UInt8) (a : α) (output : List UInt8) : Prop :=
  ∀ c : Cursor, c.rest = input → ∃ c' : Cursor, r c = .ok (a, c') ∧ c'.rest = output

lemma Reads.pure (a : α) (input : List UInt8) : Reads (Pure.pure a) input a input :=
  fun c hc => ⟨c, rfl, hc⟩

lemma Reads.bind {r : Reader α} {f : α → Reader β} {a : α} {b : β} (hr : Reads r input a mid)
    (hf : Reads (f a) mid b output) : Reads (r >>= f) input b output := by
  intro c hc
  obtain ⟨c₁, hr, hc₁⟩ := hr c hc
  obtain ⟨c₂, hf, hc₂⟩ := hf c₁ hc₁
  refine ⟨c₂, ?_, hc₂⟩
  show Except.bind (r c) (fun p => f p.1 p.2) = _
  rw [hr]
  exact hf

lemma reads_peek (input : List UInt8) : Reads peek input input.head? input := by
  rintro c rfl
  exact ⟨c, rfl, rfl⟩

lemma reads_advance (b : UInt8) (rest : List UInt8) : Reads advance (b :: rest) () rest := by
  intro c hc
  exact ⟨c.step, rfl, by rw [Cursor.rest_step, hc, List.tail_cons]⟩

lemma reads_remaining (input : List UInt8) : Reads remaining input (input.length + 1) input := by
  rintro c rfl
  exact ⟨c, rfl, rfl⟩

lemma reads_word (w rest : List UInt8) : Reads (word w) (w ++ rest) () rest := by
  induction w with
  | nil => exact .pure () rest
  | cons b w ih =>
    refine (reads_peek _).bind ((reads_advance b _).bind ?_)
    rw [if_pos rfl]
    exact ih

end Reader

end Json

end StackForm
