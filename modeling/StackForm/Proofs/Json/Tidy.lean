import StackForm.Proofs.Json.RoundTrip

/-!
# Tidy documents

A tidy document can be written, read back and decoded with nothing lost. Texts, truth values and
lists of texts are tidy, and what is put together from tidy parts is, so the documents that records
are written as are tidy by their shape alone.
-/

namespace StackForm.Json

/-- The document can be written, read back and decoded with nothing lost: its members are in order,
neither it nor any member is null, and it is plain. -/
structure Tidy (levels : Nat) (doc : Json) : Prop where
  ne_null : doc ≠ .null
  ordered : doc.Ordered
  nullFree : doc.NullFree
  plain : doc.Plain levels

lemma tidy_str (levels : Nat) (s : String) : (str s).Tidy levels := by
  cases levels <;> exact ⟨nofun, trivial, trivial, trivial⟩

lemma tidy_bool (levels : Nat) (b : Bool) : (bool b).Tidy levels := by
  cases levels <;> exact ⟨nofun, trivial, trivial, trivial⟩

lemma tidy_strings (levels : Nat) (texts : List String) : (strings texts).Tidy (levels + 1) := by
  have hevery : ∀ p, (strings texts).Every p := by
    intro p
    rw [strings, Every]
    induction texts with
    | nil => trivial
    | cons s texts ih => exact ⟨trivial, ih⟩
  have hne : strings texts ≠ null := by
    rintro ⟨⟩
  refine ⟨hne, hevery _, hevery _, fun x hx => ?_⟩
  obtain ⟨s, -, rfl⟩ := List.mem_map.1 hx
  exact (tidy_str levels s).plain

lemma tidy_arr {levels : Nat} {items : List Json} (h : ∀ x ∈ items, x.Tidy levels) :
    (arr items).Tidy (levels + 1) where
  ne_null := nofun
  ordered := everyItem_iff.2 fun x hx => (h x hx).ordered
  nullFree := everyItem_iff.2 fun x hx => (h x hx).nullFree
  plain := fun x hx => (h x hx).plain

lemma tidy_obj {levels : Nat} {members : List (String × Json)} (hasc : Keyed.Ascending members)
    (h : ∀ m ∈ members, m.2.Tidy levels) : (obj members).Tidy (levels + 1) where
  ne_null := nofun
  ordered := ⟨hasc, everyMember_iff.2 fun m hm => (h m hm).ordered⟩
  nullFree := ⟨fun m hm => (h m hm).ne_null, everyMember_iff.2 fun m hm => (h m hm).nullFree⟩
  plain := fun m hm => (h m hm).plain

/-- The members of a tidy object are tidy, those of one level less. -/
lemma Tidy.of_obj {levels : Nat} {members : List (String × Json)}
    (h : (obj members).Tidy (levels + 1)) :
    Keyed.Ascending members ∧ ∀ m ∈ members, m.2.Tidy levels :=
  ⟨h.ordered.1, fun m hm => ⟨h.nullFree.1 m hm, everyMember_iff.1 h.ordered.2 m hm,
    everyMember_iff.1 h.nullFree.2 m hm, h.plain m hm⟩⟩

end StackForm.Json
