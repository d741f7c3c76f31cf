import StackForm.KeyMap
import Mathlib.Tactic.Lemma

/-!
# Maps built from pairs

A map that is built by binding pairs one after the other holds the last value of each key, and its
keys are those of the pairs. What is bound under a key is an entry, and the other way round.
-/

namespace StackForm

lemma Keyed.mem_keys_iff {α : Type} {entries : List (String × α)} {key : String} :
    key ∈ keys entries ↔ (entries.lookup key).isSome = true := by
  induction entries with
  | nil => simp [keys]
  | cons e rest ih =>
    obtain ⟨k, v⟩ := e
    rw [lookup_cons, keys, List.map_cons, List.mem_cons, ← keys, ih]
    by_cases h : key = k <;> simp [h]

lemma Keyed.lookup_eq_none_iff {α : Type} {entries : List (String × α)} {key : String} :
    entries.lookup key = none ↔ ∀ value, (key, value) ∉ entries := by
  rw [← Option.not_isSome_iff_eq_none, ← mem_keys_iff, keys]
  simp

namespace KeyMap

variable {α : Type} {map : KeyMap α} {key : String}

/-- Maps are told by what stands under each key. -/
lemma eq_of_get? {m n : KeyMap α} (h : ∀ key, m.get? key = n.get? key) : m = n :=
  KeyMap.ext (m.ascending.ext n.ascending h)

lemma contains_insert (map : KeyMap α) (key other : String) (value : α) :
    (map.insert key value).contains other = true ↔ other = key ∨ map.contains other = true := by
  rw [contains, contains, get?_insert]
  by_cases h : other = key
  · simp [h]
  · simp [h]

lemma mem_foldl_insert {pairs : List (String × α)} {e : String × α}
    (h : e ∈ (pairs.foldl (fun map pair => map.insert pair.1 pair.2) map).entries) :
    e ∈ map.entries ∨ e ∈ pairs := by
  induction pairs generalizing map with
  | nil => exact .inl h
  | cons pair rest ih =>
    rcases ih h with h | h
    · rcases Keyed.mem_insert h with rfl | h
      · exact .inr List.mem_cons_self
      · exact .inl h
    · exact .inr (List.mem_cons_of_mem _ h)

/-- The last value of a key stays. -/
lemma get?_foldl_insert {pairs : List (String × α)} (key : String) :
    (pairs.foldl (fun map pair => map.insert pair.1 pair.2) map).get? key =
      (pairs.reverse.lookup key).or (map.get? key) := by
  induction pairs generalizing map with
  | nil => rfl
  | cons pair rest ih =>
    rw [List.foldl_cons, ih, get?_insert, List.reverse_cons, List.lookup_append,
      Keyed.lookup_cons, Option.or_assoc]
    split <;> rfl

lemma contains_foldl_insert {pairs : List (String × α)} :
    (pairs.foldl (fun map pair => map.insert pair.1 pair.2) map).contains key = true ↔
      map.contains key = true ∨ key ∈ Keyed.keys pairs := by
  rw [contains, get?_foldl_insert, Option.isSome_or, Bool.or_eq_true, ← Keyed.mem_keys_iff, or_comm]
  simp [Keyed.keys, contains]

/-- The entries of a map that is built from pairs are among the pairs. -/
lemma mem_of_mem_ofList {pairs : List (String × α)} {e : String × α}
    (h : e ∈ (ofList pairs).entries) : e ∈ pairs := by
  rcases mem_foldl_insert h with h | h
  · cases h
  · exact h

lemma mem_keys_iff : key ∈ map.keys ↔ map.contains key = true :=
  Keyed.mem_keys_iff

lemma mem_keys_ofList {pairs : List (String × α)} :
    key ∈ (ofList pairs).keys ↔ key ∈ Keyed.keys pairs := by
  rw [mem_keys_iff, ofList, contains_foldl_insert]
  simp [contains]

/-- The value of a pair stays if no later pair has its key. -/
lemma get?_foldl_insert_of_notMem {pairs : List (String × α)} (h : key ∉ Keyed.keys pairs) :
    (pairs.foldl (fun map pair => map.insert pair.1 pair.2) map).get? key = map.get? key := by
  have hnone : pairs.reverse.lookup key = none := by
    rw [← Option.not_isSome_iff_eq_none, ← Keyed.mem_keys_iff]
    simpa [Keyed.keys] using h
  rw [get?_foldl_insert, hnone, Option.none_or]

lemma get?_ofList_of_mem {pairs : List (String × α)} {value : α}
    (hnodup : (Keyed.keys pairs).Nodup) (h : (key, value) ∈ pairs) :
    (ofList pairs).get? key = some value := by
  obtain ⟨front, back, rfl⟩ := List.append_of_mem h
  have hback : key ∉ Keyed.keys back := by
    simp only [Keyed.keys, List.map_append, List.map_cons, List.nodup_append, List.nodup_cons]
      at hnodup
    exact hnodup.2.1.1
  rw [ofList, List.foldl_append, List.foldl_cons, get?_foldl_insert_of_notMem hback,
    get?_insert_self]

lemma mem_entries_of_get? {value : α} (h : map.get? key = some value) :
    (key, value) ∈ map.entries := by
  obtain ⟨front, back, hentries, _⟩ := List.lookup_eq_some_iff.1 h
  rw [hentries]
  exact List.mem_append_right _ List.mem_cons_self

lemma mem_entries_iff {value : α} : (key, value) ∈ map.entries ↔ map.get? key = some value := by
  refine ⟨fun h => ?_, mem_entries_of_get?⟩
  obtain ⟨front, back, hentries⟩ := List.append_of_mem h
  have hascending := map.ascending
  rw [hentries, Keyed.Ascending, List.pairwise_append] at hascending
  refine List.lookup_eq_some_iff.2 ⟨front, back, hentries, fun e he => ?_⟩
  have hlt : e.1 < key := hascending.2.2 e he _ List.mem_cons_self
  simp only [bne_iff_ne, ne_eq]
  rintro rfl
  exact String.lt_irrefl _ hlt

end KeyMap

end StackForm
