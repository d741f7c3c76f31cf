/-!
# Lists of keyed entries

A keyed list pairs string keys with values. `insert` keeps ascending keys ascending and replaces
the value of a key that is already there; reading is `List.lookup`. The look-up laws hold of every
list, ascending or not, so that they can be used on data whose order nobody has checked.
-/

namespace StackForm

namespace Keyed

variable {α : Type}

/-- Keys rise strictly from left to right, in the order of their UTF-8 bytes. -/
def Ascending (entries : List (String × α)) : Prop :=
  entries.Pairwise fun a b => a.1 < b.1

/-- Put `value` under `key`, before the first greater key, in place of what stood under `key`. -/
def insert (key : String) (value : α) : List (String × α) → List (String × α)
  | [] => [(key, value)]
  | (k, v) :: rest =>
    if key < k then (key, value) :: (k, v) :: rest
    else if key = k then (key, value) :: rest
    else (k, v) :: insert key value rest

/-- Drop every entry under `key`. -/
def erase (key : String) (entries : List (String × α)) : List (String × α) :=
  entries.filter fun e => e.1 != key

/-- The keys, in the order of their entries. -/
def keys (entries : List (String × α)) : List String :=
  entries.map (·.1)

/-- Some entry stands under `key`. -/
def contains (key : String) (entries : List (String × α)) : Bool :=
  (entries.lookup key).isSome

/-! ### Look-up -/

theorem lookup_cons (key k : String) (v : α) (rest : List (String × α)) :
    ((k, v) :: rest).lookup key = if key = k then some v else rest.lookup key := by
  by_cases h : key = k
  · subst h; simp
  · have : (key == k) = false := beq_eq_false_iff_ne.mpr h
    simp [List.lookup_cons, this, h]

theorem lookup_insert_self (key : String) (value : α) (entries : List (String × α)) :
    (insert key value entries).lookup key = some value := by
  induction entries with
  | nil => simp [insert]
  | cons e rest ih =>
    obtain ⟨k, v⟩ := e
    unfold insert
    split
    · simp
    · split
      · simp
      · next h => rw [lookup_cons, if_neg h, ih]

theorem lookup_insert_of_ne {key other : String} (h : other ≠ key) (value : α)
    (entries : List (String × α)) :
    (insert key value entries).lookup other = entries.lookup other := by
  induction entries with
  | nil => simp [insert, h]
  | cons e rest ih =>
    obtain ⟨k, v⟩ := e
    unfold insert
    split
    · rw [lookup_cons, if_neg h]
    · split
      · next hk => subst hk; rw [lookup_cons, lookup_cons, if_neg h, if_neg h]
      · rw [lookup_cons, lookup_cons, ih]

theorem lookup_insert (key other : String) (value : α) (entries : List (String × α)) :
    (insert key value entries).lookup other =
      if other = key then some value else entries.lookup other := by
  split
  · next h => rw [h, lookup_insert_self]
  · next h => exact lookup_insert_of_ne h value entries

theorem lookup_erase_self (key : String) (entries : List (String × α)) :
    (erase key entries).lookup key = none := by
  simp [erase, List.lookup_eq_none_iff]
  intro a b _ hne hab
  exact hne hab.symm

theorem lookup_erase_of_ne {key other : String} (h : other ≠ key) (entries : List (String × α)) :
    (erase key entries).lookup other = entries.lookup other := by
  induction entries with
  | nil => rfl
  | cons e rest ih =>
    obtain ⟨k, v⟩ := e
    by_cases hk : k = key
    · subst hk
      have : erase k ((k, v) :: rest) = erase k rest := by simp [erase]
      rw [this, ih, lookup_cons, if_neg h]
    · have : erase key ((k, v) :: rest) = (k, v) :: erase key rest := by simp [erase, hk]
      rw [this, lookup_cons, lookup_cons, ih]

/-! ### Order -/

theorem mem_insert {key : String} {value : α} {entries : List (String × α)} {e : String × α}
    (h : e ∈ insert key value entries) : e = (key, value) ∨ e ∈ entries := by
  induction entries with
  | nil => simp [insert] at h; exact .inl h
  | cons d rest ih =>
    obtain ⟨k, v⟩ := d
    unfold insert at h
    split at h
    · simp at h; rcases h with h | h | h
      · exact .inl h
      · exact .inr (by simp [h])
      · exact .inr (by simp [h])
    · split at h
      · simp at h; rcases h with h | h
        · exact .inl h
        · exact .inr (by simp [h])
      · simp at h; rcases h with h | h
        · exact .inr (by simp [h])
        · rcases ih h with h | h
          · exact .inl h
          · exact .inr (by simp [h])

/-- A key after all others goes to the end. -/
theorem insert_of_forall_lt {key : String} {entries : List (String × α)}
    (h : ∀ e ∈ entries, e.1 < key) (value : α) :
    insert key value entries = entries ++ [(key, value)] := by
  induction entries with
  | nil => rfl
  | cons e rest ih =>
    obtain ⟨k, v⟩ := e
    obtain ⟨hk, hrest⟩ := List.forall_mem_cons.1 h
    have hne : key ≠ k := fun heq => String.lt_irrefl k (heq ▸ hk)
    rw [insert, if_neg (String.lt_asymm hk), if_neg hne, ih hrest, List.cons_append]

theorem Ascending.nil : Ascending ([] : List (String × α)) := List.Pairwise.nil

/-- Entries ascend if their keys do. -/
theorem Ascending.of_keys {entries : List (String × α)} (names : List String)
    (hkeys : keys entries = names) (h : names.Pairwise (· < ·)) : Ascending entries := by
  rw [← hkeys] at h
  exact List.pairwise_map.1 h

theorem Ascending.insert {entries : List (String × α)} (h : Ascending entries) (key : String)
    (value : α) : Ascending (Keyed.insert key value entries) := by
  induction entries with
  | nil => simp [Keyed.insert, Ascending]
  | cons e rest ih =>
    obtain ⟨k, v⟩ := e
    have hrest : Ascending rest := h.tail
    have hhead : ∀ d ∈ rest, k < d.1 := (List.pairwise_cons.1 h).1
    unfold Keyed.insert
    split
    · next hlt =>
      refine List.pairwise_cons.2 ⟨?_, h⟩
      intro d hd
      rcases List.mem_cons.1 hd with rfl | hd
      · exact hlt
      · exact String.lt_trans hlt (hhead d hd)
    · split
      · next heq => subst heq; exact List.pairwise_cons.2 ⟨hhead, hrest⟩
      · next hge hne =>
        refine List.pairwise_cons.2 ⟨?_, ih hrest⟩
        intro d hd
        rcases mem_insert hd with rfl | hd
        · by_cases hlt : k < key
          · exact hlt
          · exact absurd (String.le_antisymm (String.not_lt.1 hlt) (String.not_lt.1 hge)).symm
              (fun h => hne h.symm)
        · exact hhead d hd

/-- The first key stands nowhere behind the first entry. -/
theorem Ascending.lookup_rest {k : String} {v : α} {rest : List (String × α)}
    (h : Ascending ((k, v) :: rest)) : rest.lookup k = none := by
  rw [List.lookup_eq_none_iff]
  intro e he
  have hlt : k < e.1 := (List.pairwise_cons.1 h).1 e he
  simp only [bne_iff_ne, ne_eq]
  rintro rfl
  exact String.lt_irrefl _ hlt

theorem Ascending.erase {entries : List (String × α)} (h : Ascending entries) (key : String) :
    Ascending (Keyed.erase key entries) :=
  List.Pairwise.filter _ h

/-- A key before the first one stands nowhere. -/
theorem Ascending.lookup_of_lt {k key : String} {v : α} {rest : List (String × α)}
    (h : Ascending ((k, v) :: rest)) (hlt : key < k) : ((k, v) :: rest).lookup key = none := by
  rw [List.lookup_eq_none_iff]
  intro e he
  have hle : key < e.1 := by
    rcases List.mem_cons.1 he with rfl | he
    · exact hlt
    · exact String.lt_trans hlt ((List.pairwise_cons.1 h).1 e he)
  simp only [bne_iff_ne, ne_eq]
  rintro rfl
  exact String.lt_irrefl _ hle

/-- Ascending entries are told by what stands under each key. -/
theorem Ascending.ext {xs ys : List (String × α)} (hx : Ascending xs) (hy : Ascending ys)
    (h : ∀ key, xs.lookup key = ys.lookup key) : xs = ys := by
  induction xs generalizing ys with
  | nil =>
    cases ys with
    | nil => rfl
    | cons e rest =>
      obtain ⟨l, w⟩ := e
      simpa using h l
  | cons d xs ih =>
    obtain ⟨k, v⟩ := d
    cases ys with
    | nil => simpa using h k
    | cons e ys =>
      obtain ⟨l, w⟩ := e
      have hkl : k = l := by
        by_cases hlt : k < l
        · have := h k
          rw [hy.lookup_of_lt hlt] at this
          simp at this
        · by_cases hgt : l < k
          · have := h l
            rw [hx.lookup_of_lt hgt] at this
            simp at this
          · exact String.le_antisymm (String.not_lt.1 hgt) (String.not_lt.1 hlt)
      subst hkl
      have hvw : v = w := by simpa using h k
      have hrest : xs = ys := by
        refine ih (List.Pairwise.of_cons hx) (List.Pairwise.of_cons hy) fun key => ?_
        by_cases hk : key = k
        · rw [hk, hx.lookup_rest, hy.lookup_rest]
        · simpa only [lookup_cons, if_neg hk] using h key
      rw [hvw, hrest]

theorem lookup_erase (key other : String) (entries : List (String × α)) :
    (erase key entries).lookup other = if other = key then none else entries.lookup other := by
  split
  · next h => rw [h, lookup_erase_self]
  · next h => exact lookup_erase_of_ne h entries

end Keyed

end StackForm
