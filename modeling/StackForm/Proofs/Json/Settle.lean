import StackForm.Proofs.Json.Layers

/-!
# Values that settle

A typed value is written as a document, another document is laid over it, and the whole is read
back. `Settles` says that doing this a second time with the same document gives the same value
again. Values that are no objects settle because the document replaces them; a record settles if its
fields do, for every name holds after the second time what it held after the first.
-/

namespace StackForm.Json

variable {α ρ : Type}

/-- What is written is read back, and what was read after a document was laid over a value, or over
nothing, is read again after the document is laid over it a second time. The property is one that
the document must have. -/
structure Settles (write : α → Json) (read : Json → Except Mismatch α) (p : Json → Prop) : Prop where
  read_write : ∀ a, read (write a) = .ok a
  settle : ∀ {old : Option α} {v : Json} {a : α}, v.Ordered → p v →
    read (merge (old.map write) v) = .ok a → read (overlay (write a) v) = .ok a

/-- What replaces every value is read alike each time. -/
lemma read_overlay_of_replaces {write : α → Json} {read : Json → Except Mismatch α}
    {old : Option α} {v : Json} {a : α} (hlaid : ∀ b, overlay (write b) v = v)
    (h : read (merge (old.map write) v) = .ok a) : read (overlay (write a) v) = .ok a := by
  cases old with
  | none => rwa [hlaid]
  | some o =>
    rw [Option.map_some, merge, hlaid] at h
    rwa [hlaid]

/-- A value that does not merge with an object settles: it is replaced, or it stays. -/
lemma Settles.of_not_merging {write : α → Json} {read : Json → Except Mismatch α} {p : Json → Prop}
    (hread : ∀ a, read (write a) = .ok a) (hwrite : ∀ a, (write a).isObject = false) :
    Settles write read p where
  read_write := hread
  settle {old v a} _ _ h := by
    by_cases hv : v = .null
    · rw [hv, overlay_null, hread]
    · exact read_overlay_of_replaces
        (fun b => overlay_of_not_merging hv (by simp [hwrite])) h

lemma settles_text : Settles .str readText fun _ => True :=
  .of_not_merging (fun _ => rfl) fun _ => rfl

lemma settles_flag : Settles .bool readFlag fun _ => True :=
  .of_not_merging (fun _ => rfl) fun _ => rfl

lemma settles_texts : Settles strings (readList readText) fun _ => True :=
  .of_not_merging readList_strings fun _ => rfl

lemma obj_ne_null (members : List (String × Json)) : obj members ≠ .null := by
  simp

/-- An optional value is read back from the member that it was written to, if it was. -/
lemma memberOr_readOption_of_map {write : α → Json} {read : Json → Except Mismatch α}
    {members : List (String × Json)} {key : String} {o : Option α}
    (hread : ∀ a, read (write a) = .ok a) (hwrite : ∀ a, write a ≠ .null)
    (hlookup : members.lookup key = o.map write) :
    memberOr members key (readOption read) none = .ok o := by
  cases o with
  | none => exact memberOr_of_lookup_none hlookup
  | some a =>
    rw [memberOr_of_lookup hlookup, readOption_of_ne_null (hwrite a), hread]
    rfl

/-! ### Members that are laid twice -/

/-- What is found in a place after a value was laid over what was there. Where nothing was there, a
null is found as it stands. -/
def Laid (old : Option Json) (v : Json) (found : Option Json) : Prop :=
  found = layered old v ∨ old = none ∧ v = .null ∧ found = some .null

lemma Laid.eq_merge {old found : Option Json} {v : Json} (h : Laid old v found) (hv : v ≠ .null) :
    found = some (merge old v) := by
  rcases h with h | ⟨-, hnull, -⟩
  · rw [h, layered, if_neg hv]
  · exact absurd hnull hv

lemma Laid.of_null {found : Option Json} (h : Laid none .null found) :
    found = none ∨ found = some .null := by
  rcases h with h | ⟨-, -, h⟩
  · exact .inl h
  · exact .inr h

lemma laid_get? (v : Json) (key : String) : Laid none (v.part key) (v.get? key) := by
  cases hk : v.get? key with
  | none =>
    have hnull : v.part key = .null := by rw [part, hk, Option.getD_none]
    rw [hnull]
    exact .inl rfl
  | some w =>
    rw [part_of_get? hk]
    by_cases hw : w = .null
    · exact .inr ⟨rfl, hw, congrArg some hw⟩
    · refine .inl ?_
      rw [layered, if_neg hw]
      rfl

/-- The document `v` was laid over a record, or over nothing, which gave the members `first`; it was
then laid over the record `r`, which gave the members `again`. -/
structure Relaid (write : ρ → Json) (v : Json) (first again : List (String × Json)) (r : ρ) :
    Prop where
  ordered : v.Ordered
  first : ∃ old : Option ρ, ∀ key,
    Laid (old.bind fun o => (write o).get? key) (v.part key) (first.lookup key)
  again : ∀ key, again.lookup key = layered ((write r).get? key) (v.part key)

section Members

variable {write : ρ → Json} {v : Json} {first again : List (String × Json)} {r : ρ}
  {field : α → Json} {get : ρ → α} {read : Json → Except Mismatch α} {p : Json → Prop}
  {key : String} {default : α}

lemma Relaid.lookup (h : Relaid write v first again r)
    (hget : ∀ r, (write r).get? key = some (field (get r))) :
    again.lookup key = some (overlay (field (get r)) (v.part key)) := by
  rw [h.again, hget, layered_some]

/-- A name under which no record writes anything holds what the document gives. -/
lemma Relaid.laid_of_unwritten (h : Relaid write v first again r)
    (hget : ∀ r, (write r).get? key = none) : Laid none (v.part key) (first.lookup key) := by
  obtain ⟨old, hlaid⟩ := h.first
  have hold : (old.bind fun o => (write o).get? key) = none := by
    cases old <;> simp [hget]
  rw [← hold]
  exact hlaid key

/-- What the document gives for a field was read from where it was laid. -/
lemma Relaid.read_first (h : Relaid write v first again r)
    (hget : ∀ r, (write r).get? key = some (field (get r))) (hv : v.part key ≠ .null)
    (hfirst : memberOr first key read default = .ok (get r)) :
    ∃ old : Option α, read (merge (old.map field) (v.part key)) = .ok (get r) := by
  obtain ⟨old, hlaid⟩ := h.first
  have hold : (old.bind fun o => (write o).get? key) = (old.map get).map field := by
    cases old <;> simp [hget]
  rw [memberOr_of_lookup ((hlaid key).eq_merge hv), hold] at hfirst
  exact ⟨old.map get, hfirst⟩

/-- A field that every record has is read the second time as it was the first time. -/
lemma Relaid.member (h : Relaid write v first again r) (hs : Settles field read p)
    (hget : ∀ r, (write r).get? key = some (field (get r))) (hp : p (v.part key))
    (hfirst : memberOr first key read default = .ok (get r)) :
    memberOr again key read default = .ok (get r) := by
  rw [memberOr_of_lookup (h.lookup hget)]
  by_cases hv : v.part key = .null
  · rw [hv, overlay_null, hs.read_write]
  · obtain ⟨old, hread⟩ := h.read_first hget hv hfirst
    exact hs.settle (h.ordered.part key) hp hread

/-- So is a field that a record may have. -/
lemma Relaid.optional {get : ρ → Option α} (h : Relaid write v first again r)
    (hs : Settles field read p) (hfield : ∀ a, field a ≠ .null)
    (hget : ∀ r, (write r).get? key = (get r).map field) (hp : p (v.part key))
    (hfirst : memberOr first key (readOption read) none = .ok (get r)) :
    memberOr again key (readOption read) none = .ok (get r) := by
  have hlookup : again.lookup key = layered ((get r).map field) (v.part key) := by
    rw [h.again, hget]
  by_cases hv : v.part key = .null
  · rw [hv, layered_null] at hlookup
    exact memberOr_readOption_of_map hs.read_write hfield hlookup
  · obtain ⟨old, hlaid⟩ := h.first
    have hold : (old.bind fun o => (write o).get? key) = (old.bind get).map field := by
      cases old <;> simp [hget]
    have hmerge : merge ((old.bind get).map field) (v.part key) ≠ .null := merge_ne_null hv
    rw [memberOr_of_lookup ((hlaid key).eq_merge hv), hold, readOption_of_ne_null hmerge,
      map_some_eq_ok_iff] at hfirst
    obtain ⟨a, ha, hr⟩ := hfirst
    have hover : merge (some (field a)) (v.part key) ≠ .null := merge_ne_null hv
    rw [merge] at hover
    rw [← hr, Option.map_some, layered_some] at hlookup
    rw [memberOr_of_lookup hlookup, readOption_of_ne_null hover,
      hs.settle (h.ordered.part key) hp ha, ← hr]
    rfl

end Members

/-! ### Records -/

section Records

variable {name : String} {ofMembers : List (String × Json) → Except Mismatch ρ}
  {ofFields : List Json → Except Mismatch ρ} {write : ρ → Json}

/-- Laying an object twice over a record, or over nothing, gives the members that are read. -/
lemma exists_relaid {old : Option ρ} {v : Json} {r : ρ} (hobj : ∀ r, (write r).isObject = true)
    (ho : v.Ordered) (hv : v.isObject = true)
    (hfirst : readRecord name ofMembers ofFields (merge (old.map write) v) = .ok r) :
    ∃ first again, Relaid write v first again r ∧ ofMembers first = .ok r ∧
      overlay (write r) v = .obj again := by
  obtain ⟨again, hagain, hlookup⟩ := exists_overlay_obj (write r) (hobj r) (.inr hv) ho
  cases old with
  | none =>
    cases v with
    | obj members =>
      exact ⟨members, again, ⟨ho, ⟨none, laid_get? (.obj members)⟩, hlookup⟩, hfirst, hagain⟩
    | _ => simp [isObject] at hv
  | some o =>
    obtain ⟨first, hlaid, hl⟩ := exists_overlay_obj (write o) (hobj o) (.inr hv) ho
    rw [Option.map_some, merge, hlaid] at hfirst
    exact ⟨first, again, ⟨ho, ⟨some o, fun key => .inl (hl key)⟩, hlookup⟩, hfirst, hagain⟩

/-- A record settles if the second reading of its members follows the first. A list of fields in
order replaces the record, and settles for that. -/
lemma Settles.record {p : Json → Prop} (hobj : ∀ r, (write r).isObject = true)
    (hread : ∀ r, readRecord name ofMembers ofFields (write r) = .ok r)
    (h : ∀ {v first again r}, Relaid write v first again r → p v →
      ofMembers first = .ok r → ofMembers again = .ok r) :
    Settles write (readRecord name ofMembers ofFields) p where
  read_write := hread
  settle {old v r} ho hp hfirst := by
    by_cases hv : v.isObject = true
    · obtain ⟨first, again, hrelaid, hread, hagain⟩ := exists_relaid hobj ho hv hfirst
      rw [hagain]
      exact h hrelaid hp hread
    · by_cases hnull : v = .null
      · rw [hnull, overlay_null, hread]
      · exact read_overlay_of_replaces
          (fun r => overlay_of_not_merging hnull (by simp [hv])) hfirst

end Records

end StackForm.Json
