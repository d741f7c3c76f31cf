import StackForm.Proofs.Constraint
import StackForm.Proofs.Json.Layers

/-!
# Documents with declared members only

`restrict` drops from a document every member whose name is not declared at its place. Looking up a
declared name, the shapes of values, putting members in and laying one document over another all
commute with it, and a reader that looks at declared names only is blind to what was dropped.
-/

namespace StackForm

namespace Json

/-! ### Declared names -/

/-- The names that are declared for the members of a value, each with those declared below it. -/
inductive Names where
  | mk (members : List (String × Names))

namespace Names

/-- Nothing is declared. -/
def leaf : Names := mk []

/-- The names declared below a name, if that is declared itself. -/
def below? : Names → String → Option Names
  | mk members, key => members.lookup key

/-- The names declared below a path, if every name of it is declared. -/
def at? (names : Names) : List String → Option Names
  | [] => some names
  | key :: keys => (names.below? key).bind (·.at? keys)

end Names

mutual

/-- The document without the members whose names are not declared at their places. Nothing is
declared inside a list. -/
def restrict (names : Names) : Json → Json
  | .arr items => .arr (restrictItems items)
  | .obj members => .obj (restrictMembers names members)
  | doc => doc

def restrictItems : List Json → List Json
  | [] => []
  | x :: xs => restrict .leaf x :: restrictItems xs

def restrictMembers (names : Names) : List (String × Json) → List (String × Json)
  | [] => []
  | (k, v) :: rest =>
    match names.below? k with
    | some below => (k, restrict below v) :: restrictMembers names rest
    | none => restrictMembers names rest

end

variable {names below : Names} {key : String}

/-! ### Values -/

@[simp] lemma restrict_null (names : Names) : (null).restrict names = .null := rfl

@[simp] lemma restrict_bool (names : Names) (b : Bool) : (bool b).restrict names = .bool b := rfl

@[simp] lemma restrict_num (names : Names) (n : Number) : (num n).restrict names = .num n := rfl

@[simp] lemma restrict_str (names : Names) (s : String) : (str s).restrict names = .str s := rfl

@[simp] lemma restrict_arr (names : Names) (items : List Json) :
    (arr items).restrict names = .arr (restrictItems items) := rfl

@[simp] lemma restrict_obj (names : Names) (members : List (String × Json)) :
    (obj members).restrict names = .obj (restrictMembers names members) := rfl

lemma restrictItems_eq_map (items : List Json) :
    restrictItems items = items.map (restrict .leaf) := by
  induction items with
  | nil => rfl
  | cons x xs ih => exact congrArg (x.restrict .leaf :: ·) ih

@[simp] lemma restrict_strings (names : Names) (texts : List String) :
    (strings texts).restrict names = .strings texts := by
  simp [strings, restrictItems_eq_map, Function.comp_def]

@[simp] lemma isNull_restrict (doc : Json) : (doc.restrict names).isNull = doc.isNull := by
  cases doc <;> simp [isNull]

@[simp] lemma restrict_eq_null_iff {doc : Json} : doc.restrict names = .null ↔ doc = .null := by
  rw [← isNull_iff, ← isNull_iff, isNull_restrict]

@[simp] lemma isString_restrict (doc : Json) : (doc.restrict names).isString = doc.isString := by
  cases doc <;> simp [isString]

@[simp] lemma isObject_restrict (doc : Json) : (doc.restrict names).isObject = doc.isObject := by
  cases doc <;> simp [isObject]

@[simp] lemma isMatch_restrict (shape : Shape) (doc : Json) :
    shape.isMatch (doc.restrict names) = shape.isMatch doc := by
  cases shape with
  | texts =>
    cases doc with
    | arr items =>
      rw [restrict_arr, restrictItems_eq_map, Shape.isMatch, Shape.isMatch, List.all_map]
      exact congrArg items.all (funext isString_restrict)
    | _ => simp [Shape.isMatch]
  | _ => cases doc <;> simp [Shape.isMatch, isString, isBool, isObject]

/-! ### Members -/

@[simp] lemma restrictMembers_nil (names : Names) : restrictMembers names [] = [] := rfl

lemma restrictMembers_cons (names : Names) (k : String) (v : Json) (rest : List (String × Json)) :
    restrictMembers names ((k, v) :: rest) =
      match names.below? k with
      | some below => (k, v.restrict below) :: restrictMembers names rest
      | none => restrictMembers names rest := rfl

lemma restrictMembers_cons_declared (h : names.below? key = some below) (v : Json)
    (rest : List (String × Json)) :
    restrictMembers names ((key, v) :: rest) =
      (key, v.restrict below) :: restrictMembers names rest := by
  rw [restrictMembers_cons, h]

lemma restrictMembers_cons_undeclared (h : names.below? key = none) (v : Json)
    (rest : List (String × Json)) :
    restrictMembers names ((key, v) :: rest) = restrictMembers names rest := by
  rw [restrictMembers_cons, h]

/-- What stands under a name is restricted to what is declared below the name. -/
lemma lookup_restrictMembers (names : Names) (members : List (String × Json)) (key : String) :
    (restrictMembers names members).lookup key =
      (names.below? key).bind fun below => (members.lookup key).map (restrict below) := by
  induction members with
  | nil => simp
  | cons m rest ih =>
    obtain ⟨k, v⟩ := m
    rw [Keyed.lookup_cons]
    cases hk : names.below? k with
    | none =>
      rw [restrictMembers_cons_undeclared hk, ih]
      by_cases hkey : key = k
      · simp [hkey, hk]
      · rw [if_neg hkey]
    | some below =>
      rw [restrictMembers_cons_declared hk, Keyed.lookup_cons, ih]
      by_cases hkey : key = k
      · simp [hkey, hk]
      · rw [if_neg hkey, if_neg hkey]

lemma lookup_restrictMembers_declared (h : names.below? key = some below)
    (members : List (String × Json)) :
    (restrictMembers names members).lookup key = (members.lookup key).map (restrict below) := by
  rw [lookup_restrictMembers, h, Option.bind_some]

lemma get?_restrict (h : names.below? key = some below) (doc : Json) :
    (doc.restrict names).get? key = (doc.get? key).map (restrict below) := by
  cases doc with
  | obj members =>
    rw [restrict_obj]
    exact lookup_restrictMembers_declared h members
  | _ => simp [get?, members?]

lemma part_restrict (h : names.below? key = some below) (doc : Json) :
    (doc.restrict names).part key = (doc.part key).restrict below := by
  rw [part, part, get?_restrict h]
  cases doc.get? key <;> simp

/-- A declared path leads to what it led to, restricted. -/
lemma at?_restrict {keys : List String} (h : names.at? keys = some below) (doc : Json) :
    (doc.restrict names).at? keys = (doc.at? keys).map (restrict below) := by
  induction keys generalizing names doc with
  | nil =>
    cases h
    rfl
  | cons key keys ih =>
    obtain ⟨next, hnext, h⟩ := Option.bind_eq_some_iff.1 h
    rw [at?_cons, at?_cons, get?_restrict hnext]
    cases doc.get? key with
    | none => rfl
    | some v => exact ih h v

/-! ### Putting and dropping members -/

lemma fst_mem_of_mem_restrictMembers {members : List (String × Json)} {m : String × Json}
    (h : m ∈ restrictMembers names members) : ∃ v, (m.1, v) ∈ members := by
  induction members with
  | nil => simp at h
  | cons e rest ih =>
    obtain ⟨k, v⟩ := e
    cases hk : names.below? k with
    | none =>
      rw [restrictMembers_cons_undeclared hk] at h
      obtain ⟨w, hw⟩ := ih h
      exact ⟨w, .tail _ hw⟩
    | some below =>
      rw [restrictMembers_cons_declared hk] at h
      rcases List.mem_cons.1 h with rfl | h
      · exact ⟨v, .head _⟩
      · obtain ⟨w, hw⟩ := ih h
        exact ⟨w, .tail _ hw⟩

lemma ascending_restrictMembers {members : List (String × Json)} (h : Keyed.Ascending members) :
    Keyed.Ascending (restrictMembers names members) := by
  induction members with
  | nil => exact .nil
  | cons e rest ih =>
    obtain ⟨k, v⟩ := e
    cases hk : names.below? k with
    | none =>
      rw [restrictMembers_cons_undeclared hk]
      exact ih h.tail
    | some below =>
      rw [restrictMembers_cons_declared hk]
      refine List.pairwise_cons.2 ⟨fun m hm => ?_, ih h.tail⟩
      obtain ⟨w, hw⟩ := fst_mem_of_mem_restrictMembers hm
      exact (List.pairwise_cons.1 h).1 (m.1, w) hw

section Members

variable {members : List (String × Json)} (hasc : Keyed.Ascending members)
include hasc

lemma restrictMembers_insert_declared (h : names.below? key = some below) (v : Json) :
    restrictMembers names (Keyed.insert key v members) =
      Keyed.insert key (v.restrict below) (restrictMembers names members) := by
  refine (ascending_restrictMembers (hasc.insert key v)).ext
    ((ascending_restrictMembers hasc).insert key _) fun other => ?_
  rw [lookup_restrictMembers, Keyed.lookup_insert, Keyed.lookup_insert, lookup_restrictMembers]
  by_cases hk : other = key <;> simp [hk, h]

lemma restrictMembers_insert_undeclared (h : names.below? key = none) (v : Json) :
    restrictMembers names (Keyed.insert key v members) = restrictMembers names members := by
  refine (ascending_restrictMembers (hasc.insert key v)).ext
    (ascending_restrictMembers hasc) fun other => ?_
  rw [lookup_restrictMembers, Keyed.lookup_insert, lookup_restrictMembers]
  by_cases hk : other = key <;> simp [hk, h]

lemma restrictMembers_erase (key : String) :
    restrictMembers names (Keyed.erase key members) =
      Keyed.erase key (restrictMembers names members) := by
  refine (ascending_restrictMembers (hasc.erase key)).ext
    ((ascending_restrictMembers hasc).erase key) fun other => ?_
  rw [lookup_restrictMembers, Keyed.lookup_erase, Keyed.lookup_erase, lookup_restrictMembers]
  by_cases hk : other = key
  · simp [hk]
  · rw [if_neg hk, if_neg hk]

end Members

/-! ### Layers -/

lemma Ordered.merge_lookup {under : List (String × Json)} {v : Json} (hu : (obj under).Ordered)
    (hv : v.Ordered) (key : String) : (merge (under.lookup key) v).Ordered := by
  cases hl : under.lookup key with
  | none => exact hv
  | some old =>
    have hold : old.Ordered := Every.of_get? hu hl
    exact hold.overlay hv

mutual

/-- Documents may be restricted before or after they are laid over one another. -/
theorem restrict_overlay (names : Names) : ∀ {doc base : Json}, base.Ordered → doc.Ordered →
    (overlay base doc).restrict names = overlay (base.restrict names) (doc.restrict names)
  | .null, _, _, _ => by simp
  | .bool _, _, _, _ | .num _, _, _, _ | .str _, _, _, _ | .arr _, _, _, _ => by
    rw [overlay_of_not_merging (by simp) (by simp [isObject]),
      overlay_of_not_merging (by simp) (by simp [isObject])]
  | .obj members, base, hb, hd => by
    cases base with
    | obj under =>
      rw [overlay_obj, restrict_obj, restrict_obj, restrict_obj, overlay_obj,
        restrictMembers_overlay names hb.1 hb.2 hd.2]
    | _ =>
      rw [overlay_of_not_merging (by simp) (by simp [isObject]),
        overlay_of_not_merging (by simp) (by simp [isObject])]

theorem restrictMembers_overlay (names : Names) : ∀ {members under : List (String × Json)},
    Keyed.Ascending under → EveryMember Keyed.Ascending under →
      EveryMember Keyed.Ascending members →
        restrictMembers names (overlayMembers under members) =
          overlayMembers (restrictMembers names under) (restrictMembers names members)
  | [], _, _, _, _ => rfl
  | (k, v) :: rest, under, hu, hevery, hd => by
    rw [overlayMembers_cons]
    by_cases hv : v = .null
    · rw [if_pos hv, restrictMembers_overlay names hu hevery hd.2]
      cases hk : names.below? k with
      | none => rw [restrictMembers_cons_undeclared hk]
      | some below =>
        rw [restrictMembers_cons_declared hk, overlayMembers_cons, if_pos (by simp [hv])]
    · have hmerge : (merge (under.lookup k) v).Ordered := Ordered.merge_lookup ⟨hu, hevery⟩ hd.1 k
      rw [if_neg hv, restrictMembers_overlay names (hu.insert k _)
        (everyMember_insert hmerge hevery) hd.2]
      cases hk : names.below? k with
      | none =>
        rw [restrictMembers_insert_undeclared hu hk, restrictMembers_cons_undeclared hk]
      | some below =>
        have hvalue : (merge (under.lookup k) v).restrict below =
            merge ((under.lookup k).map (restrict below)) (v.restrict below) := by
          cases hl : under.lookup k with
          | none => rfl
          | some old =>
            have hold : (obj under).Ordered := ⟨hu, hevery⟩
            exact restrict_overlay below (hold.of_get? hl) hd.1
        rw [restrictMembers_insert_declared hu hk, restrictMembers_cons_declared hk,
          overlayMembers_cons, if_neg (by simpa using hv), lookup_restrictMembers_declared hk,
          hvalue]

end

/-! ### Readers -/

variable {α β : Type} {read : Json → Except Mismatch α} {p : Json → Prop}

/-- A value that has the property is read alike with and without its undeclared members. -/
def Blind (names : Names) (read : Json → Except Mismatch α) (p : Json → Prop) : Prop :=
  ∀ v : Json, p v → read (v.restrict names) = read v

lemma readText_restrict (v : Json) : readText (v.restrict names) = readText v := by
  cases v <;> simp [readText, found]

lemma blind_text : Blind names readText fun _ => True :=
  fun v _ => readText_restrict v

lemma blind_flag : Blind names readFlag fun _ => True := by
  intro v _
  cases v <;> simp [readFlag, found]

lemma blind_texts : Blind names (readList readText) fun _ => True := by
  intro v _
  cases v with
  | arr items =>
    rw [restrict_arr, restrictItems_eq_map, readList, readList]
    induction items with
    | nil => rfl
    | cons x xs ih => rw [List.map_cons, readItems, readItems, readText_restrict, ih]
  | _ => simp [readList, found]

lemma Blind.option (h : Blind names read p) : Blind names (readOption read) p := by
  intro v hp
  by_cases hv : v = .null
  · rw [hv, restrict_null]
  · have hrestrict : v.restrict names ≠ .null := by simpa using hv
    rw [readOption_of_ne_null hrestrict, readOption_of_ne_null hv, h v hp]

/-- A declared member is read alike, whatever is done with it afterwards. -/
lemma Blind.member_bind (h : Blind below read p) {members : List (String × Json)} {default : α}
    {next next' : α → Except Mismatch β} (hkey : names.below? key = some below)
    (hp : p ((obj members).part key)) (hnext : ∀ a, next a = next' a) :
    (memberOr (restrictMembers names members) key read default >>= next) =
      (memberOr members key read default >>= next') := by
  have hread : memberOr (restrictMembers names members) key read default =
      memberOr members key read default := by
    rw [memberOr, memberOr, lookup_restrictMembers_declared hkey]
    cases hl : members.lookup key with
    | none => rfl
    | some v =>
      have hpart : (obj members).part key = v := part_of_get? hl
      rw [hpart] at hp
      exact h v hp
  rw [hread]
  exact bind_congr hnext

/-- A record is read alike if its members are. -/
lemma Blind.record {name : String} {ofMembers : List (String × Json) → Except Mismatch α}
    {ofFields : List Json → Except Mismatch α} (hp : ∀ v, p v → Shape.object.Admits v)
    (h : ∀ {members}, p (.obj members) →
      ofMembers (restrictMembers names members) = ofMembers members) :
    Blind names (readRecord name ofMembers ofFields) p := by
  intro v hv
  rcases (hp v hv).cases_object with rfl | ⟨members, rfl⟩
  · rw [restrict_null]
  · rw [restrict_obj]
    exact h hv

end Json

/-! ### Checks of shapes -/

namespace ConstraintTable

open Json

variable {names : Names} {table : ConstraintTable}

lemma checkShape_restrict {k : Constraint} (h : (names.at? (pathKeys k.path)).isSome = true)
    (doc : Json) : checkShape (doc.restrict names) k = checkShape doc k := by
  obtain ⟨below, hbelow⟩ := Option.isSome_iff_exists.1 h
  rw [checkShape, checkShape, resolve?, resolve?, at?_restrict hbelow]
  cases doc.at? (pathKeys k.path) with
  | none => rfl
  | some v => simp

/-- A table that checks declared fields only says the same of a document with and without the other
members. -/
lemma schemaCheck_restrict (h : ∀ k ∈ table, (names.at? (pathKeys k.path)).isSome = true)
    (doc : Json) : table.schemaCheck (doc.restrict names) = table.schemaCheck doc := by
  have hchecks : table.forM (checkShape (doc.restrict names)) = table.forM (checkShape doc) :=
    forM_congr fun k hk => checkShape_restrict (h k hk) doc
  rw [schemaCheck, schemaCheck, isObject_restrict, hchecks]

end ConstraintTable

end StackForm
