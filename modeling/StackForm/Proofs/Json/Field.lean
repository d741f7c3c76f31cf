import StackForm.Json.Form
import StackForm.Constraint
import StackForm.Proofs.Json.Overlay

/-!
# Fields of known shape

What a part gives for a field, once the checks of shapes have let it pass: the value that it holds,
or else the value that the field had. Reading the layered document gives the same, so the reader can
be left out of sight.
-/

namespace StackForm

/-! ### Shapes -/

/-- Null, or of the shape: what the checks of shapes let pass. -/
def Shape.Admits (shape : Shape) (v : Json) : Prop :=
  v = .null ∨ shape.isMatch v = true

instance (shape : Shape) (v : Json) : Decidable (shape.Admits v) :=
  inferInstanceAs (Decidable (_ ∨ _))

@[simp] lemma Shape.admits_null (shape : Shape) : shape.Admits .null := .inl rfl

lemma Shape.Admits.cases_object {v : Json} (h : Shape.object.Admits v) :
    v = .null ∨ ∃ members, v = .obj members := by
  rcases h with h | h
  · exact .inl h
  · cases v with
    | obj members => exact .inr ⟨members, rfl⟩
    | _ => simp [isMatch, Json.isObject] at h

namespace Json

/-- The text that a value is, or the text that was there. -/
def textOr (v : Json) (old : String) : String :=
  match v with
  | .str s => s
  | _ => old

/-- The truth value that a value is, or the one that was there. -/
def flagOr (v : Json) (old : Bool) : Bool :=
  match v with
  | .bool b => b
  | _ => old

/-- The texts of the list that a value is, or those that were there. -/
def textsOr (v : Json) (old : List String) : List String :=
  match v with
  | .arr items => items.map (·.textOr "")
  | _ => old

/-- The record that an object updates, or begins if there was none. -/
def recordOr {α : Type} (update : α → Json → α) (zero : α) (v : Json) (old : Option α) : Option α :=
  if v.isObject then some (update (old.getD zero) v) else old

@[simp] lemma textOr_null (old : String) : (null).textOr old = old := rfl

@[simp] lemma textOr_str (s old : String) : (str s).textOr old = s := rfl

@[simp] lemma flagOr_null (old : Bool) : (null).flagOr old = old := rfl

@[simp] lemma flagOr_bool (b old : Bool) : (bool b).flagOr old = b := rfl

@[simp] lemma textsOr_null (old : List String) : (null).textsOr old = old := rfl

@[simp] lemma textsOr_strings (texts old : List String) : (strings texts).textsOr old = texts := by
  simp [textsOr, strings, Function.comp_def]

lemma strings_injective : Function.Injective strings := by
  intro l l' h
  have htexts := congrArg (·.textsOr []) h
  simpa only [textsOr_strings] using htexts

/-- A list that has the shape of a list of texts is the list of its texts. -/
lemma strings_textsOr {items : List Json} (h : items.all isString = true) (old : List String) :
    strings ((arr items).textsOr old) = .arr items := by
  simp only [strings, textsOr, List.map_map, arr.injEq]
  refine (List.map_congr_left fun v hv => ?_).trans (List.map_id items)
  have hs : v.isString = true := List.all_eq_true.1 h v hv
  cases v with
  | str s => rfl
  | _ => simp [isString] at hs

/-- What is laid over a text, once it has passed as a text, leaves a text. -/
lemma overlay_str {v : Json} (h : Shape.text.Admits v) (old : String) :
    overlay (.str old) v = .str (v.textOr old) := by
  rcases h with rfl | h
  · simp
  · cases v with
    | str s => rw [overlay]; all_goals simp
    | _ => simp [Shape.isMatch, isString] at h

lemma overlay_bool {v : Json} (h : Shape.flag.Admits v) (old : Bool) :
    overlay (.bool old) v = .bool (v.flagOr old) := by
  rcases h with rfl | h
  · simp
  · cases v with
    | bool b => rw [overlay]; all_goals simp
    | _ => simp [Shape.isMatch, isBool] at h

lemma overlay_strings {v : Json} (h : Shape.texts.Admits v) (old : List String) :
    overlay (.strings old) v = .strings (v.textsOr old) := by
  rcases h with rfl | h
  · simp
  · cases v with
    | arr items =>
      rw [strings_textsOr h, overlay_of_not_merging] <;> simp [isObject]
    | _ => simp [Shape.isMatch] at h

/-! ### Reading -/

lemma readItems_str (texts : List String) : readItems readText (texts.map .str) = .ok texts := by
  induction texts with
  | nil => rfl
  | cons s rest ih =>
    rw [List.map_cons, readItems, ih]
    rfl

@[simp] lemma readList_strings (texts : List String) :
    readList readText (.strings texts) = .ok texts :=
  readItems_str texts

variable {α : Type} {members : List (String × Json)} {key : String}
  {read : Json → Except Mismatch α} {default a : α}

lemma memberOr_of_lookup {v : Json} (h : members.lookup key = some v) :
    memberOr members key read default = read v := by
  rw [memberOr, h]

lemma memberOr_of_lookup_none (h : members.lookup key = none) :
    memberOr members key read default = .ok default := by
  rw [memberOr, h]

/-- A part is read as the value, null as the default. -/
def ReadsAs (read : Json → Except Mismatch α) (default : α) (v : Json) (a : α) : Prop :=
  if v = .null then a = default else read v = .ok a

lemma readsAs_null : ReadsAs read default .null a ↔ default = a := by
  simp [ReadsAs, eq_comm]

lemma readsAs_obj {name : String} {ofMembers : List (String × Json) → Except Mismatch α}
    {ofFields : List Json → Except Mismatch α} :
    ReadsAs (readRecord name ofMembers ofFields) default (.obj members) a ↔
      ofMembers members = .ok a := by
  simp [ReadsAs, readRecord]

/-- A reader that refuses null refuses it in a member too, though it takes the default for a member
that is missing. -/
lemma memberOr_eq_ok_iff (hnull : ∀ a, read .null ≠ .ok a) :
    memberOr members key read default = .ok a ↔
      (obj members).get? key ≠ some .null ∧ ReadsAs read default ((obj members).part key) a := by
  have hget : (obj members).get? key = members.lookup key := rfl
  rw [part, hget, memberOr, ReadsAs]
  cases members.lookup key with
  | none => simp [eq_comm]
  | some v =>
    by_cases hv : v = .null
    · subst hv
      simp [hnull]
    · simp [hv]

/-- An optional value may be missing or null alike. -/
lemma memberOr_readOption {a : Option α} :
    memberOr members key (readOption read) none = .ok a ↔
      ReadsAs (readOption read) none ((obj members).part key) a := by
  have hget : (obj members).get? key = members.lookup key := rfl
  rw [part, hget, memberOr, ReadsAs]
  cases members.lookup key with
  | none => simp [eq_comm]
  | some v =>
    by_cases hv : v = .null
    · subst hv
      simp [readOption, eq_comm]
    · simp [hv]

/-! ### Members that are read as they stand -/

lemma memberOr_text (h : Shape.text.Admits ((obj members).part key)) {s old : String} :
    memberOr members key readText old = .ok s ↔
      (obj members).get? key ≠ some .null ∧ s = ((obj members).part key).textOr old := by
  rw [memberOr_eq_ok_iff (by simp [readText]), and_congr_right_iff]
  intro _
  generalize (obj members).part key = v at h ⊢
  rcases h with rfl | h
  · simp [ReadsAs]
  · cases v with
    | str t => simp [ReadsAs, readText, eq_comm]
    | _ => simp [Shape.isMatch, isString] at h

lemma memberOr_flag (h : Shape.flag.Admits ((obj members).part key)) {b old : Bool} :
    memberOr members key readFlag old = .ok b ↔
      (obj members).get? key ≠ some .null ∧ b = ((obj members).part key).flagOr old := by
  rw [memberOr_eq_ok_iff (by simp [readFlag]), and_congr_right_iff]
  intro _
  generalize (obj members).part key = v at h ⊢
  rcases h with rfl | h
  · simp [ReadsAs]
  · cases v with
    | bool c => simp [ReadsAs, readFlag, eq_comm]
    | _ => simp [Shape.isMatch, isBool] at h

lemma memberOr_texts (h : Shape.texts.Admits ((obj members).part key)) {texts old : List String} :
    memberOr members key (readList readText) old = .ok texts ↔
      (obj members).get? key ≠ some .null ∧ texts = ((obj members).part key).textsOr old := by
  rw [memberOr_eq_ok_iff (by simp [readList]), and_congr_right_iff]
  intro _
  generalize (obj members).part key = v at h ⊢
  rcases h with rfl | h
  · simp [ReadsAs]
  · cases v with
    | arr items =>
      have hread := readList_strings ((arr items).textsOr old)
      rw [strings_textsOr h] at hread
      simp [ReadsAs, hread, eq_comm]
    | _ => simp [Shape.isMatch] at h

lemma memberOr_record {name : String} {ofMembers : List (String × Json) → Except Mismatch α}
    {ofFields : List Json → Except Mismatch α} :
    memberOr members key (readRecord name ofMembers ofFields) default = .ok a ↔
      (obj members).get? key ≠ some .null ∧
        ReadsAs (readRecord name ofMembers ofFields) default ((obj members).part key) a :=
  memberOr_eq_ok_iff (by simp [readRecord])

/-! ### Optional records -/

@[simp] lemma get?_obj_optionalMember (name : String) (v : Option Json)
    (rest : List (String × Json)) (key : String) :
    (obj (optionalMember name v ++ rest)).get? key =
      if key = name then v.or ((obj rest).get? key) else (obj rest).get? key := by
  cases v <;> simp [optionalMember]

lemma readOption_of_ne_null {v : Json} (hv : v ≠ .null) :
    readOption read v = (read v).map some := by
  cases v with
  | null => exact absurd rfl hv
  | _ => rfl

lemma map_some_eq_ok_iff {x : Except Mismatch α} {a : Option α} :
    x.map some = .ok a ↔ ∃ b, x = .ok b ∧ some b = a := by
  cases x <;> simp [Except.map]

variable {update : α → Json → α} {zero : α} {v : Json} {a : Option α}

/-- An optional record is read as it stands where there was none. -/
lemma readsAs_readOption {P : Prop} (hv : Shape.object.Admits v)
    (h : ∀ b, ReadsAs read zero v b ↔ P ∧ update zero v = b) :
    ReadsAs (readOption read) none v a ↔ P ∧ v.recordOr update zero none = a := by
  rcases hv.cases_object with rfl | ⟨ms, rfl⟩
  · have hP : P := ((h zero).1 (readsAs_null.2 rfl)).1
    simp [readsAs_null, recordOr, isObject, hP]
  · have hread : ∀ b, read (.obj ms) = .ok b ↔ P ∧ update zero (.obj ms) = b := by
      simpa [ReadsAs] using h
    simp [ReadsAs, readOption_of_ne_null, map_some_eq_ok_iff, hread, recordOr, isObject, and_assoc]

/-- An optional record is read from what was laid over the record that was there. -/
lemma memberOr_readOption_of_layered {write : α → Json} {old : Option α} {P : Option α → Prop}
    (hl : members.lookup key = layered (old.map write) v) (hv : Shape.object.Admits v)
    (ho : v.Ordered) (hwrite : ∀ o, (write o).isObject = true) (hkeep : ∀ o, update o .null = o)
    (hfresh : ∀ b, ReadsAs read zero v b ↔ P none ∧ update zero v = b)
    (hover : ∀ o b, read (overlay (write o) v) = .ok b ↔ P (some o) ∧ update o v = b) :
    memberOr members key (readOption read) none = .ok a ↔
      P old ∧ v.recordOr update zero old = a := by
  cases old with
  | none =>
    rw [← readsAs_readOption hv hfresh]
    rw [Option.map_none, layered] at hl
    by_cases hn : v = .null
    · rw [if_pos hn] at hl
      rw [memberOr_of_lookup_none hl, hn, readsAs_null, Except.ok.injEq]
    · rw [if_neg hn] at hl
      rw [memberOr_of_lookup hl, ReadsAs, if_neg hn, merge]
  | some o =>
    have hne : overlay (write o) v ≠ .null := by
      obtain ⟨ms, hms, _⟩ := exists_overlay_obj _ (hwrite o) hv ho
      simp [hms]
    rw [Option.map_some, layered_some] at hl
    rw [memberOr_of_lookup hl, readOption_of_ne_null hne, map_some_eq_ok_iff]
    simp only [hover, and_assoc, exists_and_left, exists_eq_left']
    rcases hv.cases_object with rfl | ⟨ms, rfl⟩
    · simp [recordOr, isObject, hkeep]
    · simp [recordOr, isObject]

end Json

/-- A result of two steps is a result of the second at a result of the first. -/
lemma bind_eq_ok_iff {ε α β : Type} {x : Except ε α} {f : α → Except ε β} {b : β} :
    (x >>= f) = .ok b ↔ ∃ a, x = .ok a ∧ f a = .ok b := by
  cases x <;> simp [bind, Except.bind]

lemma toOption_eq_some_iff {ε α : Type} {x : Except ε α} {a : α} :
    x.toOption = some a ↔ x = .ok a := by
  cases x <;> simp [Except.toOption]

end StackForm
