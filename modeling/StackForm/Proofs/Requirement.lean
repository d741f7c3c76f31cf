import StackForm.Proofs.Check
import StackForm.Proofs.Text.Utf8

/-!
# What a constraint table requires

For every table, document and rule set: `ConstraintTable.Meets` says, without any checking, what a
document must have for one constraint of a table, and `Constraint.Fault` what is wrong where it does
not. The table accepts the documents that meet all its constraints, in whatever order they stand,
and reports of any other the fault of the first constraint that is not met.
-/

namespace StackForm

/-! ### Absent values -/

namespace Json

/-- Null, the empty text and the empty list. -/
def Absent (v : Json) : Prop :=
  v = .null ∨ v = .str "" ∨ v = .arr []

/-- Nothing stands at the path, or what stands there is absent. -/
def AbsentAt (doc : Json) (path : String) : Prop :=
  ∀ v, doc.resolve? path = some v → v.Absent

lemma isAbsent_iff {v : Json} : v.isAbsent = true ↔ v.Absent := by
  cases v <;> simp [isAbsent, Absent]

lemma present?_eq_some_iff {doc v : Json} {path : String} :
    doc.present? path = some v ↔ doc.resolve? path = some v ∧ ¬ v.Absent := by
  rw [present?, Option.filter_eq_some_iff, Bool.not_eq_true', ← Bool.not_eq_true, isAbsent_iff]

lemma present?_eq_none_iff {doc : Json} {path : String} :
    doc.present? path = none ↔ doc.AbsentAt path := by
  simp [present?, Option.filter_eq_none_iff, AbsentAt, isAbsent_iff]

end Json

/-! ### Shapes -/

/-- The values of a shape. -/
def Shape.Describes : Shape → Json → Prop
  | .text, v => ∃ s, v = .str s
  | .flag, v => ∃ b, v = .bool b
  | .texts, v => ∃ l, v = .strings l
  | .object, v => ∃ members, v = .obj members

lemma Shape.isMatch_iff {shape : Shape} {v : Json} :
    shape.isMatch v = true ↔ shape.Describes v := by
  cases shape with
  | text => cases v <;> simp [isMatch, Json.isString, Describes]
  | flag => cases v <;> simp [isMatch, Json.isBool, Describes]
  | object => cases v <;> simp [isMatch, Json.isObject, Describes]
  | texts =>
    constructor
    · intro h
      cases v with
      | arr items => exact ⟨_, (Json.strings_textsOr h []).symm⟩
      | _ => simp [isMatch] at h
    · rintro ⟨l, rfl⟩
      exact isMatch_strings l

/-! ### Rules -/

namespace RuleSet

/-- A rule of that name is registered, and it holds of the text. -/
def Obeys (rules : RuleSet) (rule s : String) : Prop :=
  ∃ p, rules.rules.get? rule = some p ∧ p s = true

/-- The rule holds of a text, or of every text of a list; of other values nothing is asked. -/
structure Holds (rules : RuleSet) (rule : String) (v : Json) : Prop where
  text : ∀ s, v = .str s → rules.Obeys rule s
  texts : ∀ l, v = .strings l → ∀ s ∈ l, rules.Obeys rule s

/-- What is said of a text at a path that does not obey the rule. -/
def complaint (rules : RuleSet) (rule path : String) : RuleError :=
  if rules.contains rule then .violation path rule else .unknownRule rule

variable {rules : RuleSet} {rule path s : String}

lemma checkText_of_obeys (h : rules.Obeys rule s) : rules.checkText rule path s = .ok () := by
  obtain ⟨p, hp, hs⟩ := h
  simp [checkText, check, hp, hs, bind, Except.bind, pure, Except.pure]

lemma checkText_of_not_obeys (h : ¬ rules.Obeys rule s) :
    rules.checkText rule path s = .error (rules.complaint rule path) := by
  rw [checkText, check, complaint, contains, KeyMap.contains]
  cases hp : rules.rules.get? rule with
  | none => rfl
  | some p =>
    have hs : p s = false := Bool.eq_false_iff.2 fun hs => h ⟨p, hp, hs⟩
    simp [hs, bind, Except.bind, throw, throwThe, MonadExceptOf.throw]

lemma checkItems_of_obeys {l : List String} (h : ∀ s ∈ l, rules.Obeys rule s) (i : Nat) :
    rules.checkItems rule path i (l.map .str) = .ok () := by
  induction l generalizing i with
  | nil => rfl
  | cons s rest ih =>
    obtain ⟨hs, hrest⟩ := List.forall_mem_cons.1 h
    rw [checkItems_cons, checkText_of_obeys hs]
    exact ih hrest (i + 1)

/-- The first text that does not obey the rule is reported at its index. -/
lemma checkItems_of_first {front back : List String} (hfront : ∀ t ∈ front, rules.Obeys rule t)
    (hs : ¬ rules.Obeys rule s) (i : Nat) :
    rules.checkItems rule path i ((front ++ s :: back).map .str) =
      .error (rules.complaint rule (path ++ "[" ++ toString (i + front.length) ++ "]")) := by
  induction front generalizing i with
  | nil =>
    rw [List.nil_append, checkItems_cons, checkText_of_not_obeys hs]
    rfl
  | cons t front ih =>
    obtain ⟨ht, hfront⟩ := List.forall_mem_cons.1 hfront
    have hindex : i + 1 + front.length = i + (t :: front).length := by
      rw [List.length_cons]
      omega
    rw [List.cons_append, checkItems_cons, checkText_of_obeys ht, ← hindex]
    exact ih hfront (i + 1)

lemma checkValue_of_first {front back : List String} (hfront : ∀ t ∈ front, rules.Obeys rule t)
    (hs : ¬ rules.Obeys rule s) :
    rules.checkValue rule path (.strings (front ++ s :: back)) =
      .error (rules.complaint rule (path ++ "[" ++ toString front.length ++ "]")) := by
  rw [Json.strings, checkValue, checkItems_of_first hfront hs 0, Nat.zero_add]

lemma checkValue_of_holds {shape : Shape} {v : Json} (hshape : shape.Describes v)
    (h : rules.Holds rule v) : rules.checkValue rule path v = .ok () := by
  cases shape with
  | text =>
    obtain ⟨s, rfl⟩ := hshape
    exact checkText_of_obeys (h.text s rfl)
  | texts =>
    obtain ⟨l, rfl⟩ := hshape
    exact checkItems_of_obeys (h.texts l rfl) 0
  | flag =>
    obtain ⟨b, rfl⟩ := hshape
    rfl
  | object =>
    obtain ⟨members, rfl⟩ := hshape
    rfl

lemma exists_first {l : List String} (h : ¬ ∀ s ∈ l, rules.Obeys rule s) :
    ∃ front s back, l = front ++ s :: back ∧ (∀ t ∈ front, rules.Obeys rule t) ∧
      ¬ rules.Obeys rule s := by
  induction l with
  | nil => simp at h
  | cons s rest ih =>
    by_cases hs : rules.Obeys rule s
    · have hrest : ¬ ∀ t ∈ rest, rules.Obeys rule t := fun hrest =>
        h (List.forall_mem_cons.2 ⟨hs, hrest⟩)
      obtain ⟨front, t, back, rfl, hfront, ht⟩ := ih hrest
      exact ⟨s :: front, t, back, rfl, List.forall_mem_cons.2 ⟨hs, hfront⟩, ht⟩
    · exact ⟨[], s, rest, rfl, by simp, hs⟩

end RuleSet

/-! ### Constraints -/

/-- Behind a proper front an item stands, so looking at it always gives an answer. -/
lemma getElem?_behind_front {α : Type} [BEq α] [LawfulBEq α] {front l : List α} {b : α} :
    (if front.length < l.length ∧ front.isPrefixOf l then l[front.length]?.map (· == b)
      else some false) = some ((front ++ [b]).isPrefixOf l) := by
  split
  · next h =>
    obtain ⟨hlength, hprefix⟩ := h
    obtain ⟨rest, rfl⟩ := List.isPrefixOf_iff_prefix.1 hprefix
    cases rest with
    | nil => simp at hlength
    | cons c rest =>
      have hitem : (front ++ c :: rest)[front.length]? = some c := by simp
      rw [hitem, Option.map_some, Option.some.injEq, Bool.eq_iff_iff, List.isPrefixOf_iff_prefix,
        List.prefix_append_right_inj, List.cons_prefix_cons, beq_iff_eq, eq_comm]
      simp
  · next h =>
    have hnot : ¬ front ++ [b] <+: l := by
      rintro ⟨rest, rfl⟩
      simp at h
    rw [← List.isPrefixOf_iff_prefix, Bool.not_eq_true] at hnot
    rw [hnot]

/-- The test on the bytes always has an answer, which is that of the same test on characters. -/
lemma Constraint.below?_eq (k a : Constraint) :
    k.below? a = some ((a.path.toList ++ ['.']).isPrefixOf k.path.toList) := by
  have hdot : Utf8.encode a.path ++ [0x2e] = Utf8.bytes (a.path.toList ++ ['.']) := by
    rw [Utf8.encode_eq, Utf8.bytes_append]
    rfl
  have hprefix : (Utf8.encode a.path ++ [0x2e]).isPrefixOf (Utf8.encode k.path) =
      (a.path.toList ++ ['.']).isPrefixOf k.path.toList := by
    rw [hdot, Utf8.encode_eq, Bool.eq_iff_iff, List.isPrefixOf_iff_prefix,
      List.isPrefixOf_iff_prefix, Utf8.bytes_prefix_bytes_iff]
  rw [← hprefix, ← getElem?_behind_front]
  rfl

/-- What is wrong with a document where it does not meet a constraint. -/
inductive Constraint.Fault (rules : RuleSet) (doc : Json) (k : Constraint) : RuleError → Prop where
  | missing (hrequired : k.required = true) (habsent : doc.AbsentAt k.path) :
      Fault rules doc k (.violation k.path "required")
  | misshapen {v : Json} (hv : doc.resolve? k.path = some v) (hthere : ¬ v.Absent)
      (hshape : ¬ k.shape.Describes v) :
      Fault rules doc k (.shapeMismatch k.path k.shape.name)
  | text {s rule : String} (hv : doc.resolve? k.path = some (.str s)) (hthere : s ≠ "")
      (hshape : k.shape = .text) (hrule : k.rule = some rule) (hs : ¬ rules.Obeys rule s) :
      Fault rules doc k (rules.complaint rule k.path)
  | item {front back : List String} {s rule : String}
      (hv : doc.resolve? k.path = some (.strings (front ++ s :: back)))
      (hshape : k.shape = .texts) (hrule : k.rule = some rule)
      (hfront : ∀ t ∈ front, rules.Obeys rule t) (hs : ¬ rules.Obeys rule s) :
      Fault rules doc k
        (rules.complaint rule (k.path ++ "[" ++ toString front.length ++ "]"))

namespace ConstraintTable

/-- What a document must have for a constraint of a table. -/
inductive Meets (table : ConstraintTable) (rules : RuleSet) (doc : Json) (k : Constraint) : Prop
    where
  /-- The constraint is about something below an optional field that is absent. -/
  | excused {a : Constraint} {rest : String} (ha : a ∈ table) (hoptional : a.required = false)
      (hbelow : k.path = a.path ++ "." ++ rest) (habsent : doc.AbsentAt a.path)
  | absent (hoptional : k.required = false) (habsent : doc.AbsentAt k.path)
  | present {v : Json} (hv : doc.resolve? k.path = some v) (hthere : ¬ v.Absent)
      (hshape : k.shape.Describes v) (hrule : ∀ rule ∈ k.rule, rules.Holds rule v)

variable {table : ConstraintTable} {rules : RuleSet} {doc : Json} {k : Constraint}

/-- What a table asks for is not less if it has more constraints, save those that excuse. -/
lemma Meets.of_subset {table' : ConstraintTable} (h : table'.Meets rules doc k)
    (hsub : table' ⊆ table) : table.Meets rules doc k := by
  cases h with
  | excused ha hoptional hbelow habsent => exact .excused (hsub ha) hoptional hbelow habsent
  | absent hoptional habsent => exact .absent hoptional habsent
  | present hv hthere hshape hrule => exact .present hv hthere hshape hrule

/-- A value of the right shape that breaks its rule is at fault itself, or the first of its texts
that does. -/
lemma exists_fault_of_not_holds {v : Json} (hv : doc.resolve? k.path = some v)
    (hthere : ¬ v.Absent) (hshape : k.shape.Describes v)
    (h : ¬ ∀ rule ∈ k.rule, rules.Holds rule v) : ∃ e, k.Fault rules doc e := by
  simp only [not_forall, exists_prop] at h
  obtain ⟨rule, hrule, hholds⟩ := h
  cases hk : k.shape with
  | text =>
    rw [hk] at hshape
    obtain ⟨s, rfl⟩ := hshape
    have hs : ¬ rules.Obeys rule s := fun hs =>
      hholds ⟨fun t ht => Json.str.inj ht ▸ hs, fun l hl => by simp [Json.strings] at hl⟩
    exact ⟨_, .text hv (by simpa [Json.Absent] using hthere) hk hrule hs⟩
  | texts =>
    rw [hk] at hshape
    obtain ⟨l, rfl⟩ := hshape
    have hl : ¬ ∀ s ∈ l, rules.Obeys rule s := fun hl =>
      hholds ⟨fun t ht => by simp [Json.strings] at ht,
        fun l' hl' => Json.strings_injective hl' ▸ hl⟩
    obtain ⟨front, s, back, rfl, hfront, hs⟩ := RuleSet.exists_first hl
    exact ⟨_, .item hv hk hrule hfront hs⟩
  | flag =>
    rw [hk] at hshape
    obtain ⟨b, rfl⟩ := hshape
    exact absurd ⟨fun s hs => by simp at hs, fun l hl => by simp [Json.strings] at hl⟩ hholds
  | object =>
    rw [hk] at hshape
    obtain ⟨members, rfl⟩ := hshape
    exact absurd ⟨fun s hs => by simp at hs, fun l hl => by simp [Json.strings] at hl⟩ hholds

lemma isBelow_iff {a : Constraint} :
    k.isBelow a = true ↔ ∃ rest, k.path = a.path ++ "." ++ rest := by
  rw [Constraint.isBelow, k.below?_eq a, Option.getD_some, List.isPrefixOf_iff_prefix]
  constructor
  · rintro ⟨rest, h⟩
    refine ⟨String.ofList rest, String.toList_inj.1 ?_⟩
    simp [← h]
  · rintro ⟨rest, h⟩
    exact ⟨rest.toList, by simp [h]⟩

lemma skips_eq_true_iff :
    table.skips k doc = true ↔
      ∃ a ∈ table, a.required = false ∧ (∃ rest, k.path = a.path ++ "." ++ rest) ∧
        doc.AbsentAt a.path := by
  simp [skips, isBelow_iff, Json.present?_eq_none_iff, and_assoc]

lemma checkOne_of_meets (h : table.Meets rules doc k) : table.checkOne rules doc k = .ok () := by
  rw [checkOne]
  by_cases hskip : table.skips k doc = true
  · rw [if_pos hskip]
  rw [if_neg hskip]
  cases h with
  | excused ha hoptional hbelow habsent =>
    exact absurd (skips_eq_true_iff.2 ⟨_, ha, hoptional, ⟨_, hbelow⟩, habsent⟩) hskip
  | absent hoptional habsent =>
    rw [Json.present?_eq_none_iff.2 habsent]
    simp [hoptional]
  | @present v hv hthere hshape hrule =>
    rw [Json.present?_eq_some_iff.2 ⟨hv, hthere⟩]
    simp only [Shape.isMatch_iff.2 hshape, if_true]
    cases hr : k.rule with
    | none => rfl
    | some rule => exact RuleSet.checkValue_of_holds hshape (hrule rule hr)

/-- A fault is reported, unless the constraint is left out. -/
lemma checkOne_of_fault {e : RuleError} (hskip : table.skips k doc = false)
    (h : k.Fault rules doc e) : table.checkOne rules doc k = .error e := by
  rw [checkOne, hskip, if_neg Bool.false_ne_true]
  cases h with
  | missing hrequired habsent =>
    rw [Json.present?_eq_none_iff.2 habsent]
    simp [hrequired]
  | @misshapen v hv hthere hshape =>
    have hmatch : ¬ k.shape.isMatch v = true := fun h => hshape (Shape.isMatch_iff.1 h)
    rw [Json.present?_eq_some_iff.2 ⟨hv, hthere⟩]
    exact if_neg hmatch
  | text hv hthere hshape hrule hs =>
    have hpresent := Json.present?_eq_some_iff.2 ⟨hv, by simpa [Json.Absent] using hthere⟩
    rw [hpresent, hshape, hrule]
    exact RuleSet.checkText_of_not_obeys hs
  | item hv hshape hrule hfront hs =>
    have hpresent := Json.present?_eq_some_iff.2 ⟨hv, by simp [Json.Absent, Json.strings]⟩
    rw [hpresent, hshape, hrule]
    simp only [Shape.isMatch_strings, if_true]
    exact RuleSet.checkValue_of_first hfront hs

lemma meets_or_fault (table : ConstraintTable) (rules : RuleSet) (doc : Json) (k : Constraint) :
    table.Meets rules doc k ∨ table.skips k doc = false ∧ ∃ e, k.Fault rules doc e := by
  cases hskip : table.skips k doc with
  | true =>
    obtain ⟨a, ha, hoptional, ⟨rest, hbelow⟩, habsent⟩ := skips_eq_true_iff.1 hskip
    exact .inl (.excused ha hoptional hbelow habsent)
  | false =>
    cases hp : doc.present? k.path with
    | none =>
      have habsent := Json.present?_eq_none_iff.1 hp
      cases hrequired : k.required with
      | true => exact .inr ⟨rfl, _, .missing hrequired habsent⟩
      | false => exact .inl (.absent hrequired habsent)
    | some v =>
      obtain ⟨hv, hthere⟩ := Json.present?_eq_some_iff.1 hp
      by_cases hshape : k.shape.Describes v
      · by_cases hholds : ∀ rule ∈ k.rule, rules.Holds rule v
        · exact .inl (.present hv hthere hshape hholds)
        · exact .inr ⟨rfl, exists_fault_of_not_holds hv hthere hshape hholds⟩
      · exact .inr ⟨rfl, _, .misshapen hv hthere hshape⟩

theorem checkOne_eq_ok_iff : table.checkOne rules doc k = .ok () ↔ table.Meets rules doc k := by
  constructor
  · intro h
    rcases table.meets_or_fault rules doc k with hmeets | ⟨hskip, e, he⟩
    · exact hmeets
    · rw [checkOne_of_fault hskip he] at h
      cases h
  · exact checkOne_of_meets

theorem checkOne_eq_error_iff {e : RuleError} :
    table.checkOne rules doc k = .error e ↔
      ¬ table.Meets rules doc k ∧ k.Fault rules doc e := by
  constructor
  · intro h
    have hmeets : ¬ table.Meets rules doc k := by
      intro hmeets
      rw [checkOne_of_meets hmeets] at h
      cases h
    obtain ⟨hskip, e', he'⟩ := (table.meets_or_fault rules doc k).resolve_left hmeets
    rw [checkOne_of_fault hskip he'] at h
    cases h
    exact ⟨hmeets, he'⟩
  · rintro ⟨hmeets, he⟩
    obtain ⟨hskip, -⟩ := (table.meets_or_fault rules doc k).resolve_left hmeets
    exact checkOne_of_fault hskip he

/-! ### Tables -/

/-- The table accepts a document if all its constraints are met, in whatever order they stand.
Otherwise it reports the fault of the first constraint that is not met. -/
theorem validate_exact (table : ConstraintTable) (doc : Json) (rules : RuleSet) :
    (table.validate doc rules = .ok () ↔ ∀ k ∈ table, table.Meets rules doc k) ∧
    (∀ e, table.validate doc rules = .error e ↔
      ∃ before k after, table = before ++ k :: after ∧
        (∀ b ∈ before, table.Meets rules doc b) ∧ ¬ table.Meets rules doc k ∧
        k.Fault rules doc e) ∧
    ∀ table' : ConstraintTable, table'.Perm table →
      (table'.validate doc rules = .ok () ↔ table.validate doc rules = .ok ()) := by
  have hok : ∀ table : ConstraintTable,
      table.validate doc rules = .ok () ↔ ∀ k ∈ table, table.Meets rules doc k := by
    intro table
    simp only [validate, forM_eq_ok_iff, checkOne_eq_ok_iff]
  refine ⟨hok table, fun e => ?_, fun table' hperm => ?_⟩
  · simp only [validate, forM_eq_error_iff, checkOne_eq_ok_iff, checkOne_eq_error_iff]
  · rw [hok, hok]
    constructor
    · exact fun h k hk => (h k (hperm.mem_iff.2 hk)).of_subset hperm.subset
    · exact fun h k hk => (h k (hperm.mem_iff.1 hk)).of_subset hperm.symm.subset

end ConstraintTable

end StackForm
