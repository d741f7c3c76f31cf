import StackForm.Cluster.Decode
import StackForm.Proofs.Requirement

/-!
# Constraints on nested fields

A table may declare every part of a path, as an object, before the path itself. Such a table blames
a missing value where it is missing first: all that stands above the reported field is there. And no
table says anything of what lies below an optional field that is absent.
-/

namespace StackForm

/-! ### Dotted prefixes -/

namespace Text

/-- What stands before a separator, for each of them. -/
def fronts (separator : Char) : List Char → List (List Char)
  | [] => []
  | c :: rest =>
    (if c = separator then [[]] else []) ++ (fronts separator rest).map (c :: ·)

lemma mem_fronts {separator : Char} {text front : List Char} :
    front ∈ fronts separator text ↔ ∃ back, text = front ++ separator :: back := by
  induction text generalizing front with
  | nil => simp [fronts]
  | cons c rest ih =>
    rw [fronts, List.mem_append]
    cases front with
    | nil => by_cases hc : c = separator <;> simp [hc]
    | cons d front =>
      have hnil : d :: front ∉ (if c = separator then [[]] else [] : List (List Char)) := by
        by_cases hc : c = separator <;> simp [hc]
      simp only [hnil, false_or, List.mem_map, ih, List.cons_append, List.cons.injEq]
      constructor
      · rintro ⟨_, ⟨back, rfl⟩, rfl, rfl⟩
        exact ⟨back, rfl, rfl⟩
      · rintro ⟨back, rfl, rfl⟩
        exact ⟨front, ⟨back, rfl⟩, rfl, rfl⟩

end Text

namespace Constraint

/-- The path of the constraint continues the given one after a dot. -/
def LiesBelow (k : Constraint) (front : String) : Prop :=
  ∃ rest, k.path = front ++ "." ++ rest

/-- The paths that the path of a constraint lies below. -/
def parents (k : Constraint) : List String :=
  (Text.fronts '.' k.path.toList).map String.ofList

lemma mem_parents {k : Constraint} {front : String} : front ∈ k.parents ↔ k.LiesBelow front := by
  simp only [parents, List.mem_map, Text.mem_fronts]
  constructor
  · rintro ⟨_, ⟨back, hback⟩, rfl⟩
    refine ⟨String.ofList back, String.toList_inj.1 ?_⟩
    simp [hback]
  · rintro ⟨rest, hrest⟩
    exact ⟨front.toList, ⟨rest.toList, by simp [hrest]⟩, String.ofList_toList⟩

lemma LiesBelow.trans {k a : Constraint} {front : String} (h : k.LiesBelow a.path)
    (ha : a.LiesBelow front) : k.LiesBelow front := by
  obtain ⟨rest, hrest⟩ := h
  obtain ⟨rest', hrest'⟩ := ha
  refine ⟨rest' ++ "." ++ rest, ?_⟩
  rw [hrest, hrest']
  simp only [String.append_assoc]

end Constraint

/-! ### Where errors are located -/

/-- The path at which an error is located, if it is. -/
def RuleError.path? : RuleError → Option String
  | .unknownRule _ => none
  | .violation path _ => some path
  | .shapeMismatch path _ => some path

/-- The error is located below the path. -/
def RuleError.Below (e : RuleError) (front : String) : Prop :=
  ∃ rest, e.path? = some (front ++ "." ++ rest)

variable {table : ConstraintTable} {rules : RuleSet} {doc : Json} {k : Constraint}

lemma RuleSet.path?_complaint {rule path path' : String}
    (h : (rules.complaint rule path).path? = some path') : path' = path := by
  rw [complaint] at h
  split at h <;> cases h
  rfl

/-- The index of an item has no dot in it, so an item lies below whatever its list lies below. -/
lemma Constraint.liesBelow_of_item {front rest : String} {i : Nat}
    (h : k.path ++ "[" ++ toString i ++ "]" = front ++ "." ++ rest) : k.LiesBelow front := by
  have hdigits : '.' ∉ Nat.toDigits 10 i := by
    intro hmem
    have hisDigit := Nat.isDigit_of_mem_toDigits (by decide) (by decide) hmem
    exact absurd hisDigit (by decide)
  have hchars : k.path.toList ++ ('[' :: (Nat.toDigits 10 i ++ [']'])) =
      front.toList ++ ('.' :: rest.toList) := by
    simpa using congrArg String.toList h
  rcases List.append_eq_append_iff.1 hchars with ⟨middle, -, hmiddle⟩ | ⟨middle, hpath, hmiddle⟩
  · have hmem : '.' ∈ '[' :: (Nat.toDigits 10 i ++ [']']) := by
      rw [hmiddle]
      exact List.mem_append_right _ List.mem_cons_self
    simp [hdigits] at hmem
  · cases middle with
    | nil => simp at hmiddle
    | cons c back =>
      obtain ⟨rfl, -⟩ := List.cons.inj hmiddle
      refine ⟨String.ofList back, String.toList_inj.1 ?_⟩
      simp [hpath]

/-- What is located below a path is the fault of a constraint below it. -/
lemma Constraint.Fault.liesBelow {e : RuleError} {front : String} (h : k.Fault rules doc e)
    (hbelow : e.Below front) : k.LiesBelow front := by
  obtain ⟨rest, hpath⟩ := hbelow
  cases h with
  | missing hrequired habsent => exact ⟨rest, Option.some.inj hpath⟩
  | misshapen hv hthere hshape => exact ⟨rest, Option.some.inj hpath⟩
  | text hv hthere hshape hrule hs => exact ⟨rest, (RuleSet.path?_complaint hpath).symm⟩
  | item hv hshape hrule hfront hs =>
    exact liesBelow_of_item (RuleSet.path?_complaint hpath).symm

/-- Unless a rule has that name, only a missing value is reported as required. -/
lemma Constraint.Fault.missing_of_required {path : String}
    (h : k.Fault rules doc (.violation path "required")) (hk : k.rule ≠ some "required") :
    k.path = path := by
  have hcomplaint : ∀ {rule at' : String}, k.rule = some rule →
      RuleError.violation path "required" ≠ rules.complaint rule at' := by
    intro rule at' hrule h
    rw [RuleSet.complaint] at h
    split at h <;> cases h
    exact hk hrule
  generalize he : RuleError.violation path "required" = e at h
  cases h with
  | missing hrequired habsent =>
    cases he
    rfl
  | misshapen hv hthere hshape => cases he
  | text hv hthere hshape hrule hs => exact absurd he (hcomplaint hrule)
  | item hv hshape hrule hfront hs => exact absurd he (hcomplaint hrule)

/-! ### Tables -/

namespace ConstraintTable

/-- Every path that a path of the table lies below is declared before it, as an object. -/
def ParentsFirst (table : ConstraintTable) : Prop :=
  ∀ before k after, table = before ++ k :: after → ∀ front, k.LiesBelow front →
    ∃ a ∈ before, a.path = front ∧ a.shape = .object

lemma parentsFirst_iff :
    table.ParentsFirst ↔ ∀ i, ∀ h : i < table.length, ∀ front ∈ table[i].parents,
      ∃ a ∈ table.take i, a.path = front ∧ a.shape = .object := by
  simp only [Constraint.mem_parents]
  constructor
  · intro h i hi
    refine h (table.take i) table[i] (table.drop (i + 1)) ?_
    rw [← List.drop_eq_getElem_cons hi, List.take_append_drop]
  · rintro h before k after rfl
    simpa using h before.length (by simp)

instance (table : ConstraintTable) : Decidable table.ParentsFirst :=
  decidable_of_iff _ parentsFirst_iff.symm

/-- The error that a table reports is a fault of the first constraint that is not met. -/
lemma validate_eq_error_iff {e : RuleError} :
    table.validate doc rules = .error e ↔
      ∃ before k after, table = before ++ k :: after ∧
        (∀ b ∈ before, table.Meets rules doc b) ∧ ¬ table.Meets rules doc k ∧
        k.Fault rules doc e := by
  simp only [validate, forM_eq_error_iff, checkOne_eq_ok_iff, checkOne_eq_error_iff]

/-- What is below an optional field that is absent is met. -/
lemma Meets.of_liesBelow {a : Constraint} (h : k.LiesBelow a.path) (ha : a ∈ table)
    (hoptional : a.required = false) (habsent : doc.AbsentAt a.path) :
    table.Meets rules doc k := by
  obtain ⟨rest, hrest⟩ := h
  exact .excused ha hoptional hrest habsent

/-- What is declared as an object and met is an object, if something below it is not met. -/
lemma Meets.isObject {a : Constraint} (ha : table.Meets rules doc a) (hmem : a ∈ table)
    (hshape : a.shape = .object) (hbelow : k.LiesBelow a.path)
    (hk : ¬ table.Meets rules doc k) : ∃ members, doc.resolve? a.path = some (.obj members) := by
  cases ha with
  | @excused b rest hb hoptional hab habsent =>
    exact absurd (.of_liesBelow (hbelow.trans ⟨rest, hab⟩) hb hoptional habsent) hk
  | absent hoptional habsent => exact absurd (.of_liesBelow hbelow hmem hoptional habsent) hk
  | present hv hthere hdescribes hrule =>
    rw [hshape] at hdescribes
    obtain ⟨members, rfl⟩ := hdescribes
    exact ⟨members, hv⟩

/-- A table that declares the parents first reports a missing value only where all that stands
above it is there. -/
lemma isObject_of_missing {path front rest : String} (htable : table.ParentsFirst)
    (hrules : ∀ k ∈ table, k.rule ≠ some "required")
    (h : table.validate doc rules = .error (.violation path "required"))
    (hpath : path = front ++ "." ++ rest) :
    ∃ members, doc.resolve? front = some (.obj members) := by
  obtain ⟨before, k, after, rfl, hbefore, hk, hfault⟩ := validate_eq_error_iff.1 h
  obtain rfl := hfault.missing_of_required (hrules k (by simp))
  obtain ⟨a, ha, rfl, hshape⟩ := htable before k after rfl front ⟨rest, hpath⟩
  exact (hbefore a ha).isObject (List.mem_append_left _ ha) hshape ⟨rest, hpath⟩ hk

/-- What is reported is the fault of a constraint that is not below any absent optional field. -/
lemma exists_fault_of_error {e : RuleError} (h : table.validate doc rules = .error e) :
    ∃ k ∈ table, k.Fault rules doc e ∧ ∀ a ∈ table, a.required = false →
      doc.AbsentAt a.path → ¬ k.LiesBelow a.path := by
  obtain ⟨before, k, after, rfl, -, hk, hfault⟩ := validate_eq_error_iff.1 h
  exact ⟨k, by simp, hfault, fun a ha hoptional habsent hbelow =>
    hk (.of_liesBelow hbelow ha hoptional habsent)⟩

end ConstraintTable

/-! ### The table of clusters -/

namespace Cluster

lemma parentsFirst_constraints : constraints.ParentsFirst := by
  decide +kernel

lemma rule_ne_required_of_mem_constraints : ∀ k ∈ constraints, k.rule ≠ some "required" := by
  decide +kernel

/-- The optional parts of a cluster. -/
def optionalParts : List String :=
  ["loadBalancer", "autoscalingGroup.iamInstanceProfile",
    "autoscalingGroup.iamInstanceProfile.policy"]

lemma exists_allow_of_mem_optionalParts :
    ∀ part ∈ optionalParts, ∃ a ∈ constraints, a.required = false ∧ a.path = part := by
  decide +kernel

/-- A table that declares the parents first, and names no rule `required`, blames a missing value at
the outermost level: all that stands above the reported path is an object. The table of clusters is
such a table, and reports nothing below an optional part that is absent. -/
theorem missing_blamed_outermost :
    (∀ (table : ConstraintTable) (rules : RuleSet) (doc : Json) (path : String),
      table.ParentsFirst → (∀ k ∈ table, k.rule ≠ some "required") →
      table.validate doc rules = .error (.violation path "required") →
      ∀ front rest, path = front ++ "." ++ rest →
        ∃ members, doc.resolve? front = some (.obj members)) ∧
    constraints.ParentsFirst ∧ (∀ k ∈ constraints, k.rule ≠ some "required") ∧
    ∀ (rules : RuleSet) (doc : Json),
      (∀ path, constraints.validate doc rules = .error (.violation path "required") →
        ∀ front rest, path = front ++ "." ++ rest →
          ∃ members, doc.resolve? front = some (.obj members)) ∧
      ∀ e, constraints.validate doc rules = .error e →
        ∃ k ∈ constraints, k.Fault rules doc e ∧
          ∀ part ∈ optionalParts, doc.AbsentAt part → ¬ k.LiesBelow part ∧ ¬ e.Below part := by
  refine ⟨fun table rules doc path htable hrules h front rest hpath => ?_,
    parentsFirst_constraints, rule_ne_required_of_mem_constraints,
    fun rules doc => ⟨fun path h front rest hpath => ?_, fun e h => ?_⟩⟩
  · exact ConstraintTable.isObject_of_missing htable hrules h hpath
  · exact ConstraintTable.isObject_of_missing parentsFirst_constraints
      rule_ne_required_of_mem_constraints h hpath
  · obtain ⟨k, hk, hfault, hout⟩ := ConstraintTable.exists_fault_of_error h
    refine ⟨k, hk, hfault, fun part hpart habsent => ?_⟩
    obtain ⟨a, ha, hoptional, rfl⟩ := exists_allow_of_mem_optionalParts part hpart
    have hbelow : ¬ k.LiesBelow a.path := hout a ha hoptional habsent
    exact ⟨hbelow, fun he => hbelow (hfault.liesBelow he)⟩

/-- The balancer is there, so its check of health is asked for a target; the profile is not, so
nothing of it is asked for. -/
theorem missing_blamed_outermost_target :
    let doc : Json := .obj [
      ("autoscalingGroup", .obj [("image", .str "ami-2b"), ("instanceType", .str "m3.large"),
        ("subnets", .obj [])]),
      ("loadBalancer", .obj [("healthCheck", .obj []), ("scheme", .str "internal")]),
      ("name", .str "web"), ("region", .str "eu-west-1"), ("vpcId", .str "vpc-1a")]
    constraints.ParentsFirst ∧ (∀ k ∈ constraints, k.rule ≠ some "required") ∧
    constraints.validate doc .standard =
      .error (.violation "loadBalancer.healthCheck.target" "required") ∧
    ∃ members, doc.resolve? "loadBalancer.healthCheck" = some (.obj members) := by
  intro doc
  have herror : constraints.validate doc .standard =
      .error (.violation "loadBalancer.healthCheck.target" "required") := by
    rfl
  exact ⟨parentsFirst_constraints, rule_ne_required_of_mem_constraints, herror,
    missing_blamed_outermost.1 constraints .standard doc "loadBalancer.healthCheck.target"
      parentsFirst_constraints rule_ne_required_of_mem_constraints herror
      "loadBalancer.healthCheck" "target" rfl⟩

end Cluster

end StackForm
