import StackForm.Proofs.Json.Field

/-!
# What a constraint table accepts

A table is checked constraint by constraint, so it accepts a document if every constraint does, and
otherwise reports the first that does not. Of the document a constraint sees only the part that its
path reaches.
-/

namespace StackForm

/-! ### Checking in order -/

section Order

variable {α ε : Type} {check : α → Except ε Unit}

lemma forM_eq_ok_iff {l : List α} : l.forM check = .ok () ↔ ∀ x ∈ l, check x = .ok () := by
  induction l with
  | nil => simp [pure, Except.pure]
  | cons x rest ih =>
    rw [List.forM, bind_eq_ok_iff]
    simp only [ih, List.mem_cons, forall_eq_or_imp]
    exact ⟨fun ⟨_, hx, hrest⟩ => ⟨hx, hrest⟩, fun ⟨hx, hrest⟩ => ⟨(), hx, hrest⟩⟩

lemma forM_congr {check' : α → Except ε Unit} {l : List α} (h : ∀ x ∈ l, check x = check' x) :
    l.forM check = l.forM check' := by
  induction l with
  | nil => rfl
  | cons x rest ih =>
    rw [List.forM, List.forM, h x (.head _), ih fun y hy => h y (.tail _ hy)]

/-- The error is that of the first check that fails. -/
lemma forM_eq_error_iff {l : List α} {e : ε} :
    l.forM check = .error e ↔
      ∃ before x after, l = before ++ x :: after ∧ (∀ b ∈ before, check b = .ok ()) ∧
        check x = .error e := by
  induction l with
  | nil => simp [pure, Except.pure]
  | cons x rest ih =>
    rw [List.forM]
    cases hx : check x with
    | error e' =>
      constructor
      · rintro h
        cases h
        exact ⟨[], x, rest, rfl, by simp, hx⟩
      · rintro ⟨before, y, after, hl, hbefore, hy⟩
        cases before with
        | nil =>
          cases hl
          rw [hx] at hy
          exact hy
        | cons b before =>
          cases hl
          simp [hx] at hbefore
    | ok u =>
      change rest.forM check = .error e ↔ _
      rw [ih]
      constructor
      · rintro ⟨before, y, after, rfl, hbefore, hy⟩
        exact ⟨x :: before, y, after, rfl, by simpa [hx] using hbefore, hy⟩
      · rintro ⟨before, y, after, hl, hbefore, hy⟩
        cases before with
        | nil =>
          cases hl
          simp [hx] at hy
        | cons b before =>
          cases hl
          exact ⟨before, y, after, rfl, fun c hc => hbefore c (by simp [hc]), hy⟩

end Order

/-! ### Shapes -/

namespace Constraint

/-- The part of a document that a constraint is about. -/
def partOf (k : Constraint) (doc : Json) : Json :=
  doc.reach (Json.pathKeys k.path)

/-- The field holds a value, other than null, that is not of its shape. -/
def Misshapen (k : Constraint) (doc : Json) : Prop :=
  ∃ v, doc.resolve? k.path = some v ∧ v ≠ .null ∧ k.shape.isMatch v = false

lemma getD_resolve? (k : Constraint) (doc : Json) :
    (doc.resolve? k.path).getD .null = k.partOf doc :=
  doc.getD_at? _

lemma not_misshapen_iff {k : Constraint} {doc : Json} :
    ¬ k.Misshapen doc ↔ k.shape.Admits (k.partOf doc) := by
  rw [← getD_resolve?, Misshapen, Shape.Admits]
  cases doc.resolve? k.path with
  | none => simp
  | some v => by_cases hv : v = .null <;> simp [hv]

end Constraint

namespace ConstraintTable

variable {table : ConstraintTable} {doc : Json} {k : Constraint}

lemma checkShape_of_not_misshapen (h : ¬ k.Misshapen doc) : checkShape doc k = .ok () := by
  rw [Constraint.Misshapen] at h
  rw [checkShape]
  cases hr : doc.resolve? k.path with
  | none => rfl
  | some v =>
    by_cases hv : v = .null
    · simp [hv, Json.isNull]
    · simp [hr, hv] at h
      simp [h]

lemma checkShape_of_misshapen (h : k.Misshapen doc) :
    checkShape doc k = .error (.shapeMismatch k.path k.shape.name) := by
  obtain ⟨v, hr, hv, hm⟩ := h
  have hn : v.isNull = false := by
    rw [Bool.eq_false_iff, ne_eq, Json.isNull_iff]
    exact hv
  simp [checkShape, hr, hn, hm]

lemma checkShape_eq_ok_iff : checkShape doc k = .ok () ↔ ¬ k.Misshapen doc := by
  by_cases h : k.Misshapen doc
  · simp [checkShape_of_misshapen h, h]
  · simp [checkShape_of_not_misshapen h, h]

/-- The shapes of an object are right if no declared field has a value of another shape. -/
theorem schemaCheck_eq_ok_iff :
    table.schemaCheck doc = .ok () ↔
      doc.isObject = true ∧ ∀ k ∈ table, k.shape.Admits (k.partOf doc) := by
  rw [schemaCheck]
  by_cases hd : doc.isObject = true
  · simp only [hd, if_true, forM_eq_ok_iff, checkShape_eq_ok_iff, Constraint.not_misshapen_iff,
      true_and]
  · simp [hd]

/-- What is reported of an object is its first declared field that has a value of another shape. -/
theorem schemaCheck_eq_error_iff (hd : doc.isObject = true) {e : RuleError} :
    table.schemaCheck doc = .error e ↔
      ∃ before k after, table = before ++ k :: after ∧ (∀ b ∈ before, ¬ b.Misshapen doc) ∧
        k.Misshapen doc ∧ e = .shapeMismatch k.path k.shape.name := by
  simp only [schemaCheck, hd, if_true, forM_eq_error_iff, checkShape_eq_ok_iff]
  have herr : ∀ k, checkShape doc k = .error e ↔
      k.Misshapen doc ∧ e = .shapeMismatch k.path k.shape.name := by
    intro k
    by_cases h : k.Misshapen doc
    · simp [checkShape_of_misshapen h, h, eq_comm]
    · simp [checkShape_of_not_misshapen h, h]
  simp only [herr]

end ConstraintTable

end StackForm
